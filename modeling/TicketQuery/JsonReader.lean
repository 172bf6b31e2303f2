import TicketQuery.JsonToken

/-! # Reading typed values from JSON tokens

A reader takes tokens from the front of a list and gives a value or a fault. Of several faults in a
text the one that is met first wins. The parameter `stop` is the length of the text in bytes. -/
namespace TicketQuery

structure JsonRead (α : Type) (ts : List JsonToken) where
  value : α
  rest : List JsonToken
  length_rest_le : rest.length ≤ ts.length

def JsonReader (α : Type) : Type := (ts : List JsonToken) → Except JsonFault (JsonRead α ts)

namespace JsonReader

protected def pure {α : Type} (a : α) : JsonReader α := fun ts => .ok ⟨a, ts, Nat.le_refl _⟩

protected def bind {α β : Type} (p : JsonReader α) (f : α → JsonReader β) : JsonReader β :=
  fun ts =>
  match p ts with
  | .error e => .error e
  | .ok r =>
    match f r.value r.rest with
    | .error e => .error e
    | .ok s => .ok ⟨s.value, s.rest, Nat.le_trans s.length_rest_le r.length_rest_le⟩

instance : Monad JsonReader where
  pure := JsonReader.pure
  bind := JsonReader.bind

/-- Takes one token, which must not be missing. -/
def token {α : Type} (missing : JsonFault) (f : JsonToken → Except JsonFault α) : JsonReader α
  | [] => .error missing
  | t :: ts => (f t).map fun a => ⟨a, ts, Nat.le_succ _⟩

end JsonReader

namespace JsonToken

/-- A fault met on looking at a token. -/
def refuse {α : Type} (t : JsonToken) (cause : JsonCause) : Except JsonFault α :=
  .error ⟨cause, t.start + 1⟩

/-- A fault met after a token has been taken. -/
def reject {α : Type} (t : JsonToken) (cause : JsonCause) : Except JsonFault α :=
  .error ⟨cause, t.stop⟩

/-- The scalar at a token. A list or an object is refused before it is entered. -/
def scalar {α : Type} (expected : JsonShape) (select : JsonScalar → Except JsonCause α)
    (t : JsonToken) : Except JsonFault α :=
  match t.kind with
  | .text reading | .bare reading =>
    match reading.value with
    | .error e => .error e
    | .ok v =>
      match select v with
      | .error cause => t.reject cause
      | .ok a => .ok a
  | .beginList => .error ⟨.wrongList expected, t.start⟩
  | .beginObject => .error ⟨.wrongObject expected, t.start⟩
  | _ => t.refuse .expectedValue

end JsonToken

namespace JsonReader

def valueEnds (stop : Nat) : JsonFault := ⟨.valueEnds, stop⟩

def text (stop : Nat) : JsonReader String :=
  token (valueEnds stop) (JsonToken.scalar .text fun
    | .text s => .ok s
    | v => .error (.wrongScalar v .text))

def boolean (stop : Nat) : JsonReader Bool :=
  token (valueEnds stop) (JsonToken.scalar .boolean fun
    | .boolean b => .ok b
    | v => .error (.wrongScalar v .boolean))

def size (stop : Nat) : JsonReader Nat :=
  token (valueEnds stop) (JsonToken.scalar .size fun
    | .integer n => if 0 ≤ n then .ok n.toNat else .error (.outOfRange n .size)
    | v => .error (.wrongScalar v .size))

def colon (stop : Nat) : JsonReader Unit :=
  token ⟨.objectEnds, stop⟩ fun t =>
    match t.kind with
    | .colon => .ok ()
    | _ => t.refuse .expectedColon

/-- The end of a list. -/
def endOfList (stop : Nat) : JsonReader Unit
  | [] => .error ⟨.listEnds, stop⟩
  | t :: ts =>
    match t.kind with
    | .endList => .ok ⟨(), ts, Nat.le_succ _⟩
    | .comma =>
      match ts with
      | [] => .error ⟨.trailingCharacters, stop⟩
      | u :: _ =>
        match u.kind with
        | .endList => u.refuse .trailingComma
        | _ => u.refuse .trailingCharacters
    | _ => t.refuse .trailingCharacters

/-- The end of an object. -/
def endOfObject (stop : Nat) : JsonReader Unit :=
  token ⟨.objectEnds, stop⟩ fun t =>
    match t.kind with
    | .endObject => .ok ()
    | .comma => t.refuse .trailingComma
    | _ => t.refuse .trailingCharacters

/-- Whether another element follows in a list; the comma before it is taken. -/
def hasElement (stop : Nat) (first : Bool) : JsonReader Bool
  | [] => .error ⟨.listEnds, stop⟩
  | t :: ts =>
    match t.kind, first with
    | .endList, _ => .ok ⟨false, t :: ts, Nat.le_refl _⟩
    | _, true => .ok ⟨true, t :: ts, Nat.le_refl _⟩
    | .comma, false =>
      match ts with
      | [] => .error (valueEnds stop)
      | u :: us =>
        match u.kind with
        | .endList => u.refuse .trailingComma
        | _ => .ok ⟨true, u :: us, Nat.le_succ _⟩
    | _, false => t.refuse .expectedListEnd

/-- A key at the front, and what follows it. -/
def key (stop : Nat) : (ts : List JsonToken) →
    Except JsonFault { p : String × List JsonToken // p.2.length < ts.length }
  | [] => .error (valueEnds stop)
  | t :: ts =>
    match t.kind with
    | .text reading =>
      match reading.value with
      | .error e => .error e
      | .ok (.text s) => .ok ⟨(s, ts), Nat.lt_succ_self _⟩
      | .ok _ => t.refuse .keyNotText
    | .endObject => t.refuse .trailingComma
    | _ => t.refuse .keyNotText

/-- The next key of an object, none if the object ends; the comma before it is taken. -/
def nextKey (stop : Nat) (first : Bool) : (ts : List JsonToken) →
    Except JsonFault (Option { p : String × List JsonToken // p.2.length < ts.length })
  | [] => .error ⟨.objectEnds, stop⟩
  | t :: ts =>
    match t.kind, first with
    | .endObject, _ => .ok none
    | _, true => (key stop (t :: ts)).map some
    | .comma, false => (key stop ts).map fun p => some ⟨p.1, Nat.lt_succ_of_lt p.2⟩
    | _, false => t.refuse .expectedObjectEnd

/-- Reads the members of an object one after the other, each from behind its key. -/
def members {σ : Type} (stop : Nat) (member : σ → String → JsonReader σ) (first : Bool)
    (state : σ) : JsonReader σ := fun ts =>
  match nextKey stop first ts with
  | .error e => .error e
  | .ok none => .ok ⟨state, ts, Nat.le_refl _⟩
  | .ok (some p) =>
    match member state p.1.1 p.1.2 with
    | .error e => .error e
    | .ok m =>
      match members stop member false m.value m.rest with
      | .error e => .error e
      | .ok r => .ok ⟨r.value, r.rest, by
          have := p.2
          have := m.length_rest_le
          have := r.length_rest_le
          omega⟩
termination_by ts => ts.length
decreasing_by
  have := p.2
  have := m.length_rest_le
  omega

/-- An object whose members are read one after the other. -/
def object {σ : Type} (stop : Nat) (expected : JsonShape) (member : σ → String → JsonReader σ)
    (state : σ) : JsonReader σ := do
  token (valueEnds stop) fun t =>
    match t.kind with
    | .beginObject => .ok ()
    | _ => t.scalar expected fun v => .error (.wrongScalar v expected)
  let state ← members stop member true state
  endOfObject stop
  pure state

end JsonReader

end TicketQuery
