import TicketQuery.JsonReader

/-! # Passing over JSON values

A value that nobody asks for still has to be well-formed. Its brackets are kept as a stack. -/
namespace TicketQuery

inductive JsonBracket where
  | list | object
  deriving DecidableEq, Repr

/-- What may come next, inside the brackets that are still open. -/
inductive SkipState where
  | value | opened | key | colon | after
  deriving DecidableEq, Repr

namespace SkipState

/-- The fault of a text that ends in this state. -/
def cutOff : SkipState → List JsonBracket → JsonCause
  | opened, .list :: _ | after, .list :: _ => .listEnds
  | value, _ => .valueEnds
  | _, _ => .objectEnds

def takeValue (brackets : List JsonBracket) (t : JsonToken) :
    Except JsonFault (SkipState × List JsonBracket) :=
  match t.kind with
  | .text reading | .bare reading => reading.skipped.map fun _ => (after, brackets)
  | .beginList => .ok (opened, .list :: brackets)
  | .beginObject => .ok (opened, .object :: brackets)
  | _ => t.refuse .expectedValue

def takeKey (brackets : List JsonBracket) (t : JsonToken) :
    Except JsonFault (SkipState × List JsonBracket) :=
  match t.kind with
  | .text reading => reading.skipped.map fun _ => (colon, brackets)
  | _ => t.refuse .keyNotText

/-- The state after a token. -/
def step (s : SkipState) (brackets : List JsonBracket) (t : JsonToken) :
    Except JsonFault (SkipState × List JsonBracket) :=
  match s, brackets, t.kind with
  | opened, .list :: outer, .endList | after, .list :: outer, .endList => .ok (after, outer)
  | opened, .object :: outer, .endObject | after, .object :: outer, .endObject => .ok (after, outer)
  | opened, .object :: _, _ | key, _, _ => takeKey brackets t
  | opened, _, _ | value, _, _ => takeValue brackets t
  | colon, _, .colon => .ok (value, brackets)
  | colon, _, _ => t.refuse .expectedColon
  | after, .list :: _, .comma => .ok (value, brackets)
  | after, .object :: _, .comma => .ok (key, brackets)
  | after, .object :: _, _ => t.refuse .expectedObjectEnd
  | after, _, _ => t.refuse .expectedListEnd

end SkipState

namespace JsonReader

/-- Goes on until the value is complete. -/
def skipFrom (stop : Nat) (s : SkipState) (brackets : List JsonBracket) : JsonReader Unit :=
  fun ts =>
  if s = .after ∧ brackets = [] then .ok ⟨(), ts, Nat.le_refl _⟩
  else
    match ts with
    | [] => .error ⟨s.cutOff brackets, stop⟩
    | t :: ts =>
      match s.step brackets t with
      | .error e => .error e
      | .ok (s, brackets) =>
        match skipFrom stop s brackets ts with
        | .error e => .error e
        | .ok r => .ok ⟨(), r.rest, Nat.le_succ_of_le r.length_rest_le⟩

/-- Passes over one value. -/
def skip (stop : Nat) : JsonReader Unit := skipFrom stop .value []

end JsonReader

end TicketQuery
