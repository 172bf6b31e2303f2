import TicketQuery.JsonFault
import TicketQuery.Utf8Length

/-! # Texts in JSON text

A text is read after its opening quote. It can be wanted, and then escapes must denote characters,
or it can be passed over, and then they only need their form. -/
namespace TicketQuery

namespace JsonText

def hexDigit? (c : Char) : Option Nat :=
  if '0' ≤ c ∧ c ≤ '9' then some (c.toNat - '0'.toNat)
  else if 'a' ≤ c ∧ c ≤ 'f' then some (c.toNat - 'a'.toNat + 10)
  else if 'A' ≤ c ∧ c ≤ 'F' then some (c.toNat - 'A'.toNat + 10)
  else none

/-- The number that four hexadecimal digits give, and what follows them. -/
def hexEscape (index : Nat) (cs : List Char) : Except JsonFault (Nat × List Char) :=
  match cs with
  | a :: b :: c :: d :: rest =>
    match [a, b, c, d].mapM hexDigit? with
    | some ns => .ok (ns.foldl (fun n k => 16 * n + k) 0, rest)
    | none => .error ⟨.invalidEscape, index + 4⟩
  | _ =>
    if utf8Length cs < 4 then .error ⟨.textEnds, index + utf8Length cs⟩
    else .error ⟨.invalidEscape, index + 4⟩

theorem length_hexEscape {index : Nat} {cs : List Char} {r : Nat × List Char}
    (h : hexEscape index cs = .ok r) : r.2.length < cs.length := by
  unfold hexEscape at h
  split at h
  · split at h
    · obtain rfl := Except.ok.inj h
      simp
      omega
    · cases h
  · split at h <;> cases h

def isHighSurrogate (n : Nat) : Bool := decide (0xD800 ≤ n) && decide (n ≤ 0xDBFF)

def isLowSurrogate (n : Nat) : Bool := decide (0xDC00 ≤ n) && decide (n ≤ 0xDFFF)

/-- The code point of a surrogate pair. -/
def surrogatePair (high low : Nat) : Nat := (high - 0xD800) * 0x400 + (low - 0xDC00) + 0x10000

/-- A place in a text: the number of bytes before it and the characters after it. -/
structure Place where
  index : Nat
  rest : List Char

/-- The character of an escape by number, after its `u`. Beyond U+FFFF it takes two of them. -/
def unicodeEscape (index : Nat) (cs : List Char) : Except JsonFault (Char × Place) :=
  match hexEscape index cs with
  | .error e => .error e
  | .ok (n, rest) =>
    if isLowSurrogate n then .error ⟨.loneSurrogate, index + 4⟩
    else if isHighSurrogate n then
      match rest with
      | [] => .error ⟨.textEnds, index + 4⟩
      | '\\' :: [] => .error ⟨.textEnds, index + 5⟩
      | '\\' :: 'u' :: ds =>
        match hexEscape (index + 6) ds with
        | .error e => .error e
        | .ok (m, rest) =>
          if isLowSurrogate m then .ok (Char.ofNat (surrogatePair n m), ⟨index + 10, rest⟩)
          else .error ⟨.loneSurrogate, index + 10⟩
      | '\\' :: _ => .error ⟨.halfSurrogatePair, index + 6⟩
      | _ => .error ⟨.halfSurrogatePair, index + 5⟩
    else .ok (Char.ofNat n, ⟨index + 4, rest⟩)

def simpleEscapes : List (Char × Char) :=
  [('"', '"'), ('\\', '\\'), ('/', '/'), ('b', '\x08'), ('f', '\x0c'), ('n', '\n'), ('r', '\r'),
    ('t', '\t')]

/-- The character of an escape, after its backslash. -/
def escape (index : Nat) (cs : List Char) : Except JsonFault (Char × Place) :=
  match cs with
  | [] => .error ⟨.textEnds, index⟩
  | 'u' :: rest => unicodeEscape (index + 1) rest
  | c :: rest =>
    match simpleEscapes.lookup c with
    | some x => .ok (x, ⟨index + 1, rest⟩)
    | none => .error ⟨.invalidEscape, index + 1⟩

/-- What follows an escape that is passed over, after its backslash. -/
def skipEscape (index : Nat) (cs : List Char) : Except JsonFault Place :=
  match cs with
  | [] => .error ⟨.textEnds, index⟩
  | 'u' :: rest => (hexEscape (index + 1) rest).map fun r => ⟨index + 5, r.2⟩
  | c :: rest =>
    match simpleEscapes.lookup c with
    | some _ => .ok ⟨index + 1, rest⟩
    | none => .error ⟨.invalidEscape, index + 1⟩

theorem length_unicodeEscape {index : Nat} {cs : List Char} {r : Char × Place}
    (h : unicodeEscape index cs = .ok r) : r.2.rest.length < cs.length := by
  unfold unicodeEscape at h
  split at h
  · cases h
  next n rest hn =>
  have h1 := length_hexEscape hn
  split at h
  · cases h
  split at h
  · split at h <;> try cases h
    next ds =>
    split at h
    · cases h
    next m rest hm =>
    have h2 := length_hexEscape hm
    split at h
    · obtain rfl := Except.ok.inj h
      simp at h1 h2 ⊢
      omega
    · cases h
  · obtain rfl := Except.ok.inj h
    exact h1

theorem length_escape {index : Nat} {cs : List Char} {r : Char × Place}
    (h : escape index cs = .ok r) : r.2.rest.length < cs.length := by
  unfold escape at h
  split at h
  · cases h
  · have := length_unicodeEscape h
    simp
    omega
  · split at h
    · obtain rfl := Except.ok.inj h
      simp
    · cases h

theorem length_skipEscape {index : Nat} {cs : List Char} {p : Place}
    (h : skipEscape index cs = .ok p) : p.rest.length < cs.length := by
  unfold skipEscape at h
  split at h
  · cases h
  · next rest =>
    cases hh : hexEscape (index + 1) rest with
    | error e => simp [hh, Except.map] at h
    | ok r =>
      simp only [hh, Except.map, Except.ok.injEq] at h
      have := length_hexEscape hh
      rw [← h]
      simp
      omega
  · split at h
    · obtain rfl := Except.ok.inj h
      simp
    · cases h

/-- The characters of a text up to its closing quote, and the place behind it. -/
def decode (index : Nat) (cs : List Char) : Except JsonFault (List Char × Place) :=
  match cs with
  | [] => .error ⟨.textEnds, index⟩
  | '"' :: rest => .ok ([], ⟨index + 1, rest⟩)
  | '\\' :: rest =>
    match _h : escape (index + 1) rest with
    | .error e => .error e
    | .ok r => (decode r.2.index r.2.rest).map fun d => (r.1 :: d.1, d.2)
  | c :: rest =>
    if c.toNat < 0x20 then .error ⟨.controlCharacter, index + 1⟩
    else (decode (index + c.utf8Size) rest).map fun d => (c :: d.1, d.2)
termination_by cs.length
decreasing_by
  · have := length_escape _h
    simp
    omega
  · simp

/-- The place behind a text that is passed over. -/
def skip (index : Nat) (cs : List Char) : Except JsonFault Place :=
  match cs with
  | [] => .error ⟨.textEnds, index⟩
  | '"' :: rest => .ok ⟨index + 1, rest⟩
  | '\\' :: rest =>
    match _h : skipEscape (index + 1) rest with
    | .error e => .error e
    | .ok p => skip p.index p.rest
  | c :: rest =>
    if c.toNat < 0x20 then .error ⟨.controlCharacter, index⟩
    else skip (index + c.utf8Size) rest
termination_by cs.length
decreasing_by
  · have := length_skipEscape _h
    simp
    omega
  · simp

theorem length_skip {index : Nat} {cs : List Char} {p : Place} (h : skip index cs = .ok p) :
    p.rest.length < cs.length := by
  fun_induction skip index cs with
  | case1 => cases h
  | case2 index rest =>
    obtain rfl := Except.ok.inj h
    simp
  | case3 => cases h
  | case4 index rest q hq ih =>
    have := length_skipEscape hq
    have := ih h
    simp
    omega
  | case5 => cases h
  | case6 index c rest _ _ _ ih =>
    have := ih h
    simp
    omega

end JsonText

end TicketQuery
