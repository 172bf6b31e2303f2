import TicketQuery.JsonFault

/-! # Numbers in JSON text

A number is an optional sign, a whole part without needless zeros, and then perhaps a fraction and
an exponent. What is no 64-bit integer counts as a double and must not be too large for one. -/
namespace TicketQuery

structure JsonNumber where
  negative : Bool
  whole : List Char
  /-- The digits behind the point, if there is one. -/
  fraction : List Char
  /-- The sign and the digits of the exponent. -/
  exponent : Option (Bool × List Char)
  deriving Repr

/-- Why a text is no number: at which byte, and whether the text ended there. -/
structure NumberFault where
  index : Nat
  atEnd : Bool

namespace JsonNumber

/-- A fault at the front of what is left to be read. -/
def missingDigit (index : Nat) (cs : List Char) : NumberFault :=
  match cs with
  | [] => ⟨index, true⟩
  | _ :: _ => ⟨index + 1, false⟩

/-- At least one digit, and all that follow. -/
def digits (index : Nat) (cs : List Char) : Except NumberFault (List Char × List Char) :=
  match cs.takeWhile Char.isDigit with
  | [] => .error (missingDigit index cs)
  | d :: ds => .ok (d :: ds, cs.dropWhile Char.isDigit)

/-- A zero stands alone. -/
def wholePart (index : Nat) (cs : List Char) : Except NumberFault (List Char × List Char) :=
  match cs with
  | '0' :: rest =>
    match rest with
    | d :: _ => if d.isDigit then .error ⟨index + 2, false⟩ else .ok (['0'], rest)
    | [] => .ok (['0'], rest)
  | _ => digits index cs

def fractionPart (index : Nat) (cs : List Char) : Except NumberFault (List Char × List Char) :=
  match cs with
  | '.' :: rest => digits (index + 1) rest
  | _ => .ok ([], cs)

/-- The sign of an exponent and the place where its digits start. -/
def exponentSign (index : Nat) (cs : List Char) : Bool × Nat × List Char :=
  match cs with
  | '-' :: ds => (true, index + 1, ds)
  | '+' :: ds => (false, index + 1, ds)
  | _ => (false, index, cs)

theorem length_exponentSign (index : Nat) (cs : List Char) :
    (exponentSign index cs).2.2.length ≤ cs.length := by
  unfold exponentSign
  split <;> simp

def exponentPart (index : Nat) (cs : List Char) :
    Except NumberFault (Option (Bool × List Char) × List Char) :=
  match cs with
  | [] => .ok (none, [])
  | c :: rest =>
    if c = 'e' ∨ c = 'E' then
      let signed := exponentSign (index + 1) rest
      (digits signed.2.1 signed.2.2).map fun r => (some (signed.1, r.1), r.2)
    else .ok (none, cs)

def signPart (cs : List Char) : Bool × List Char :=
  match cs with
  | '-' :: rest => (true, rest)
  | _ => (false, cs)

/-- The number at the front of a text whose first byte has the given place, and what follows it. -/
def read (index : Nat) (cs : List Char) : Except NumberFault (JsonNumber × List Char) := do
  let place (rest : List Char) := index + (cs.length - rest.length)
  let sign := signPart cs
  let whole ← wholePart (place sign.2) sign.2
  let fraction ← fractionPart (place whole.2) whole.2
  let exponent ← exponentPart (place fraction.2) fraction.2
  return (⟨sign.1, whole.1, fraction.1, exponent.1⟩, exponent.2)

theorem length_digits {index : Nat} {cs : List Char} {r : List Char × List Char}
    (h : digits index cs = .ok r) : r.2.length < cs.length := by
  unfold digits at h
  split at h
  · cases h
  · next d ds hd =>
    obtain rfl := Except.ok.inj h
    have := congrArg List.length (List.takeWhile_append_dropWhile (p := Char.isDigit) (l := cs))
    rw [hd] at this
    simp at this ⊢
    omega

theorem length_wholePart {index : Nat} {cs : List Char} {r : List Char × List Char}
    (h : wholePart index cs = .ok r) : r.2.length < cs.length := by
  unfold wholePart at h
  split at h
  · split at h
    · split at h
      · cases h
      · obtain rfl := Except.ok.inj h
        simp
    · obtain rfl := Except.ok.inj h
      simp
  · exact length_digits h

theorem length_fractionPart {index : Nat} {cs : List Char} {r : List Char × List Char}
    (h : fractionPart index cs = .ok r) : r.2.length ≤ cs.length := by
  unfold fractionPart at h
  split at h
  · have := length_digits h
    simp
    omega
  · obtain rfl := Except.ok.inj h
    exact Nat.le_refl _

theorem length_exponentPart {index : Nat} {cs : List Char}
    {r : Option (Bool × List Char) × List Char} (h : exponentPart index cs = .ok r) :
    r.2.length ≤ cs.length := by
  unfold exponentPart at h
  split at h
  · obtain rfl := Except.ok.inj h
    exact Nat.le_refl _
  · next c rest =>
    split at h
    · cases hd : digits (exponentSign (index + 1) rest).2.1 (exponentSign (index + 1) rest).2.2 with
      | error e => simp [hd, Except.map] at h
      | ok d =>
        simp only [hd, Except.map, Except.ok.injEq] at h
        have h1 := length_digits hd
        have h2 := length_exponentSign (index + 1) rest
        rw [← h]
        simp
        omega
    · obtain rfl := Except.ok.inj h
      exact Nat.le_refl _

theorem length_signPart (cs : List Char) : (signPart cs).2.length ≤ cs.length := by
  unfold signPart
  split <;> simp

theorem length_read {index : Nat} {cs : List Char} {r : JsonNumber × List Char}
    (h : read index cs = .ok r) : r.2.length < cs.length := by
  simp only [read, bind, Except.bind, pure, Except.pure] at h
  split at h
  · cases h
  next whole hw =>
  split at h
  · cases h
  next fraction hf =>
  split at h
  · cases h
  next exponent he =>
  obtain rfl := Except.ok.inj h
  have h1 := length_signPart cs
  have h2 := length_wholePart hw
  have h3 := length_fractionPart hf
  have h4 := length_exponentPart he
  simp only
  omega

def natOf (ds : List Char) : Nat := Nat.ofDigitChars 10 ds 0

/-- The value as an integer of 64 bits; there is no negative zero among them. -/
def integer? (n : JsonNumber) : Option Int :=
  if n.fraction ≠ [] ∨ n.exponent.isSome then none
  else if n.negative then
    if 0 < natOf n.whole ∧ natOf n.whole ≤ Nat.pow 2 63 then some (-(natOf n.whole : Int)) else none
  else if natOf n.whole < Nat.pow 2 64 then some (natOf n.whole) else none

/-- A significand with as many of the digits as fit into 64 bits, and the digits from the first that
does not fit. -/
def extendSignificand (significand : Nat) : List Char → Nat × List Char
  | [] => (significand, [])
  | d :: ds =>
    let longer := Nat.ofDigitChars 10 [d] significand
    if longer < Nat.pow 2 64 then extendSignificand longer ds else (significand, d :: ds)

def writtenExponent (n : JsonNumber) : Int :=
  match n.exponent with
  | none => 0
  | some (true, ds) => -(natOf ds : Int)
  | some (false, ds) => natOf ds

/-- The significand and the exponent that the digits amount to. Whole digits that do not fit into
the significand count as zeros, and those of the fraction for nothing. -/
def decimal (n : JsonNumber) : Nat × Int :=
  let whole := extendSignificand 0 n.whole
  let fraction := extendSignificand whole.1 n.fraction
  (fraction.1,
    n.writtenExponent + whole.2.length - (n.fraction.length - fraction.2.length : Nat))

/-- The value, unless it is too large. -/
def value? (n : JsonNumber) : Option JsonScalar :=
  match n.integer? with
  | some i => some (.integer i)
  | none => (Double.ofDecimal? n.decimal.1 n.decimal.2).map (.real n.negative)

theorem value?_cases {n : JsonNumber} {v : JsonScalar} (h : n.value? = some v) :
    (∃ i, v = .integer i) ∨ ∃ x, v = .real n.negative x := by
  unfold value? at h
  split at h
  · cases h
    exact .inl ⟨_, rfl⟩
  · obtain ⟨x, -, rfl⟩ := Option.map_eq_some_iff.1 h
    exact .inr ⟨x, rfl⟩

theorem value?_eq_integer_iff {n : JsonNumber} {i : Int} :
    n.value? = some (.integer i) ↔ n.integer? = some i := by
  unfold value?
  cases n.integer? <;> simp

end JsonNumber

end TicketQuery
