/-! # Doubles

A double keeps 53 binary digits. A decimal counts as its significand times a power of ten: each of
the two is rounded before they are multiplied or divided, and so is what comes of it. -/
namespace TicketQuery

/-- A quotient to the nearest whole number, a half to the even one. -/
def roundQuotient (a d : Nat) : Nat :=
  if d < 2 * (a % d) ∨ (2 * (a % d) = d ∧ a / d % 2 = 1) then a / d + 1 else a / d

/-- A double without its sign. It counts units of `2 ^ -1074`, and there are `2 ^ scale` of them to
each step of the significand. -/
structure Double where
  significand : Nat
  scale : Nat
  deriving DecidableEq, Repr

namespace Double

def units (x : Double) : Nat := x.significand * Nat.pow 2 x.scale

/-- The units of the number one. -/
def oneUnits : Nat := Nat.pow 2 1074

/-- The double nearest to a quotient of units. -/
def round (a d : Nat) : Double :=
  let scale := (a / d).log2 - 52
  let significand := roundQuotient a (d * Nat.pow 2 scale)
  if significand = Nat.pow 2 53 then ⟨Nat.pow 2 52, scale + 1⟩ else ⟨significand, scale⟩

def ofNat (n : Nat) : Double := round (n * oneUnits) 1

def mul (x y : Double) : Double := round (x.units * y.units) oneUnits

def div (x y : Double) : Double := round (x.units * oneUnits) y.units

def isFinite (x : Double) : Bool := x.units < Nat.pow 2 1024 * oneUnits

/-- Powers of ten beyond 308 are too large for a double, so it is divided by them in steps. -/
def shrink (x : Double) (n : Nat) : Double :=
  if n ≤ 308 then x.div (ofNat (Nat.pow 10 n))
  else if x.significand = 0 then x
  else shrink (x.div (ofNat (Nat.pow 10 308))) (n - 308)
termination_by n

/-- The double for `significand * 10 ^ exponent`, unless it is too large. -/
def ofDecimal? (significand : Nat) (exponent : Int) : Option Double :=
  if exponent < 0 then some (shrink (ofNat significand) (-exponent).toNat)
  else if significand = 0 then some ⟨0, 0⟩
  else if 308 < exponent then none
  else
    let x := (ofNat significand).mul (ofNat (Nat.pow 10 exponent.toNat))
    if x.isFinite then some x else none

example : (ofDecimal? 17976931348623157 292).isSome := by decide +kernel
example : ofDecimal? 17976931348623158 292 = none := by decide +kernel

end Double

end TicketQuery
