import TicketQuery.Double

/-! # Decimals for doubles

A double is written as the shortest decimal that is nearer to it than to any other double, and of
those as the one nearest to it. -/
namespace TicketQuery

namespace Double

/-- Where the numbers nearest to the double begin and end, in quarters of units. Below a power of
two the doubles stand closer. -/
def bounds (x : Double) : Nat × Nat :=
  let down := if x.significand = Nat.pow 2 52 ∧ 0 < x.scale then 1 else 2
  ((4 * x.significand - down) * Nat.pow 2 x.scale, (4 * x.significand + 2) * Nat.pow 2 x.scale)

/-- The double is the one nearest to `digits * 10 ^ exponent`. A number in the middle of two doubles
belongs to the even one. -/
def isNearest (x : Double) (exponent : Int) (digits : Nat) : Bool :=
  let value := 4 * digits * Nat.pow 10 exponent.toNat * oneUnits
  let low := x.bounds.1 * Nat.pow 10 (-exponent).toNat
  let high := x.bounds.2 * Nat.pow 10 (-exponent).toNat
  if x.significand % 2 = 0 then low ≤ value ∧ value ≤ high else low < value ∧ value < high

/-- The multiple of `10 ^ exponent` that is next to the double, if it has one. -/
def digitsAt? (x : Double) (exponent : Int) : Option Nat :=
  let a := x.units * Nat.pow 10 (-exponent).toNat
  let d := oneUnits * Nat.pow 10 exponent.toNat
  [roundQuotient a d, a / d + 1].find? (x.isNearest exponent)

/-- The digits and the exponent of the decimal, sought from an exponent on downwards. With the
exponent -1074 each double is exact. -/
def shortestFrom (x : Double) : Nat → Nat × Int
  | 0 => (x.units * Nat.pow 5 1074, -1074)
  | n + 1 =>
    match x.digitsAt? (n + 1 - 1074) with
    | some digits => (digits, n + 1 - 1074)
    | none => shortestFrom x n

end Double

/-- The text of `digits * 10 ^ exponent`. It has an exponent if there would be more than 16 digits
before the point, or more than four zeros behind it, and otherwise a digit behind the point. -/
def decimalText (digits : Nat) (exponent : Int) : String :=
  let cs := Nat.toDigits 10 digits
  let point := cs.length + exponent
  if 0 ≤ exponent ∧ point ≤ 16 then
    String.ofList (cs ++ List.replicate exponent.toNat '0' ++ ['.', '0'])
  else if 0 < point ∧ point ≤ 16 then
    String.ofList (cs.take point.toNat ++ '.' :: cs.drop point.toNat)
  else if -5 < point ∧ point ≤ 0 then
    String.ofList (['0', '.'] ++ List.replicate (-point).toNat '0' ++ cs)
  else
    let behind := if cs.length = 1 then [] else '.' :: cs.drop 1
    String.ofList (cs.take 1 ++ behind) ++ "e" ++ toString (point - 1)

def Double.text (x : Double) : String :=
  if x.significand = 0 then "0.0"
  else
    let shortest := x.shortestFrom (1074 + 308)
    decimalText shortest.1 shortest.2

example : (Double.ofDecimal? 150 (-2)).map Double.text = some "1.5" := by decide +kernel
example : (Double.ofDecimal? 123 20).map Double.text = some "1.23e22" := by decide +kernel

end TicketQuery
