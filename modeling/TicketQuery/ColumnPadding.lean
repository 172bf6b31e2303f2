/-! # Text in columns -/
namespace TicketQuery

inductive Alignment where
  | left | center | right
  deriving DecidableEq, Repr

/-- The blanks on either side of a text that is short of its column by `missing`; of an odd number
the centre leaves the larger part to the right. -/
def Alignment.margins : Alignment → Nat → Nat × Nat
  | left, missing => (0, missing)
  | right, missing => (missing, 0)
  | center, missing => (missing / 2, missing - missing / 2)

def blanks (n : Nat) : String := String.ofList (List.replicate n ' ')

/-- The text cut to `precision` characters and then widened to `width`. -/
def inColumn (align : Alignment) (width : Nat) (precision : Option Nat) (text : String) : String :=
  let kept := match precision with
    | some n => String.ofList (text.toList.take n)
    | none => text
  let margins := align.margins (width - kept.length)
  blanks margins.1 ++ kept ++ blanks margins.2

end TicketQuery
