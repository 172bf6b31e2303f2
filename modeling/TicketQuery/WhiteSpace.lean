import TicketQuery.CodePointRanges

/-! # White space

The Unicode property `White_Space`, and its removal from the ends of a text. -/
namespace TicketQuery

def whiteSpaceRanges : List (Nat × Nat) := [
  (0x9, 0xD), (0x20, 0x20), (0x85, 0x85), (0xA0, 0xA0), (0x1680, 0x1680), (0x2000, 0x200A),
  (0x2028, 0x2029), (0x202F, 0x202F), (0x205F, 0x205F), (0x3000, 0x3000)]

def isWhiteSpace (c : Char) : Bool := inRanges whiteSpaceRanges c.toNat

/-- A text without the white space it starts with. -/
def trimLeft (cs : List Char) : List Char := cs.dropWhile isWhiteSpace

def trimRight (cs : List Char) : List Char := (trimLeft cs.reverse).reverse

/-- A text without the white space at its ends. -/
def trim (cs : List Char) : List Char := trimRight (trimLeft cs)

end TicketQuery
