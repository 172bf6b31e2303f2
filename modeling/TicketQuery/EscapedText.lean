import TicketQuery.UnprintableCharacters

/-! # Text shown with escapes

Between double quotes, with a backslash form for every character that does not stand for itself. -/
namespace TicketQuery

/-- The digits of a number in base 16, with small letters. -/
def hexDigits (n : Nat) : List Char := Nat.toDigits 16 n

def escapedChar (c : Char) : List Char :=
  match c with
  | '\x00' => ['\\', '0']
  | '\t' => ['\\', 't']
  | '\r' => ['\\', 'r']
  | '\n' => ['\\', 'n']
  | '\\' => ['\\', '\\']
  | '"' => ['\\', '"']
  | _ =>
    if standsForItself c then [c] else '\\' :: 'u' :: '\x7b' :: (hexDigits c.toNat ++ ['\x7d'])

def escapedText (s : String) : String :=
  String.ofList ('"' :: (s.toList.flatMap escapedChar ++ ['"']))

example : escapedText "a\"\t" = "\"a\\\"\\t\"" := by decide +kernel

end TicketQuery
