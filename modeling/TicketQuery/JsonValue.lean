/-! # JSON values and their text

Only the shapes that this library writes: integers, booleans, texts, lists and objects. An object
keeps its members in the order in which they are written. -/
namespace TicketQuery

inductive JsonValue where
  | integer (n : Int)
  | boolean (b : Bool)
  | text (s : String)
  | list (items : List JsonValue)
  | object (members : List (String × JsonValue))
  deriving Repr

namespace JsonValue

/-- Two hexadecimal digits, with small letters. -/
def hexPair (n : Nat) : List Char := [Nat.digitChar (n / 16), Nat.digitChar (n % 16)]

def escapedChar (c : Char) : List Char :=
  match c with
  | '"' => ['\\', '"']
  | '\\' => ['\\', '\\']
  | '\x08' => ['\\', 'b']
  | '\x0c' => ['\\', 'f']
  | '\n' => ['\\', 'n']
  | '\r' => ['\\', 'r']
  | '\t' => ['\\', 't']
  | _ => if c.toNat < 0x20 then '\\' :: 'u' :: '0' :: '0' :: hexPair c.toNat else [c]

def textLiteral (s : String) : String :=
  String.ofList ('"' :: (s.toList.flatMap escapedChar ++ ['"']))

def scalarText : JsonValue → String
  | integer n => toString n
  | boolean b => if b then "true" else "false"
  | text s => textLiteral s
  | list _ => "[]"
  | object _ => "\x7b\x7d"

mutual

/-- The text without any blanks. -/
def compact : JsonValue → String
  | list items => "[" ++ String.intercalate "," (compactItems items) ++ "]"
  | object members => "\x7b" ++ String.intercalate "," (compactMembers members) ++ "\x7d"
  | scalar => scalar.scalarText

def compactItems : List JsonValue → List String
  | [] => []
  | v :: vs => v.compact :: compactItems vs

def compactMembers : List (String × JsonValue) → List String
  | [] => []
  | (key, v) :: ms => (textLiteral key ++ ":" ++ v.compact) :: compactMembers ms

end

/-- The start of a line at a depth of nesting. -/
def newLine (depth : Nat) : String := "\n" ++ String.ofList (List.replicate (2 * depth) ' ')

mutual

/-- The text with a line for each item and member, two blanks further in than what holds it. -/
def indented (depth : Nat) : JsonValue → String
  | list (v :: vs) =>
    "[" ++ String.intercalate "," (indentedItems (depth + 1) (v :: vs)) ++ newLine depth ++ "]"
  | object (m :: ms) =>
    "\x7b" ++ String.intercalate "," (indentedMembers (depth + 1) (m :: ms)) ++ newLine depth ++
      "\x7d"
  | scalar => scalar.scalarText

def indentedItems (depth : Nat) : List JsonValue → List String
  | [] => []
  | v :: vs => (newLine depth ++ v.indented depth) :: indentedItems depth vs

def indentedMembers (depth : Nat) : List (String × JsonValue) → List String
  | [] => []
  | (key, v) :: ms =>
    (newLine depth ++ textLiteral key ++ ": " ++ v.indented depth) :: indentedMembers depth ms

end

def pretty (v : JsonValue) : String := v.indented 0

end JsonValue

example : (JsonValue.object [("a", .list [.integer (-1), .text "\n"])]).compact =
    "\x7b\"a\":[-1,\"\\n\"]\x7d" := by decide +kernel

end TicketQuery
