import TicketQuery.FilterText

/-! # Names, values and patterns in SQL

A name stands in double quotes. A text stands in single quotes, with an `E` before them if there is
a backslash between them. In a pattern `%` is any text and `_` any character, unless a backslash
precedes. -/
namespace TicketQuery

/-- A name in quotes; a quote in it is written twice. -/
def sqlName (name : String) : String :=
  let doubled := name.toList.flatMap fun c => if c = '"' then ['"', '"'] else [c]
  String.ofList ('"' :: (doubled ++ ['"']))

/-- The column of a storage path. -/
def columnName (path : String) : String := path.map fun c => if c = '.' then '_' else c

def sqlEscapedChar (c : Char) : List Char :=
  match c with
  | '\\' => ['\\', '\\']
  | '"' => ['\\', '"']
  | '\x27' => ['\\', '\x27']
  | '\x00' => ['\\', '0']
  | '\x08' => ['\\', 'b']
  | '\t' => ['\\', 't']
  | '\x1a' => ['\\', 'z']
  | '\n' => ['\\', 'n']
  | '\r' => ['\\', 'r']
  | _ => [c]

def sqlString (s : String) : String :=
  let escaped := s.toList.flatMap sqlEscapedChar
  String.ofList ((if '\\' ∈ escaped then ['E'] else []) ++ '\x27' :: (escaped ++ ['\x27']))

inductive SqlValue where
  | integer (n : Int)
  | text (s : String)
  deriving DecidableEq, Repr

namespace SqlValue

def ofLiteral : Literal → SqlValue
  | .integer n => integer n
  | .text s => text s
  | .date t => text t.inPattern

def toSql : SqlValue → String
  | integer n => toString n
  | text s => sqlString s

end SqlValue

def escapedInPattern (c : Char) : List Char :=
  if c = '%' ∨ c = '_' ∨ c = '\\' then ['\\', c] else [c]

/-- The pattern of all texts that contain the text of a literal. -/
def containsPattern (v : Literal) : String :=
  String.ofList ('%' :: (v.patternText.toList.flatMap escapedInPattern ++ ['%']))

example : sqlName "a\"b" = "\"a\"\"b\"" := by decide +kernel
example : sqlString "it's" = "E'it\\'s'" := by decide +kernel
example : containsPattern (.text "50%") = "%50\\%%" := by decide +kernel

end TicketQuery
