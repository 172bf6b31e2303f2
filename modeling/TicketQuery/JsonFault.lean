import TicketQuery.DoubleText
import TicketQuery.EscapedText

/-! # Faults of JSON text

Three classes: the text is malformed, it is well-formed but not what was asked for, or it ends too
early. A fault has a place in the text. -/
namespace TicketQuery

/-- What a text was expected to hold. -/
inductive JsonShape where
  | config | limits | map | text | boolean | size
  deriving DecidableEq, Repr

/-- What a text holds, as far as it matters in reports. -/
inductive JsonScalar where
  | null
  | boolean (b : Bool)
  | integer (n : Int)
  /-- A number with a fraction or an exponent, or beyond 64 bits. -/
  | real (negative : Bool) (magnitude : Double)
  | text (s : String)
  deriving DecidableEq, Repr

inductive JsonCause where
  | listEnds | objectEnds | textEnds | valueEnds
  | expectedColon | expectedListEnd | expectedObjectEnd | expectedWord | expectedValue
  | invalidEscape | invalidNumber | numberOutOfRange | loneSurrogate | halfSurrogatePair
  | controlCharacter | keyNotText | trailingComma | trailingCharacters
  | wrongScalar (found : JsonScalar) (expected : JsonShape)
  | wrongList (expected : JsonShape)
  | wrongObject (expected : JsonShape)
  | outOfRange (n : Int) (expected : JsonShape)
  | duplicateKey (key : String)
  deriving DecidableEq, Repr

inductive JsonCategory where
  | malformed | mismatch | early
  deriving DecidableEq, Repr

/-- A fault and the number of bytes read when it was met. -/
structure JsonFault where
  cause : JsonCause
  index : Nat
  deriving DecidableEq, Repr

def JsonShape.label : JsonShape → String
  | config => "struct QueryConfig"
  | limits => "struct QueryLimits"
  | map => "a map"
  | text => "a string"
  | boolean => "a boolean"
  | size => "usize"

def JsonScalar.label : JsonScalar → String
  | null => "null"
  | boolean b => if b then "boolean `true`" else "boolean `false`"
  | integer n => "integer `" ++ toString n ++ "`"
  | real negative magnitude =>
    "floating point `" ++ (if negative then "-" else "") ++ magnitude.text ++ "`"
  | text s => "string " ++ escapedText s

namespace JsonCause

def category : JsonCause → JsonCategory
  | listEnds | objectEnds | textEnds | valueEnds => .early
  | wrongScalar .. | wrongList _ | wrongObject _ | outOfRange .. | duplicateKey _ => .mismatch
  | _ => .malformed

def wrongType (found : String) (expected : JsonShape) : String :=
  "invalid type: " ++ found ++ ", expected " ++ expected.label

def message : JsonCause → String
  | listEnds => "EOF while parsing a list"
  | objectEnds => "EOF while parsing an object"
  | textEnds => "EOF while parsing a string"
  | valueEnds => "EOF while parsing a value"
  | expectedColon => "expected `:`"
  | expectedListEnd => "expected `,` or `]`"
  | expectedObjectEnd => "expected `,` or `\x7d`"
  | expectedWord => "expected ident"
  | expectedValue => "expected value"
  | invalidEscape => "invalid escape"
  | invalidNumber => "invalid number"
  | numberOutOfRange => "number out of range"
  | loneSurrogate => "lone leading surrogate in hex escape"
  | halfSurrogatePair => "unexpected end of hex escape"
  | controlCharacter => "control character (\\u0000-\\u001F) found while parsing a string"
  | keyNotText => "key must be a string"
  | trailingComma => "trailing comma"
  | trailingCharacters => "trailing characters"
  | wrongScalar found expected => wrongType found.label expected
  | wrongList expected => wrongType "sequence" expected
  | wrongObject expected => wrongType "map" expected
  | outOfRange n expected =>
    "invalid value: integer `" ++ toString n ++ "`, expected " ++ expected.label
  | duplicateKey key => "duplicate field `" ++ key ++ "`"

end JsonCause

/-- The line and the column of a place, by the bytes before it. -/
def linePosition (index : Nat) : List Char → Nat → Nat → Nat × Nat
  | [], line, column => (line, column)
  | c :: cs, line, column =>
    if index < c.utf8Size then (line, column + index)
    else if c = '\n' then linePosition (index - 1) cs (line + 1) 0
    else linePosition (index - c.utf8Size) cs line (column + c.utf8Size)

/-- The report on a fault of the given text. -/
def JsonFault.message (f : JsonFault) (text : String) : String :=
  let place := linePosition f.index text.toList 1 0
  f.cause.message ++ " at line " ++ toString place.1 ++ " column " ++ toString place.2

end TicketQuery
