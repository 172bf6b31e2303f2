import TicketQuery.Operator

/-! # Tokens

A token has a kind, a text and a place in the query, counted in bytes of its UTF-8 form. -/
namespace TicketQuery

structure Span where
  start : Nat
  stop : Nat
  deriving DecidableEq, Repr

inductive TokenKind where
  | illegal | eof | ident | int | string | comma | leftParen | rightParen | orderBy | limit
  | operator (op : Operator)
  deriving DecidableEq, Repr

/-- The text of a string token has no quotes, its span covers them. -/
structure Token where
  kind : TokenKind
  text : String
  span : Span
  deriving DecidableEq, Repr

namespace TokenKind

/-- How diagnostics name a kind. -/
def label : TokenKind → String
  | illegal => "ILLEGAL"
  | eof => "EOF"
  | ident => "IDENT"
  | int => "INT"
  | string => "STRING"
  | comma => ","
  | leftParen => "("
  | rightParen => ")"
  | orderBy => "ORDER_BY"
  | limit => "LIMIT"
  | operator op => op.symbol

def keywords : List (List Char × TokenKind) :=
  [("and".toList, operator (.connective .and)), ("or".toList, operator (.connective .or)),
    ("order_by".toList, orderBy), ("limit".toList, limit)]

/-- A word is a keyword in any mixture of ASCII capitals and small letters. -/
def ofWord (word : List Char) : TokenKind :=
  (keywords.lookup (word.map Char.toLower)).getD ident

def operator? : TokenKind → Option Operator
  | operator op => some op
  | _ => none

theorem operator?_eq_some_iff {k : TokenKind} {op : Operator} :
    k.operator? = some op ↔ k = operator op := by
  cases k <;> simp [operator?]

end TokenKind

namespace Token

def eof (offset : Nat) : Token := ⟨.eof, "", ⟨offset, offset⟩⟩

/-- How diagnostics name a token: by its text, and the end of the query as `EOF`. -/
def describe (t : Token) : String :=
  match t.kind with
  | .eof => TokenKind.eof.label
  | _ => t.text

end Token

end TicketQuery
