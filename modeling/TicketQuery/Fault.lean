import TicketQuery.Token
import TicketQuery.QueryText
import TicketQuery.EscapedText

/-! # Faults of a query

What the parser can report, and the words for it. -/
namespace TicketQuery

inductive FaultCause where
  /-- A token that starts no operand. -/
  | unexpected (token : Token)
  /-- A comparison with a whole condition on its right. -/
  | conditionAsValue (right : Expr)
  /-- A comparison with something else than a field on its left. -/
  | comparedNonField (left : Expr)
  /-- A comparison with a field on its right, which was most likely meant as a string. -/
  | missingQuotes (name : String)
  /-- Digits that stand for no 64-bit integer. -/
  | integerTooLarge (digits : String)
  | unclosedGroup (found : TokenKind)
  | connectiveAfterNonCondition
  | connectiveBeforeNonCondition
  | modifierWithoutOperand (kind : ModifierKind)
  deriving DecidableEq, Repr

structure Fault where
  cause : FaultCause
  span : Span
  deriving DecidableEq, Repr

namespace FaultCause

def notAllowed (what : String) : String := what ++ " not allowed in comparison expression"

def message : FaultCause → String
  | unexpected token => notAllowed token.describe
  | conditionAsValue right => notAllowed right.inQuery
  | comparedNonField left => notAllowed left.inQuery
  | missingQuotes name => "missing quotes around string: " ++ name
  | integerTooLarge digits => "could not parse " ++ escapedText digits ++ " as integer"
  | unclosedGroup found =>
    "expected next token to be " ++ TokenKind.rightParen.label ++ ", got " ++ found.label ++
      " instead"
  | connectiveAfterNonCondition =>
    "logic operators (AND/OR) must be preceded by a comparison expression"
  | connectiveBeforeNonCondition =>
    "logic operators (AND/OR) must be followed by a comparison expression"
  | modifierWithoutOperand .orderBy => "ORDER_BY must be followed by a field name"
  | modifierWithoutOperand .limit => "LIMIT must be followed by a number"

end FaultCause

def Fault.message (f : Fault) : String := f.cause.message

end TicketQuery
