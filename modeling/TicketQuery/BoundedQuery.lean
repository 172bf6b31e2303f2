import TicketQuery.Config
import TicketQuery.Parser

/-! # Queries within limits

A text is a query if it is no longer than the limit, parses without a fault and nests no deeper than
the limit. The checks are made in this order, and the first one that fails is reported. -/
namespace TicketQuery

inductive Rejection where
  | tooLong (length limit : Nat)
  | invalid (faults : List Fault)
  | tooDeep (depth limit : Nat)
  deriving DecidableEq, Repr

def Rejection.message : Rejection → String
  | tooLong length limit =>
    "query is " ++ toString length ++ " bytes long, the limit is " ++ toString limit
  | invalid faults => "invalid query: " ++ String.intercalate "; " (faults.map Fault.message)
  | tooDeep depth limit =>
    "query nests " ++ toString depth ++ " levels deep, the limit is " ++ toString limit

/-- The levels of nesting, none without a condition. -/
def Query.depth (q : Query) : Nat := (q.condition.map Expr.depth).getD 0

def Query.ofText (limits : Limits) (text : String) : Except Rejection Query :=
  let parsed := (Parser.ofText text).parse
  if limits.maxLength < text.utf8ByteSize then
    .error (.tooLong text.utf8ByteSize limits.maxLength)
  else if parsed.2.faults ≠ [] then .error (.invalid parsed.2.faults)
  else if limits.maxDepth < parsed.1.depth then .error (.tooDeep parsed.1.depth limits.maxDepth)
  else .ok parsed.1

theorem Query.ofText_eq_ok_iff {limits : Limits} {text : String} {q : Query} :
    Query.ofText limits text = .ok q ↔
      text.utf8ByteSize ≤ limits.maxLength ∧ (Parser.ofText text).parse.2.faults = [] ∧
        q.depth ≤ limits.maxDepth ∧ (Parser.ofText text).parse.1 = q := by
  unfold Query.ofText
  grind

end TicketQuery
