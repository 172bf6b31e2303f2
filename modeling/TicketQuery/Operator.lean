/-! # Operators of the query language

Comparisons relate a field to a value, connectives join conditions. AND and OR share one level of
precedence, below the comparisons. -/
namespace TicketQuery

inductive Comparison where
  | eq | ne | lt | gt | le | ge | like
  deriving DecidableEq, Repr

inductive Connective where
  | and | or
  deriving DecidableEq, Repr

inductive Operator where
  | comparison (c : Comparison)
  | connective (k : Connective)
  deriving DecidableEq, Repr

/-- How tightly an operator holds its operands; `lowest` is the level of a whole expression. -/
inductive Precedence where
  | lowest | connective | comparison
  deriving DecidableEq, Repr

namespace Comparison

def symbol : Comparison → String
  | eq => "=" | ne => "!=" | lt => "<" | gt => ">" | le => "<=" | ge => ">=" | like => "~"

/-- The word that filters use in place of the symbol. -/
def word : Comparison → String
  | eq => "eq" | ne => "ne" | lt => "lt" | gt => "gt" | le => "lte" | ge => "gte" | like => "like"

def all : List Comparison := [eq, ne, lt, gt, le, ge, like]

theorem mem_all (c : Comparison) : c ∈ all := by cases c <;> decide

end Comparison

def Connective.symbol : Connective → String
  | .and => "AND" | .or => "OR"

namespace Operator

def symbol : Operator → String
  | comparison c => c.symbol
  | connective k => k.symbol

def isLogical : Operator → Bool
  | connective _ => true
  | comparison _ => false

def isComparison (op : Operator) : Bool := !op.isLogical

def precedence : Operator → Precedence
  | comparison _ => .comparison
  | connective _ => .connective

end Operator

def Precedence.rank : Precedence → Nat
  | lowest => 0 | connective => 1 | comparison => 2

theorem Operator.rank_precedence_pos (op : Operator) : 0 < op.precedence.rank := by
  cases op <;> simp [Operator.precedence, Precedence.rank]

end TicketQuery
