import TicketQuery.Operator
import TicketQuery.Instant

/-! # Queries

A query has at most one condition, an expression tree, and modifiers in the order in which they were
given. Trees may hold more shapes than the language can write: a node takes any operands. -/
namespace TicketQuery

inductive Literal where
  | integer (n : Int)
  | text (s : String)
  | date (t : Instant)
  deriving DecidableEq, Repr

inductive Expr where
  | field (name : String)
  | literal (value : Literal)
  | node (op : Operator) (left right : Expr)
  deriving DecidableEq, Repr

inductive ModifierKind where
  | orderBy | limit
  deriving DecidableEq, Repr

/-- A sort order names a field, a limit is an integer; other operands have no effect. -/
structure Modifier where
  kind : ModifierKind
  operand : Expr
  deriving DecidableEq, Repr

structure Query where
  condition : Option Expr := none
  modifiers : List Modifier := []
  deriving DecidableEq, Repr

namespace Expr

def isNode : Expr → Bool
  | node .. => true
  | _ => false

def isLiteral : Expr → Bool
  | literal _ => true
  | _ => false

def value? : Expr → Option Literal
  | literal v => some v
  | _ => none

/-- One for a leaf, one more than the deeper operand for a node. -/
def depth : Expr → Nat
  | node _ left right => 1 + max left.depth right.depth
  | _ => 1

end Expr

namespace Modifier

def field? (m : Modifier) : Option String :=
  match m.kind, m.operand with
  | .orderBy, .field name => some name
  | _, _ => none

def limit? (m : Modifier) : Option Int :=
  match m.kind, m.operand with
  | .limit, .literal (.integer n) => some n
  | _, _ => none

end Modifier

namespace Query

/-- The field of the last sort order. -/
def orderBy? (q : Query) : Option String := (q.modifiers.filterMap Modifier.field?).getLast?

/-- The number of the last limit. -/
def limit? (q : Query) : Option Int := (q.modifiers.filterMap Modifier.limit?).getLast?

end Query

end TicketQuery
