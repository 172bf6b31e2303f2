import TicketQuery.SqlText
import TicketQuery.SqlTemplate

/-! # SQL conditions

A condition is a tree of tests. It is written as a row of pieces, with parentheses around the
operands of a connective except tests that bind tightly and a left operand with the same connective.
-/
namespace TicketQuery

inductive SqlOperator where
  | eq | ne | lt | gt | le | ge | like | ilike
  deriving DecidableEq, Repr

namespace SqlOperator

def symbol : SqlOperator → String
  | eq => "=" | ne => "<>" | lt => "<" | gt => ">" | le => "<=" | ge => ">="
  | like => "LIKE" | ilike => "ILIKE"

def ofComparison (ignoreCase : Bool) : Comparison → SqlOperator
  | .eq => eq | .ne => ne | .lt => lt | .gt => gt | .le => le | .ge => ge
  | .like => if ignoreCase then ilike else like

end SqlOperator

inductive SqlTest where
  | always
  | column (name : String) (op : SqlOperator) (operand : SqlValue)
  /-- Some member of a collection has this name and a value that passes. -/
  | member (collection name : String) (op : SqlOperator) (operand : SqlValue)
  deriving DecidableEq, Repr

namespace SqlTest

/-- The test of a member `cf`. The value of a member is cast to a number only after it is known to
be one, whatever the order in which operands are evaluated. -/
def memberTest (op : SqlOperator) : SqlValue → String
  | .integer _ =>
    "CASE WHEN cf->>'name' = $1 AND jsonb_typeof(cf->'value') = 'number' " ++
      "THEN CAST(cf->>'value' AS numeric) END " ++ op.symbol ++ " $2"
  | .text _ => "cf->>'name' = $1 AND cf->>'value' " ++ op.symbol ++ " $2"

def memberTemplate (collection : String) (op : SqlOperator) (operand : SqlValue) : String :=
  "EXISTS (SELECT 1 FROM jsonb_array_elements(" ++ sqlName collection ++ ") AS cf WHERE " ++
    memberTest op operand ++ ")"

/-- The text of a test. It has none if the name of the collection disturbs the template so that a
value is missing. -/
def toSql : SqlTest → Option String
  | always => some "TRUE"
  | column name op operand => some (sqlName name ++ " " ++ op.symbol ++ " " ++ operand.toSql)
  | member collection name op operand =>
    fillTemplate (memberTemplate collection op operand) [sqlString name, operand.toSql]

/-- Whether a test binds more tightly than any connective. -/
def isTight : SqlTest → Bool
  | always => true
  | column _ op _ => op ≠ .ilike
  | member .. => false

end SqlTest

inductive SqlCondition where
  | test (t : SqlTest)
  | combined (connective : Connective) (left right : SqlCondition)
  deriving DecidableEq, Repr

inductive SqlPiece where
  | opening | closing
  | connective (k : Connective)
  | test (t : SqlTest)
  deriving DecidableEq, Repr

def SqlPiece.toSql : SqlPiece → Option String
  | opening => some "("
  | closing => some ")"
  | connective k => some (" " ++ k.symbol ++ " ")
  | test t => t.toSql

def inParentheses (pieces : List SqlPiece) : List SqlPiece := .opening :: (pieces ++ [.closing])

namespace SqlCondition

/-- The operand to be combined, from left to right; no operands make no condition. -/
def join (k : Connective) : List SqlCondition → SqlCondition
  | [] => test .always
  | c :: cs => cs.foldl (combined k) c

/-- Whether a condition stands without parentheses on the left of a connective. -/
def isOpenOnLeft (k : Connective) : SqlCondition → Bool
  | test t => t.isTight
  | combined l _ _ => l = k

def isOpenOnRight : SqlCondition → Bool
  | test t => t.isTight
  | combined .. => false

def pieces : SqlCondition → List SqlPiece
  | test t => [.test t]
  | combined k left right =>
    (if left.isOpenOnLeft k then left.pieces else inParentheses left.pieces) ++
      .connective k :: (if right.isOpenOnRight then right.pieces else inParentheses right.pieces)

def toSql (c : SqlCondition) : Option String := (c.pieces.mapM SqlPiece.toSql).map String.join

/-- What a value is compared with: for a pattern match, the pattern. -/
def operand (op : Comparison) (v : Literal) : SqlValue :=
  if op = .like then .text (containsPattern v) else .ofLiteral v

mutual

def ofFilter (ignoreCase : Bool) : Filter → SqlCondition
  | .combined k fs => join k (ofFilters ignoreCase fs)
  | .stored path op v =>
    test (.column (columnName path) (.ofComparison ignoreCase op) (operand op v))
  | .custom collection name op v =>
    test (.member collection name (.ofComparison ignoreCase op) (operand op v))

def ofFilters (ignoreCase : Bool) : List Filter → List SqlCondition
  | [] => []
  | f :: fs => ofFilter ignoreCase f :: ofFilters ignoreCase fs

end

theorem ofFilters_eq_map (ignoreCase : Bool) (fs : List Filter) :
    ofFilters ignoreCase fs = fs.map (ofFilter ignoreCase) := by
  induction fs with
  | nil => rfl
  | cons f fs ih => simp [ofFilters, ih]

end SqlCondition

end TicketQuery
