import TicketQuery.SqlCondition

/-! # SELECT statements

The statement of a query selects the tickets that pass its filter, in the order of one column and up
to a number of rows. -/
namespace TicketQuery

structure Select where
  table : String
  filter : Option Filter
  ignoreCase : Bool
  /-- The column to sort by. -/
  orderBy : Option String
  limit : Option Nat
  deriving DecidableEq, Repr

inductive SelectFault where
  /-- A field or a literal alone. -/
  | notCondition (e : Expr)
  | customOrdering (field : String)
  | negativeLimit (n : Int)
  deriving DecidableEq, Repr

def SelectFault.message : SelectFault → String
  | notCondition e => "query must be a boolean expression, got " ++ e.inQuery
  | customOrdering field => "cannot order by custom field " ++ field
  | negativeLimit n => "LIMIT must not be negative, got " ++ toString n

/-- The column of a field that is no custom field: that of its path if it has one. -/
def Config.columnOf (c : Config) (field : String) : String :=
  columnName ((c.fieldPaths[field]?).getD field)

namespace Select

def checkCondition : Option Expr → Except SelectFault Unit
  | none => .ok ()
  | some e => if e.isNode then .ok () else .error (.notCondition e)

/-- The column of a field that is kept in the ticket itself. -/
def orderColumn (config : Config) (field : String) : Except SelectFault String :=
  match config.path? field with
  | some path => .ok (columnName path)
  | none => if isBuiltIn field then .ok (columnName field) else .error (.customOrdering field)

theorem orderColumn_of_isCustom {config : Config} {field : String} (h : config.IsCustom field) :
    orderColumn config field = .error (.customOrdering field) := by
  obtain ⟨hp, hb⟩ := Config.isCustom_iff.1 h
  simp [orderColumn, hp, hb]

theorem orderColumn_of_not_isCustom {config : Config} {field : String}
    (h : ¬ config.IsCustom field) : orderColumn config field = .ok (config.columnOf field) := by
  unfold orderColumn Config.columnOf Config.path?
  cases hp : config.fieldPaths[field]? with
  | some path => rfl
  | none => simp [Config.isBuiltIn_of_not_isCustom h hp]

def rowLimit (n : Int) : Except SelectFault Nat :=
  if 0 ≤ n then .ok n.toNat else .error (.negativeLimit n)

/-- Of several faults the condition's comes first and the limit's last. -/
def ofQuery (config : Config) (q : Query) : Except SelectFault Select := do
  checkCondition q.condition
  let orderBy ← q.orderBy?.mapM (orderColumn config)
  let limit ← q.limit?.mapM rowLimit
  return ⟨config.table, Filter.ofQuery config q, config.ignoreCase, orderBy, limit⟩

def condition (s : Select) : Option SqlCondition :=
  s.filter.map (SqlCondition.ofFilter s.ignoreCase)

/-- The text of the statement, if its condition has one. -/
def toSql (s : Select) : Option String := do
  let condition ← match s.condition with
    | none => some ""
    | some c => c.toSql.map (" WHERE " ++ ·)
  let orderBy := match s.orderBy with
    | none => ""
    | some column => " ORDER BY " ++ sqlName column ++ " ASC"
  let limit := match s.limit with
    | none => ""
    | some n => " LIMIT " ++ toString n
  return "SELECT * FROM " ++ sqlName s.table ++ condition ++ orderBy ++ limit

end Select

end TicketQuery
