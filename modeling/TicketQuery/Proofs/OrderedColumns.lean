import TicketQuery.Proofs.SelectClauses

/-! # Filters and sort orders look for a field in the same place

A field is located once for the tests on it and once for the sort order. Either both are about one
column, or the field is among the custom fields and nothing sorts by it. -/
namespace TicketQuery

/-- The query sorts by the field and has no limit, and its condition, if any, is a node. -/
structure Query.SortsBy (q : Query) (field : String) : Prop where
  condition : ∀ e, q.condition = some e → e.isNode = true
  orderBy : q.orderBy? = some field
  limit : q.limit? = none

namespace Select

/-- The query is answered by a statement that sorts by the column. It has a text unless some test
is about a collection with a name that hides a quote. -/
structure IsSorted (config : Config) (q : Query) (column : String) (s : Select) : Prop where
  answer : ofQuery config q = .ok s
  filter : s.condition =
    (Filter.ofQuery config q).map (SqlCondition.ofFilter config.ignoreCase)
  hasText : q.HidesNoQuote config → s.toSql.isSome
  text : ∀ sql, s.toSql = some sql → ∃ clause, whereText s.condition = some clause ∧
    sql = "SELECT * FROM " ++ (sqlName config.table ++
      (clause ++ (" ORDER BY " ++ (sqlName column ++ " ASC"))))

variable {config : Config} {q : Query} {field : String}

/-- Tests on a field are about a column if and only if queries can be sorted by the field, and then
both are about one column. -/
theorem orderColumn_cases (config : Config) (field : String) (op : Comparison) (v : Literal) :
    (∃ path, Filter.ofComparison config field op v = .stored path op v ∧
      orderColumn config field = .ok (columnName path)) ∨
    Filter.ofComparison config field op v = .custom config.collection field op v ∧
      orderColumn config field = .error (.customOrdering field) := by
  by_cases h : config.IsCustom field
  · exact .inr ⟨Filter.ofComparison_of_isCustom op v h, orderColumn_of_isCustom h⟩
  · exact .inl ⟨_, Filter.ofComparison_of_not_isCustom op v h, orderColumn_of_not_isCustom h⟩

theorem isSorted_of_sortsBy (hq : q.SortsBy field) {column : String}
    (h : orderColumn config field = .ok column) : ∃ s, IsSorted config q column s := by
  have hok : ofQuery config q = .ok ⟨config.table, Filter.ofQuery config q, config.ignoreCase,
      some column, none⟩ := by
    rw [ofQuery_eq, checkCondition_of_isNode hq.condition, hq.orderBy, hq.limit]
    simp only [Option.mapM_some, h]
    rfl
  refine ⟨_, hok, rfl, isSome_toSql_of_hidesNoQuote hok, fun sql hsql => ?_⟩
  rw [toSql_eq] at hsql
  obtain ⟨clause, hclause, rfl⟩ := Option.map_eq_some_iff.1 hsql
  exact ⟨clause, hclause, by simp [orderText, limitText]⟩

/-- A comparison of a field with a value tests a column, and then every query that sorts by the
field sorts by that column, or it looks for a custom field, and then no query sorts by it. -/
theorem sortsBy_tested_column (config : Config) (field : String) (op : Comparison) (v : Literal) :
    let filter := Filter.ofExpr config (.node (.comparison op) (.field field) (.literal v))
    (∃ path, filter = some (.stored path op v) ∧
      (SqlCondition.ofFilter config.ignoreCase (.stored path op v)).toSql =
        some (sqlName (columnName path) ++ " " ++
          (SqlOperator.ofComparison config.ignoreCase op).symbol ++ " " ++
            (SqlCondition.operand op v).toSql) ∧
      ∀ q : Query, q.SortsBy field → ∃ s, IsSorted config q (columnName path) s) ∨
    filter = some (.custom config.collection field op v) ∧
      ∀ q : Query, q.SortsBy field → ofQuery config q = .error (.customOrdering field) := by
  intro filter
  have hfilter : filter = some (Filter.ofComparison config field op v) := rfl
  rcases orderColumn_cases config field op v with ⟨path, htest, horder⟩ | ⟨htest, horder⟩
  · left
    refine ⟨path, hfilter.trans (congrArg some htest), ?_,
      fun q hq => isSorted_of_sortsBy hq horder⟩
    rw [SqlCondition.ofFilter, SqlCondition.toSql_test]
    rfl
  · right
    exact ⟨hfilter.trans (congrArg some htest),
      fun q hq => ofQuery_of_orderColumn_error hq.condition hq.orderBy horder⟩

/-- A configured path is the place of both, with its dots replaced in the same way. -/
theorem sortsBy_tested_column_status :
    let q : Query := {
      condition := some (.node (.connective .and)
        (.node (.comparison .ne) (.field "status") (.literal (.text "Done")))
        (.node (.comparison .gt) (.field "points") (.literal (.integer 3))))
      modifiers := [⟨.orderBy, .field "points"⟩, ⟨.orderBy, .field "status"⟩] }
    q.SortsBy "status" ∧
      (SqlCondition.ofFilter false (.stored "status.name" .ne (.text "Done"))).toSql =
        some "\"status_name\" <> 'Done'" ∧
      ∃ s clause, ofQuery {} q = .ok s ∧ s.toSql =
        some ("SELECT * FROM \"tickets\"" ++ (clause ++ " ORDER BY \"status_name\" ASC")) := by
  intro q
  have hq : q.SortsBy "status" :=
    ⟨by rintro _ ⟨⟩; rfl, by decide +kernel, by decide +kernel⟩
  have hplace : Filter.ofExpr {} (.node (.comparison .ne) (.field "status")
      (.literal (.text "Done"))) = some (.stored "status.name" .ne (.text "Done")) := by
    decide +kernel
  rcases sortsBy_tested_column {} "status" .ne (.text "Done") with
    ⟨path, hpath, htest, hsorted⟩ | ⟨hcustom, -⟩
  · cases hplace.symm.trans hpath
    obtain ⟨s, hs⟩ := hsorted q hq
    obtain ⟨sql, hsql⟩ := Option.isSome_iff_exists.1
      (hs.hasText (.inl (keepsQuotes_of_not_mem (by decide))))
    obtain ⟨clause, -, rfl⟩ := hs.text sql hsql
    have htable : "SELECT * FROM " ++ sqlName ({} : Config).table =
        "SELECT * FROM \"tickets\"" := by
      decide +kernel
    have hcolumn : " ORDER BY " ++ (sqlName (columnName "status.name") ++ " ASC") =
        " ORDER BY \"status_name\" ASC" := by
      decide +kernel
    refine ⟨hq, ?_, s, clause, hs.answer, ?_⟩
    · exact htest.trans (by decide +kernel)
    · rw [hsql, ← htable, ← hcolumn, String.append_assoc]
  · cases hplace.symm.trans hcustom

/-- A backslash in the name of the collection, which stands in the condition, may leave a query that
sorts by a column without a text. -/
theorem not_forall_sortsBy_isSome_toSql : ¬ ∀ (config : Config) (field path : String)
    (op : Comparison) (v : Literal),
    Filter.ofExpr config (.node (.comparison op) (.field field) (.literal v)) =
      some (.stored path op v) →
    ∀ q : Query, q.SortsBy field → ∃ s, ofQuery config q = .ok s ∧ s.toSql.isSome := by
  intro h
  let config : Config := { collection := "\\\" $9 " }
  let q : Query := {
    condition := some (.node (.comparison .eq) (.field "points") (.literal (.integer 5)))
    modifiers := [⟨.orderBy, .field "key"⟩] }
  have hplace : Filter.ofExpr config (.node (.comparison .eq) (.field "key")
      (.literal (.integer 1))) = some (.stored "_id" .eq (.integer 1)) := by
    decide +kernel
  have hq : q.SortsBy "key" := ⟨by rintro _ ⟨⟩; rfl, by decide +kernel, by decide +kernel⟩
  have hok : ofQuery config q = .ok ⟨"tickets",
      some (.custom config.collection "points" .eq (.integer 5)), false, some "_id", none⟩ := by
    decide +kernel
  obtain ⟨s, hs, htext⟩ := h config "key" "_id" .eq (.integer 1) hplace q hq
  cases hok.symm.trans hs
  exact absurd htext (by decide +kernel)

end Select

end TicketQuery
