import TicketQuery.Proofs.ConditionTexts
import TicketQuery.Proofs.LastModifiers

/-! # The clauses of a statement

Which clauses the statement of an accepted text has, and whether it has a statement at all, can be
read off the tokens of the text: the last expression decides on the first clause, and the last
modifiers on the others. -/
namespace TicketQuery

namespace Select

variable {config : Config} {q : Query}

theorem checkCondition_of_isNode {e : Option Expr} (h : ∀ x, e = some x → x.isNode = true) :
    checkCondition e = .ok () := by
  cases e with
  | none => rfl
  | some x => simp only [checkCondition, h x rfl, if_true]

theorem ofQuery_of_not_isNode {x : Expr} (hc : q.condition = some x) (hn : x.isNode = false) :
    ofQuery config q = .error (.notCondition x) := by
  have hcheck : checkCondition q.condition = .error (.notCondition x) := by
    simp [hc, checkCondition, hn]
  rw [ofQuery_eq, hcheck]
  rfl

theorem ofQuery_of_orderColumn_error (hc : ∀ x, q.condition = some x → x.isNode = true)
    {field : String} (ho : q.orderBy? = some field) {fault : SelectFault}
    (h : orderColumn config field = .error fault) : ofQuery config q = .error fault := by
  rw [ofQuery_eq, checkCondition_of_isNode hc, ho]
  simp only [Option.mapM_some, h]
  rfl

theorem ofQuery_of_not_isCustom (hc : ∀ x, q.condition = some x → x.isNode = true)
    (ho : ∀ field, q.orderBy? = some field → ¬ config.IsCustom field)
    (hl : ∀ n, q.limit? = some n → 0 ≤ n) :
    ofQuery config q = .ok ⟨config.table, Filter.ofQuery config q, config.ignoreCase,
      q.orderBy?.map config.columnOf, q.limit?.map Int.toNat⟩ := by
  have horder : q.orderBy?.mapM (orderColumn config) = .ok (q.orderBy?.map config.columnOf) := by
    cases h : q.orderBy? with
    | none => rfl
    | some field =>
      simp only [Option.mapM_some, orderColumn_of_not_isCustom (ho field h)]
      rfl
  have hlimit : q.limit?.mapM rowLimit = .ok (q.limit?.map Int.toNat) := by
    cases h : q.limit? with
    | none => rfl
    | some n =>
      simp only [Option.mapM_some, rowLimit, if_pos (hl n h)]
      rfl
  rw [ofQuery_eq, checkCondition_of_isNode hc, horder, hlimit]
  rfl

end Select

/-- The clause that filters is left out if the tokens are those of modifiers. Otherwise it states
the filter of the query. -/
inductive IsFilterClause (config : Config) (q : Query) (ts : List Token) : String → Prop where
  | absent (h : IsModifierRow ts) : IsFilterClause config q ts ""
  | present {f : Filter} {condition : String} (h : ¬ IsModifierRow ts)
      (hf : Filter.ofQuery config q = some f)
      (hc : (SqlCondition.ofFilter config.ignoreCase f).toSql = some condition) :
      IsFilterClause config q ts (" WHERE " ++ condition)

theorem isFilterClause_of_whereText {config : Config} {items : List Item} {ts : List Token}
    (hd : Derives items ts) (hw : (Query.ofItems items).IsWritable)
    (hbare : bareExpression? items = none) {text : String}
    (h : Select.whereText ((Filter.ofQuery config (Query.ofItems items)).map
      (SqlCondition.ofFilter config.ignoreCase)) = some text) :
    IsFilterClause config (Query.ofItems items) ts text := by
  obtain ⟨hnode, hnone⟩ := hd.valid.condition_of_not_bare hbare
  have hsome := Filter.ofQuery_isSome_iff config hw
  cases hf : Filter.ofQuery config (Query.ofItems items) with
  | none =>
    rw [hf] at h
    cases h
    refine .absent (hd.isModifierRow_iff.2 (hnone.1 (Option.eq_none_iff_forall_ne_some.2 ?_)))
    intro x hx
    have hfilter := hsome.2 ⟨x, hx, hnode x hx⟩
    rw [hf] at hfilter
    cases hfilter
  | some f =>
    rw [hf] at h
    obtain ⟨condition, hc, rfl⟩ := Option.map_eq_some_iff.1 h
    refine .present ?_ hf hc
    intro hrow
    obtain ⟨x, hx, -⟩ := hsome.1 (by rw [hf]; rfl)
    rw [hnone.2 (hd.isModifierRow_iff.1 hrow)] at hx
    cases hx

namespace Select

/-- The answer to a query is the one that the items and the tokens of its text ask for. -/
structure IsAnswer (config : Config) (q : Query) (items : List Item) (ts : List Token)
    (answer : Except SelectFault Select) : Prop where
  notCondition_iff : (∃ x, answer = .error (.notCondition x)) ↔ (bareExpression? items).isSome
  notCondition_expr : ∀ x, answer = .error (.notCondition x) →
    (bareExpression? items).bind Token.expr? = some x
  customOrdering_iff : ∀ field, answer = .error (.customOrdering field) ↔
    bareExpression? items = none ∧ ∃ t, lastOperand? .orderBy ts = some t ∧ t.text = field ∧
      config.IsCustom field
  ne_negativeLimit : ∀ n, answer ≠ .error (.negativeLimit n)
  hasText : q.HidesNoQuote config → ∀ s, answer = .ok s → s.toSql.isSome
  clauses : ∀ s sql, answer = .ok s → s.toSql = some sql → ∃ clause,
    IsFilterClause config q ts clause ∧ sql = "SELECT * FROM " ++ (sqlName config.table ++
      (clause ++ (orderText ((lastOperand? .orderBy ts).map fun t => config.columnOf t.text) ++
        limitText ((lastOperand? .limit ts).map Token.number))))

section

variable {config : Config} {items : List Item} {ts : List Token}

theorem isAnswer_of_bare (hd : Derives items ts) {t : Token}
    (ht : bareExpression? items = some t) :
    IsAnswer config (.ofItems items) items ts (ofQuery config (.ofItems items)) := by
  obtain ⟨x, hx, hc, hn⟩ := hd.valid.condition_of_bare ht
  rw [ofQuery_of_not_isNode hc hn]
  constructor <;> simp [ht, hx]

theorem isAnswer_of_isCustom (hd : Derives items ts) (hbare : bareExpression? items = none)
    {t : Token} (ht : lastOperand? .orderBy ts = some t) (hcustom : config.IsCustom t.text) :
    IsAnswer config (.ofItems items) items ts (ofQuery config (.ofItems items)) := by
  obtain ⟨hnode, -⟩ := hd.valid.condition_of_not_bare hbare
  have horder : (Query.ofItems items).orderBy? = some t.text := by
    rw [hd.orderBy?_eq, ht, Option.map_some]
  rw [ofQuery_of_orderColumn_error hnode horder (orderColumn_of_isCustom hcustom)]
  constructor <;> simp [hbare, ht, hcustom]

theorem isAnswer_of_not_isCustom (hd : Derives items ts) (hw : (Query.ofItems items).IsWritable)
    (hbare : bareExpression? items = none)
    (hcustom : ∀ t, lastOperand? .orderBy ts = some t → ¬ config.IsCustom t.text) :
    IsAnswer config (.ofItems items) items ts (ofQuery config (.ofItems items)) := by
  obtain ⟨hnode, -⟩ := hd.valid.condition_of_not_bare hbare
  have hok := @ofQuery_of_not_isCustom config _ hnode
    (by simpa [hd.orderBy?_eq] using hcustom) (by simp [hd.limit?_eq])
  constructor
  case hasText => exact fun hq s hs => isSome_toSql_of_hidesNoQuote hs hq
  case clauses =>
    intro s sql hs hsql
    cases hs.symm.trans hok
    rw [toSql_eq] at hsql
    obtain ⟨clause, hclause, rfl⟩ := Option.map_eq_some_iff.1 hsql
    refine ⟨clause, isFilterClause_of_whereText hd hw hbare hclause, ?_⟩
    simp [hd.orderBy?_eq, hd.limit?_eq, Function.comp_def]
  case customOrdering_iff =>
    intro field
    simp only [hok, reduceCtorEq, false_iff]
    rintro ⟨-, t, ht, rfl, hc⟩
    exact hcustom t ht hc
  all_goals simp [hok, hbare]

end

/-- An accepted text is answered as its tokens ask for: by a fault if the last expression is bare or
the last sort order is by a custom field, and otherwise by a statement, whose clauses state the
filter, the last sort order and the last limit, as far as the text has them. -/
theorem isAnswer_ofQuery {limits : Limits} {text : String} {q : Query}
    (h : Query.ofText limits text = .ok q) (config : Config) :
    ∃ items, Derives items (Lexer.ofText text).tokens ∧
      IsAnswer config q items (Lexer.ofText text).tokens (ofQuery config q) := by
  obtain ⟨items, hd, rfl, hw⟩ := Query.exists_derives_of_ofText h
  refine ⟨items, hd, ?_⟩
  cases hbare : bareExpression? items with
  | some t => exact isAnswer_of_bare hd hbare
  | none =>
    by_cases hcustom : ∃ t, lastOperand? .orderBy (Lexer.ofText text).tokens = some t ∧
        config.IsCustom t.text
    · obtain ⟨t, ht, hc⟩ := hcustom
      exact isAnswer_of_isCustom hd hbare ht hc
    · exact isAnswer_of_not_isCustom hd hw hbare fun t ht hc => hcustom ⟨t, ht, hc⟩

/-- Later modifiers take the place of earlier ones, whatever stands between them. -/
theorem isAnswer_ofQuery_last : ∃ q s sql clause,
    let text := "order_by points key = 1 limit 07 order_by status"
    Query.ofText {} text = .ok q ∧ ofQuery {} q = .ok s ∧ s.toSql = some sql ∧
      IsFilterClause {} q (Lexer.ofText text).tokens clause ∧
        sql = "SELECT * FROM \"tickets\"" ++
          (clause ++ " ORDER BY \"status_name\" ASC LIMIT 7") := by
  let text := "order_by points key = 1 limit 07 order_by status"
  have h : Query.ofText {} text = .ok (Parser.ofText text).parse.1 :=
    Query.ofText_eq_ok_iff.2 ⟨by decide +kernel, by decide +kernel, by decide +kernel, rfl⟩
  obtain ⟨items, hd, hanswer⟩ := isAnswer_ofQuery h {}
  have hok : (ofQuery {} (Parser.ofText text).parse.1).isOk = true := by decide +kernel
  obtain ⟨s, hs⟩ : ∃ s, ofQuery {} (Parser.ofText text).parse.1 = .ok s := by
    cases hs : ofQuery {} (Parser.ofText text).parse.1 with
    | ok s => exact ⟨s, rfl⟩
    | error f => simp [hs, Except.isOk, Except.toBool] at hok
  obtain ⟨sql, hsql⟩ := Option.isSome_iff_exists.1
    (hanswer.hasText (.inl (keepsQuotes_of_not_mem (by decide))) s hs)
  obtain ⟨clause, hclause, rfl⟩ := hanswer.clauses s sql hs hsql
  have htable : "SELECT * FROM " ++ sqlName ({} : Config).table = "SELECT * FROM \"tickets\"" := by
    decide +kernel
  have hend : orderText ((lastOperand? .orderBy (Lexer.ofText text).tokens).map
        fun t => ({} : Config).columnOf t.text) ++
      limitText ((lastOperand? .limit (Lexer.ofText text).tokens).map Token.number) =
        " ORDER BY \"status_name\" ASC LIMIT 7" := by
    decide +kernel
  refine ⟨_, s, _, clause, h, hs, hsql, hclause, ?_⟩
  rw [hend, ← htable, String.append_assoc]

/-- A backslash in the name of the collection may leave a statement without a text. It hides the
quote behind it, so that the rest of the name is taken for template and asks for a missing value. -/
theorem not_forall_isSome_toSql : ¬ ∀ (limits : Limits) (config : Config) (text : String)
    (q : Query) (s : Select), Query.ofText limits text = .ok q → ofQuery config q = .ok s →
      s.toSql.isSome := by
  intro h
  let config : Config := { collection := "\\\" $9 " }
  have hq : Query.ofText {} "points = 5" = .ok ⟨some (.node (.comparison .eq) (.field "points")
      (.literal (.integer 5))), []⟩ :=
    Query.ofText_eq_ok_iff.2 ⟨by decide +kernel, by decide +kernel, by decide +kernel,
      by decide +kernel⟩
  have hs : ofQuery config ⟨some (.node (.comparison .eq) (.field "points")
      (.literal (.integer 5))), []⟩ = .ok ⟨"tickets",
        some (.custom config.collection "points" .eq (.integer 5)), false, none, none⟩ := by
    decide +kernel
  exact absurd (h {} config _ _ _ hq hs) (by decide +kernel)

end Select

end TicketQuery
