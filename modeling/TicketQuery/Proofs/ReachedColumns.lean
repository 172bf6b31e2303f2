import TicketQuery.Proofs.LastExpression
import TicketQuery.Proofs.MarkedTokens
import TicketQuery.Proofs.ReachedStorage
import TicketQuery.Proofs.StatementTokens
import TicketQuery.Proofs.TemplateMarks

/-! # Columns that a query can reach

Outside of `EXISTS (...)` the statement of a query names the columns of stored paths only. A test of
members never gets out of its `EXISTS`, even if the name of the collection disturbs its template. -/
namespace TicketQuery

/-- The keywords of statements outside of `EXISTS (...)`. -/
def statementKeywords : List (List Char) :=
  ["WHERE", "TRUE", "AND", "OR", "LIKE", "ILIKE", "ORDER", "BY", "ASC", "LIMIT"].map String.toList

namespace SqlToken

/-- Keywords, numbers, signs and strings, which name no column. -/
def isPlain : SqlToken → Bool
  | word text => statementKeywords.contains text || text.all Char.isDigit
  | operator _ | sign _ | string .. => true
  | name _ => false

theorem isPlain_repr (n : ℕ) : (word n.repr.toList).isPlain = true := by
  simp only [isPlain, Bool.or_eq_true, List.all_eq_true]
  exact .inr fun _ => isDigit_of_mem_repr

/-- If the token names a column, then that of a stored path. -/
inductive IsWithin (config : Config) : SqlToken → Prop where
  | plain {t : SqlToken} (h : t.isPlain = true) : IsWithin config t
  | column {path : String} (h : config.Stores path) :
      IsWithin config (.name (columnName path).toList)

theorem not_mem_exists_of_isPlain {ts : List SqlToken} (h : ∀ t ∈ ts, t.isPlain = true) :
    .word "EXISTS".toList ∉ ts := fun hm => absurd (h _ hm) (by decide)

end SqlToken

/-- Keywords and signs that lead from one state to the other, between two tokens. -/
def IsPhrase (s s' : ExistsState) (text : String) : Prop :=
  (ScanState.between.run text.toList).any (fun r => r.2 == .between && (s.run r.1).2 == s' &&
    (s.run r.1).1.all SqlToken.isPlain) = true

instance (s s' : ExistsState) (text : String) : Decidable (IsPhrase s s' text) :=
  inferInstanceAs (Decidable (_ = _))

theorem IsPhrase.exists_runs {s s' : ExistsState} {text : String} (h : IsPhrase s s' text) :
    ∃ ts, ScanState.between.Runs text.toList ts .between ∧ (s.run ts).2 = s' ∧
      ∀ t ∈ (s.run ts).1, t.isPlain = true := by
  unfold IsPhrase at h
  cases hr : ScanState.between.run text.toList with
  | none => simp [hr] at h
  | some r =>
    obtain ⟨ts, state⟩ := r
    simp only [hr, Option.any_some, Bool.and_eq_true, beq_iff_eq, List.all_eq_true] at h
    obtain ⟨⟨rfl, hs⟩, hts⟩ := h
    exact ⟨ts, hr, hs, hts⟩

/-- The text leads from one state to the other, and outside of `EXISTS (...)` it names columns of
stored paths only. -/
def ReadsWithin (config : Config) (s s' : ExistsState) (text : String) : Prop :=
  ∃ ts us, markedTokens text.toList = some ts ∧ s.run ts = (us, s') ∧ ∀ t ∈ us, t.IsWithin config

namespace ReadsWithin

open ExistsState

variable {config : Config} {s s' s'' : ExistsState} {x y k : String}

theorem append (h : ReadsWithin config s s' x) (h' : ReadsWithin config s' s'' y)
    (hd : Delimited y.toList) : ReadsWithin config s s'' (x ++ y) := by
  obtain ⟨ts, us, hts, hrun, hus⟩ := h
  obtain ⟨ts', us', hts', hrun', hus'⟩ := h'
  refine ⟨ts ++ ts', us ++ us', ?_, ?_, List.forall_mem_append.2 ⟨hus, hus'⟩⟩
  · rw [String.toList_append]
    exact markedTokens_append_of_delimited hts hts' hd
  · rw [run_append, hrun, hrun']

theorem prepend (hk : IsPhrase s s' k) (h : ReadsWithin config s' s'' x) :
    ReadsWithin config s s'' (k ++ x) := by
  obtain ⟨ts, us, hts, hrun, hus⟩ := h
  obtain ⟨vs, hr, rfl, hv⟩ := hk.exists_runs
  refine ⟨vs ++ ts, (s.run vs).1 ++ us, ?_, ?_, List.forall_mem_append.2 ⟨?_, hus⟩⟩
  · rw [String.toList_append]
    exact markedTokens_append hr.runsMarked hts
  · rw [run_append, hrun]
  · exact fun t ht => .plain (hv t ht)

theorem separated {s₁ s₂ : ExistsState} (hk : IsPhrase s₁ s₂ k ∧ IsSeparator k)
    (h : ReadsWithin config s s₁ x) (h' : ReadsWithin config s₂ s' y) :
    ReadsWithin config s s' (x ++ (k ++ y)) :=
  h.append (h'.prepend hk.1) (hk.2.delimited y)

theorem of_isPlain {ts : List SqlToken} (hts : markedTokens x.toList = some ts)
    (h : ∀ t ∈ ts, t.isPlain = true) : ReadsWithin config .outside .outside x :=
  ⟨ts, ts, hts, run_outside (SqlToken.not_mem_exists_of_isPlain h), fun t ht => .plain (h t ht)⟩

theorem of_not_sign {ts : List SqlToken} (hts : markedTokens x.toList = some ts)
    (h : ∀ c, .sign c ∉ ts) (depth : Nat) :
    ReadsWithin config (.inside depth) (.inside depth) x :=
  ⟨ts, [], hts, run_inside h depth, by simp⟩

theorem column {path : String} (h : config.Stores path) :
    ReadsWithin config .outside .outside (sqlName (columnName path)) :=
  ⟨_, [.name (columnName path).toList], markedTokens_of_sqlTokens (sqlTokens_sqlName _), rfl,
    List.forall_mem_singleton.2 (.column h)⟩

theorem quotedName (name : String) (depth : Nat) :
    ReadsWithin config (.inside depth) (.inside depth) (sqlName name) :=
  of_not_sign (markedTokens_of_sqlTokens (sqlTokens_sqlName name)) (by simp) depth

theorem empty (s : ExistsState) : ReadsWithin config s s "" := ⟨[], [], rfl, rfl, by simp⟩

theorem of_isPhrase (hk : IsPhrase s s' k) : ReadsWithin config s s' k := by
  have h : ReadsWithin config s s' (k ++ "") := (empty s').prepend hk
  rwa [String.append_empty] at h

end ReadsWithin

namespace SqlValue

theorem exists_sqlTokens (x : SqlValue) : ∃ ts, sqlTokens x.toSql.toList = some ts ∧
    (∀ t ∈ ts, t.isPlain = true) ∧ ∀ c, .sign c ∉ ts := by
  have hn := SqlToken.isPlain_repr
  cases x with
  | integer n =>
    cases n with
    | ofNat n => exact ⟨_, sqlTokens_repr n, List.forall_mem_singleton.2 (hn n), by simp⟩
    | negSucc n =>
      refine ⟨_, sqlTokens_negSucc n, ?_, by simp⟩
      exact List.forall_mem_cons.2 ⟨rfl, List.forall_mem_singleton.2 (hn _)⟩
  | text s => exact ⟨_, sqlTokens_sqlString s, by simp [SqlToken.ofString, SqlToken.isPlain], by
      simp [SqlToken.ofString]⟩

theorem quote_not_mem_operand {v : Literal} (h : v.IsWritable) (op : Comparison) :
    '"' ∉ (SqlCondition.operand op v).toSql.toList := by
  have hpattern : '"' ∉ v.patternText.toList := by
    cases v with
    | integer n =>
      obtain ⟨n, rfl⟩ := Int.eq_ofNat_of_zero_le h.1
      exact fun hm => absurd (isDigit_of_mem_repr hm) (by decide)
    | text s => exact h
    | date => cases h
  have hescaped : ∀ c, c ≠ '"' → '"' ∉ escapedInPattern c := by
    intro c hc
    unfold escapedInPattern
    split <;> simp [hc.symm]
  unfold SqlCondition.operand
  split
  · refine quote_not_mem_sqlString ?_
    simp only [containsPattern, String.toList_ofList, List.mem_cons, List.mem_append,
      List.mem_flatMap, List.not_mem_nil, or_false, not_or, not_exists, not_and]
    exact ⟨by decide, fun c hc => hescaped c fun he => hpattern (he ▸ hc), by decide⟩
  · cases v with
    | integer n => exact hpattern
    | text s => exact quote_not_mem_sqlString h
    | date => cases h

end SqlValue

/-- A test of a column looks at that of a stored path, and a test of members has no quotes in its
values. -/
inductive SqlTest.IsWithin (config : Config) : SqlTest → Prop where
  | always : IsWithin config .always
  | column {path : String} (h : config.Stores path) (op : SqlOperator) (x : SqlValue) :
      IsWithin config (.column (columnName path) op x)
  | member {name : String} {x : SqlValue} (hn : '"' ∉ name.toList) (op : SqlOperator)
      (hx : '"' ∉ x.toSql.toList) : IsWithin config (.member config.collection name op x)

namespace SqlTest

variable {config : Config}

theorem readsWithin_column {path : String} (h : config.Stores path) (op : SqlOperator)
    (x : SqlValue) : ReadsWithin config .outside .outside
      (sqlName (columnName path) ++ " " ++ op.symbol ++ " " ++ x.toSql) := by
  obtain ⟨ts, hts, hplain, -⟩ := x.exists_sqlTokens
  have hop : IsPhrase .outside .outside (" " ++ op.symbol ++ " ") ∧
      IsSeparator (" " ++ op.symbol ++ " ") := by
    cases op <;> decide +kernel
  have hx : ReadsWithin config .outside .outside x.toSql :=
    .of_isPlain (markedTokens_of_sqlTokens hts) hplain
  have ht := (ReadsWithin.column h).separated hop hx
  simp only [String.append_assoc] at ht ⊢
  exact ht

theorem readsWithin_member {collection name : String} {op : SqlOperator} {x : SqlValue}
    (hn : '"' ∉ name.toList) (hx : '"' ∉ x.toSql.toList) {text : String}
    (ht : (member collection name op x).toSql = some text) :
    ReadsWithin config .outside .outside text := by
  obtain ⟨other, v, w, hv, hw, rfl⟩ := exists_toSql_member (quote_not_mem_sqlString hn) hx ht
  have hstart : IsPhrase (.inside 1) (.inside 0) (memberStart x.isInteger) ∧
      IsSeparator (memberStart x.isInteger) := by
    cases x.isInteger <;> decide +kernel
  have hmiddle : IsPhrase (.inside 0) (.inside 0) (memberMiddle x.isInteger) ∧
      IsSeparator (memberMiddle x.isInteger) := by
    cases x.isInteger <;> decide +kernel
  have hop : IsPhrase (.inside 0) (.inside 0) (op.symbol ++ " ") := by
    cases op <;> decide +kernel
  have hexists : IsPhrase .outside (.inside 1) "EXISTS (SELECT 1 FROM jsonb_array_elements(" := by
    decide +kernel
  have hmark : ∀ {m : String} {c : Char}, markedTokens m.toList = some [.word ['$', c]] →
      ReadsWithin config (.inside 0) (.inside 0) m := fun h => .of_not_sign h (by simp) 0
  have hname : ReadsWithin config (.inside 0) (.inside 0) v := by
    rcases hv with rfl | rfl
    · exact hmark rfl
    · exact .of_not_sign (markedTokens_of_sqlTokens (sqlTokens_sqlString name))
        (by simp [SqlToken.ofString]) 0
  have hvalue : ReadsWithin config (.inside 0) (.inside 0) w := by
    rcases hw with rfl | rfl
    · exact hmark rfl
    · obtain ⟨ts, hts, -, hsign⟩ := x.exists_sqlTokens
      exact .of_not_sign (markedTokens_of_sqlTokens hts) hsign 0
  have hclosing : ReadsWithin config (.inside 0) .outside ")" := .of_isPhrase (by decide)
  have htest := (hvalue.append hclosing (delimited_closing [])).prepend hop
  have hcontent := (ReadsWithin.quotedName other 1).separated hstart (hname.separated hmiddle htest)
  have hall := hcontent.prepend hexists
  simp only [String.append_assoc] at hall ⊢
  exact hall

theorem IsWithin.readsWithin {t : SqlTest} (h : t.IsWithin config) {text : String}
    (ht : t.toSql = some text) : ReadsWithin config .outside .outside text := by
  cases h with
  | always =>
    cases ht
    have hts : sqlTokens "TRUE".toList = some [.word "TRUE".toList] := by decide
    exact .of_isPlain (markedTokens_of_sqlTokens hts) (by decide)
  | column h op x =>
    rw [toSql, Option.some.injEq] at ht
    rw [← ht]
    exact readsWithin_column h op x
  | member hn op hx => exact readsWithin_member hn hx ht

end SqlTest

inductive SqlCondition.IsWithin (config : Config) : SqlCondition → Prop where
  | test {t : SqlTest} (h : t.IsWithin config) : IsWithin config (.test t)
  | combined (k : Connective) {left right : SqlCondition} (hl : IsWithin config left)
      (hr : IsWithin config right) : IsWithin config (.combined k left right)

namespace SqlPiece

theorem exists_of_rowText_append {ps qs : List SqlPiece} {text : String}
    (h : rowText (ps ++ qs) = some text) :
    ∃ x y, rowText ps = some x ∧ rowText qs = some y ∧ text = x ++ y := by
  obtain ⟨zs, hz, rfl⟩ := Option.map_eq_some_iff.1 h
  rw [List.mapM_append] at hz
  obtain ⟨xs, hx, hz'⟩ := Option.bind_eq_some_iff.1 hz
  obtain ⟨ys, hy, hzs⟩ := Option.bind_eq_some_iff.1 hz'
  cases hzs
  refine ⟨String.join xs, String.join ys, ?_, ?_, String.join_append⟩
  · rw [rowText, hx, Option.map_some]
  · rw [rowText, hy, Option.map_some]

theorem exists_of_rowText_cons {p : SqlPiece} {ps : List SqlPiece} {x text : String}
    (hp : p.toSql = some x) (h : rowText (p :: ps) = some text) :
    ∃ y, rowText ps = some y ∧ text = x ++ y := by
  have h : rowText ([p] ++ ps) = some text := h
  obtain ⟨x', y, hx, hy, rfl⟩ := exists_of_rowText_append h
  cases (rowText_singleton hp).symm.trans hx
  exact ⟨y, hy, rfl⟩

end SqlPiece

namespace SqlCondition

open SqlPiece

variable {config : Config}

theorem readsWithin_operand {ps : List SqlPiece}
    (h : ∀ {text}, rowText ps = some text → ReadsWithin config .outside .outside text)
    (isOpen : Bool) {text : String}
    (ht : rowText (if isOpen then ps else inParentheses ps) = some text) :
    ReadsWithin config .outside .outside text := by
  cases isOpen with
  | true => exact h ht
  | false =>
    obtain ⟨y, hy, rfl⟩ := exists_of_rowText_cons rfl ht
    obtain ⟨x, z, hx, hz, rfl⟩ := exists_of_rowText_append hy
    cases (rowText_singleton rfl).symm.trans hz
    have hopening : IsPhrase .outside .outside "(" := by decide
    have hclosing : ReadsWithin config .outside .outside ")" := .of_isPhrase (by decide)
    exact ((h hx).append hclosing (delimited_closing [])).prepend hopening

theorem IsWithin.readsWithin {c : SqlCondition} (h : c.IsWithin config) {text : String}
    (ht : c.toSql = some text) : ReadsWithin config .outside .outside text := by
  induction h generalizing text with
  | @test t h =>
    have ht : rowText [.test t] = some text := ht
    cases htext : t.toSql with
    | none => simp [rowText, SqlPiece.toSql, htext] at ht
    | some x =>
      have hpiece : (SqlPiece.test t).toSql = some x := htext
      cases (rowText_singleton hpiece).symm.trans ht
      exact h.readsWithin htext
  | @combined k left right _ _ ihl ihr =>
    obtain ⟨x, z, hx, hz, rfl⟩ := exists_of_rowText_append ht
    obtain ⟨y, hy, rfl⟩ := exists_of_rowText_cons rfl hz
    have hk : IsPhrase .outside .outside (" " ++ k.symbol ++ " ") ∧
        IsSeparator (" " ++ k.symbol ++ " ") := by
      cases k <;> decide +kernel
    exact (readsWithin_operand ihl _ hx).separated hk (readsWithin_operand ihr _ hy)

theorem isWithin_ofExpr {e : Expr} (he : e.IsCondition) (ignoreCase : Bool) {f : Filter}
    (hf : Filter.ofExpr config e = some f) : (ofFilter ignoreCase f).IsWithin config := by
  induction he generalizing f with
  | @comparison c name v hn hv =>
    cases hf
    by_cases h : config.IsCustom name
    · have hquote : '"' ∉ name.toList := fun hm => absurd (hn.isIdentChar _ hm) (by decide)
      rw [Filter.ofComparison_of_isCustom c v h]
      exact .test (.member hquote _ (SqlValue.quote_not_mem_operand hv c))
    · rw [Filter.ofComparison_of_not_isCustom c v h]
      exact .test (.column (Config.stores_of_not_isCustom h) _ _)
  | @connective k left right hl hr ihl ihr =>
    obtain ⟨fl, hfl, -⟩ := hl.exists_ofExpr config
    obtain ⟨fr, hfr, -⟩ := hr.exists_ofExpr config
    rw [Filter.ofExpr, hfl, hfr] at hf
    cases hf
    exact .combined k (ihl hfl) (ihr hfr)

end SqlCondition

namespace Select

variable {config : Config}

/-- What is known of the statement of a query. -/
structure IsWithin (config : Config) (s : Select) : Prop where
  table : s.table = config.table
  condition : ∀ c, s.condition = some c → c.IsWithin config
  orderBy : ∀ column, s.orderBy = some column →
    ∃ path, config.Stores path ∧ column = columnName path

theorem exists_path_of_orderColumn {field column : String}
    (h : orderColumn config field = .ok column) :
    ∃ path, config.Stores path ∧ column = columnName path := by
  by_cases hc : config.IsCustom field
  · rw [orderColumn_of_isCustom hc] at h
    cases h
  · rw [orderColumn_of_not_isCustom hc] at h
    cases h
    exact ⟨_, Config.stores_of_not_isCustom hc, rfl⟩

theorem isWithin_ofQuery {q : Query} (hq : q.IsWritable) {s : Select}
    (h : ofQuery config q = .ok s) : s.IsWithin config := by
  obtain ⟨orderBy, limit, horder, rfl⟩ := exists_of_ofQuery h
  refine ⟨rfl, ?_, ?_⟩
  · rintro _ hc
    obtain ⟨f, hf, rfl⟩ := Option.map_eq_some_iff.1 hc
    obtain ⟨e, he, hfe⟩ := Option.bind_eq_some_iff.1 hf
    cases e with
    | field | literal => cases hfe
    | node =>
      exact SqlCondition.isWithin_ofExpr ((hq.condition _ he).isCondition rfl) _ hfe
  · rintro column rfl
    cases ho : q.orderBy? with
    | none =>
      rw [ho] at horder
      cases horder
    | some field =>
      rw [ho, Option.mapM_some] at horder
      cases hcolumn : orderColumn config field with
      | error f => simp [hcolumn] at horder
      | ok column' =>
        rw [hcolumn] at horder
        cases horder
        exact exists_path_of_orderColumn hcolumn

/-- A clause names columns of stored paths only, and nothing before it runs into it. -/
def IsClauseWithin (config : Config) (text : String) : Prop :=
  ReadsWithin config .outside .outside text ∧ Delimited text.toList

theorem isClauseWithin_empty : IsClauseWithin config "" := ⟨.empty _, delimited_nil⟩

theorem isClauseWithin_of_keyword {k x : String}
    (hk : IsPhrase .outside .outside k ∧ IsSeparator k)
    (h : ReadsWithin config .outside .outside x) : IsClauseWithin config (k ++ x) :=
  ⟨h.prepend hk.1, hk.2.delimited x⟩

theorem IsClauseWithin.append {x y : String} (h : IsClauseWithin config x)
    (h' : IsClauseWithin config y) : IsClauseWithin config (x ++ y) := by
  refine ⟨h.1.append h'.1 h'.2, ?_⟩
  rw [String.toList_append]
  exact h.2.append h'.2

namespace IsWithin

variable {s : Select}

theorem isClauseWithin_whereText (h : s.IsWithin config) {text : String}
    (ht : whereText s.condition = some text) : IsClauseWithin config text := by
  cases hc : s.condition with
  | none =>
    rw [hc] at ht
    cases ht
    exact isClauseWithin_empty
  | some c =>
    rw [hc] at ht
    obtain ⟨x, hx, rfl⟩ := Option.map_eq_some_iff.1 ht
    exact isClauseWithin_of_keyword (by decide) ((h.condition c hc).readsWithin hx)

theorem isClauseWithin_orderText (h : s.IsWithin config) :
    IsClauseWithin config (orderText s.orderBy) := by
  cases ho : s.orderBy with
  | none => exact isClauseWithin_empty
  | some column =>
    obtain ⟨path, hpath, rfl⟩ := h.orderBy column ho
    have hts : sqlTokens " ASC".toList = some [.word "ASC".toList] := by decide
    have hasc : ReadsWithin config .outside .outside " ASC" :=
      .of_isPlain (markedTokens_of_sqlTokens hts) (by decide)
    have hd : Delimited " ASC".toList := delimited_blank "ASC".toList
    exact isClauseWithin_of_keyword (by decide) ((ReadsWithin.column hpath).append hasc hd)

theorem isClauseWithin_limitText (config : Config) (limit : Option ℕ) :
    IsClauseWithin config (limitText limit) := by
  cases limit with
  | none => exact isClauseWithin_empty
  | some n =>
    refine isClauseWithin_of_keyword (by decide) ?_
    exact .of_isPlain (markedTokens_of_sqlTokens (sqlTokens_repr n))
      (List.forall_mem_singleton.2 (SqlToken.isPlain_repr n))

theorem exists_markedTokens (h : s.IsWithin config) {sql : String} (ht : s.toSql = some sql) :
    ∃ ts us, markedTokens sql.toList = some ([.word "SELECT".toList, .operator ['*'],
        .word "FROM".toList, .name config.table.toList] ++ ts) ∧
      ExistsState.outside.run ts = (us, .outside) ∧ ∀ t ∈ us, t.IsWithin config := by
  rw [toSql_eq] at ht
  obtain ⟨w, hw, rfl⟩ := Option.map_eq_some_iff.1 ht
  obtain ⟨⟨ts, us, hts, hrun, hus⟩, hd⟩ := (h.isClauseWithin_whereText hw).append
    (h.isClauseWithin_orderText.append (isClauseWithin_limitText config s.limit))
  refine ⟨ts, us, ?_, hrun, hus⟩
  have hselect : ScanState.between.Runs "SELECT * FROM ".toList
      [.word "SELECT".toList, .operator ['*'], .word "FROM".toList] .between := by
    rw [ScanState.Runs]
    decide
  have hname := markedTokens_append_of_delimited
    (markedTokens_of_sqlTokens (sqlTokens_sqlName s.table)) hts hd
  have hall := markedTokens_append hselect.runsMarked hname
  simp only [h.table, String.toList_append] at hall ⊢
  exact hall

end IsWithin

end Select

/-- A query reaches stored paths and members of the collection only. Its filter looks nowhere else,
the document of the filter has no other keys apart from operators, and its statement names no other
columns: all that follows the name of the table are columns of stored paths, keywords, numbers,
signs and strings, and tests within `EXISTS (...)`. -/
theorem Query.isWithin_ofText {limits : Limits} {text : String} {q : Query}
    (h : ofText limits text = .ok q) (config : Config) :
    (∀ f, Filter.ofQuery config q = some f → f.IsWithin config ∧
      ∀ ignoreCase, ∀ key ∈ (f.toDocument ignoreCase).keys, config.IsDocumentKey key ∧
        (IsForeignKey key → config.Names key ∨ key = config.collection)) ∧
    ∀ s sql, Select.ofQuery config q = .ok s → s.toSql = some sql →
      ∃ ts us, markedTokens sql.toList = some ([.word "SELECT".toList, .operator ['*'],
          .word "FROM".toList, .name config.table.toList] ++ ts) ∧
        ExistsState.outside.run ts = (us, .outside) ∧ ∀ t ∈ us, t.IsWithin config := by
  obtain ⟨-, -, -, hw⟩ := Query.exists_derives_of_ofText h
  constructor
  · intro f hf
    have hwithin := Filter.isWithin_ofQuery hf
    refine ⟨hwithin, fun ignoreCase key hkey => ?_⟩
    have hdocument := Filter.isDocumentKey_of_toDocument hwithin ignoreCase key hkey
    exact ⟨hdocument, hdocument.names_or_eq⟩
  · intro s sql hs hsql
    exact (Select.isWithin_ofQuery hw hs).exists_markedTokens hsql

/-- The name of the collection takes the place of the name away from the test, and yet the test does
not get out of its parentheses. -/
theorem Query.isWithin_ofText_disturbed :
    let config : Config := {
      fieldPaths := .ofList [("owner", "$meta.owner")]
      collection := "\\\" $1 " }
    ∃ q f s sql ts us, ofText {} "points = 5 or owner ~ \"x\" order_by Type" = .ok q ∧
      Filter.ofQuery config q = some f ∧ f.IsWithin config ∧
      "$meta.owner" ∈ (f.toDocument false).keys ∧ config.Names "$meta.owner" ∧
      Select.ofQuery config q = .ok s ∧ s.toSql = some sql ∧
      markedTokens sql.toList = some ([.word "SELECT".toList, .operator ['*'],
        .word "FROM".toList, .name "tickets".toList] ++ ts) ∧
      ExistsState.outside.run ts = (us, .outside) ∧ ∀ t ∈ us, t.IsWithin config := by
  intro config
  let q : Query := {
    condition := some (.node (.connective .or)
      (.node (.comparison .eq) (.field "points") (.literal (.integer 5)))
      (.node (.comparison .like) (.field "owner") (.literal (.text "x"))))
    modifiers := [⟨.orderBy, .field "Type"⟩] }
  let f : Filter := .combined .or [.custom config.collection "points" .eq (.integer 5),
    .stored "$meta.owner" .like (.text "x")]
  let s : Select := ⟨"tickets", some f, false, some "Type", none⟩
  have h : Query.ofText {} "points = 5 or owner ~ \"x\" order_by Type" = .ok q :=
    ofText_eq_ok_iff.2 ⟨by decide +kernel, by decide +kernel, by decide +kernel, by decide +kernel⟩
  have hf : Filter.ofQuery config q = some f := by decide +kernel
  have hs : Select.ofQuery config q = .ok s := by decide +kernel
  have hsome : s.toSql.isSome = true := by decide +kernel
  obtain ⟨sql, hsql⟩ := Option.isSome_iff_exists.1 hsome
  obtain ⟨hfilter, hselect⟩ := Query.isWithin_ofText h config
  obtain ⟨hwithin, hkeys⟩ := hfilter f hf
  have hkey : "$meta.owner" ∈ (f.toDocument false).keys := by decide +kernel
  have hforeign : IsForeignKey "$meta.owner" := .inr (by decide)
  have hnames := ((hkeys false _ hkey).2 hforeign).resolve_right (by decide)
  obtain ⟨ts, us, hts, hrun, hus⟩ := hselect s sql hs hsql
  exact ⟨q, f, s, sql, ts, us, h, hf, hwithin, hkey, hnames, hs, hsql, hts, hrun, hus⟩

end TicketQuery
