import TicketQuery.Proofs.DenotedStrings
import TicketQuery.Proofs.Lowering
import TicketQuery.Proofs.ReachedColumns

/-! # The strings of a statement

The strings of a statement are those of the comparisons of its query, from left to right. A
comparison has the text that it compares with, or its pattern; one of a custom field has the name of
the field before that, between fixed strings. -/
namespace TicketQuery

def SqlToken.isString : SqlToken → Bool
  | string .. => true
  | _ => false

/-- The text is well-formed, and these are the values of its strings. -/
def HasStrings (x : String) (vs : List String) : Prop :=
  ∃ ts, sqlTokens x.toList = some ts ∧ ts.filter SqlToken.isString = vs.map SqlToken.ofString

/-- The text ends between two tokens, and these are the values of its strings. -/
def OpensWithStrings (s : String) (vs : List String) : Prop :=
  (ScanState.between.run s.toList).map (fun r => (r.1.filter SqlToken.isString, r.2)) =
    some (vs.map SqlToken.ofString, .between)

instance (s : String) (vs : List String) : Decidable (OpensWithStrings s vs) :=
  inferInstanceAs (Decidable (_ = _))

namespace HasStrings

variable {x y s : String} {us vs ws : List String}

theorem prepend (hs : OpensWithStrings s us) (h : HasStrings x vs) :
    HasStrings (s ++ x) (us ++ vs) := by
  obtain ⟨ts, hx, hvs⟩ := h
  obtain ⟨⟨ts', state⟩, hr, he⟩ := Option.map_eq_some_iff.1 hs
  obtain ⟨hus, rfl⟩ := Prod.mk.inj he
  refine ⟨ts' ++ ts, ?_, ?_⟩
  · rw [String.toList_append, sqlTokens_append hr hx]
  · rw [List.filter_append, List.map_append, hus, hvs]

theorem append (h : HasStrings x us) (h' : HasStrings y vs) (hd : Delimited y.toList) :
    HasStrings (x ++ y) (us ++ vs) := by
  obtain ⟨ts, hx, hus⟩ := h
  obtain ⟨ts', hy, hvs⟩ := h'
  refine ⟨ts ++ ts', ?_, ?_⟩
  · rw [String.toList_append, sqlTokens_append_of_delimited hx hy hd]
  · rw [List.filter_append, List.map_append, hus, hvs]

theorem separated (hs : IsSeparator s) (hws : OpensWithStrings s ws) (h : HasStrings x us)
    (h' : HasStrings y vs) : HasStrings (x ++ (s ++ y)) (us ++ (ws ++ vs)) :=
  h.append (h'.prepend hws) (hs.delimited y)

theorem closed (h : HasStrings x vs) : HasStrings (x ++ ")") vs := by
  have hc : HasStrings ")" [] := ⟨[.sign ')'], by decide, rfl⟩
  simpa using h.append hc (delimited_closing [])

theorem name (s : String) : HasStrings (sqlName s) [] := ⟨_, sqlTokens_sqlName s, rfl⟩

theorem string (s : String) : HasStrings (sqlString s) [s] := ⟨_, sqlTokens_sqlString s, rfl⟩

end HasStrings

def SqlValue.strings : SqlValue → List String
  | integer _ => []
  | text s => [s]

theorem SqlValue.hasStrings (v : SqlValue) : HasStrings v.toSql v.strings := by
  cases v with
  | integer n =>
    cases n with
    | ofNat n => exact ⟨_, sqlTokens_repr n, rfl⟩
    | negSucc n => exact ⟨_, sqlTokens_negSucc n, rfl⟩
  | text s => exact .string s

/-- There is a text, and it has these strings. -/
def TextHasStrings (a : Option String) (vs : List String) : Prop :=
  ∃ x, a = some x ∧ HasStrings x vs

namespace SqlTest

/-- The strings of the test of a member between its name and the operand. -/
def memberKeys (numeric : Bool) : List String :=
  if numeric then ["value", "number", "value"] else ["value"]

def strings : SqlTest → List String
  | always => []
  | column _ _ operand => operand.strings
  | member _ name _ operand => "name" :: name :: (memberKeys operand.isInteger ++ operand.strings)

/-- No quote of the name of a collection is hidden. -/
def HidesNoQuote : SqlTest → Prop
  | member collection .. => KeepsQuotes collection
  | _ => True

theorem hasStrings {t : SqlTest} (h : t.HidesNoQuote) : TextHasStrings t.toSql t.strings := by
  cases t with
  | always => exact ⟨_, rfl, [.word "TRUE".toList], by decide, rfl⟩
  | column name op operand =>
    have hop : IsSeparator (" " ++ op.symbol ++ " ") ∧
        OpensWithStrings (" " ++ op.symbol ++ " ") [] := by
      cases op <;> decide +kernel
    have ht := (HasStrings.name name).separated hop.1 hop.2 operand.hasStrings
    refine ⟨_, rfl, ?_⟩
    simp only [String.append_assoc] at ht ⊢
    exact ht
  | member collection name op operand =>
    have hop : OpensWithStrings (op.symbol ++ " ") [] := by
      cases op <;> decide +kernel
    have hstart : IsSeparator (memberStart operand.isInteger) ∧
        OpensWithStrings (memberStart operand.isInteger) ["name"] := by
      cases operand.isInteger <;> decide +kernel
    have hmiddle : IsSeparator (memberMiddle operand.isInteger) ∧
        OpensWithStrings (memberMiddle operand.isInteger) (memberKeys operand.isInteger) := by
      cases operand.isInteger <;> decide +kernel
    have hexists : OpensWithStrings "EXISTS (SELECT 1 FROM jsonb_array_elements(" [] := by
      decide +kernel
    have hvalue := operand.hasStrings.closed.prepend hop
    have hname := (HasStrings.string name).separated hmiddle.1 hmiddle.2 hvalue
    have ht := ((HasStrings.name collection).separated hstart.1 hstart.2 hname).prepend hexists
    rw [toSql_member h]
    refine ⟨_, rfl, ?_⟩
    simp only [String.append_assoc] at ht ⊢
    exact ht

end SqlTest

namespace SqlCondition

open SqlPiece

theorem hasStrings_operand {ps : List SqlPiece} {vs : List String} (isOpen : Bool)
    (h : TextHasStrings (rowText ps) vs) :
    TextHasStrings (rowText (if isOpen then ps else inParentheses ps)) vs := by
  cases isOpen with
  | true => exact h
  | false =>
    obtain ⟨x, hx, h⟩ := h
    have hopening : rowText [.opening] = some "(" := rowText_singleton rfl
    have hclosing : rowText [.closing] = some ")" := rowText_singleton rfl
    exact ⟨_, rowText_append hopening (rowText_append hx hclosing),
      h.closed.prepend (by decide : OpensWithStrings "(" [])⟩

theorem hasStrings {c : SqlCondition} (h : ∀ t ∈ c.leaves, t.HidesNoQuote) :
    TextHasStrings c.toSql (c.leaves.flatMap SqlTest.strings) := by
  induction c with
  | test t =>
    have ht : t.HidesNoQuote ∧ (test t).leaves.flatMap SqlTest.strings = t.strings := by
      cases t with
      | always => exact ⟨trivial, rfl⟩
      | column | member => exact ⟨h _ (List.mem_singleton_self _), List.flatMap_singleton _ _⟩
    obtain ⟨x, hx, hs⟩ := SqlTest.hasStrings ht.1
    rw [ht.2]
    exact ⟨x, rowText_singleton hx, hs⟩
  | combined k left right ihl ihr =>
    obtain ⟨hl, hr⟩ := List.forall_mem_append.1 h
    obtain ⟨x, hx, hxs⟩ := hasStrings_operand (left.isOpenOnLeft k) (ihl hl)
    obtain ⟨y, hy, hys⟩ := hasStrings_operand right.isOpenOnRight (ihr hr)
    have hk : IsSeparator (" " ++ k.symbol ++ " ") ∧
        OpensWithStrings (" " ++ k.symbol ++ " ") [] := by
      cases k <;> decide +kernel
    have hpiece := rowText_singleton (p := .connective k) rfl
    rw [leaves, List.flatMap_append]
    exact ⟨_, rowText_append hx (rowText_append hpiece hy), hxs.separated hk.1 hk.2 hys⟩

end SqlCondition

namespace Select

/-- Strings of a clause, which may be left out: nothing before it runs into it. -/
def ClauseHasStrings (x : String) (vs : List String) : Prop := HasStrings x vs ∧ Delimited x.toList

theorem ClauseHasStrings.none : ClauseHasStrings "" [] := ⟨⟨[], by decide, rfl⟩, delimited_nil⟩

theorem ClauseHasStrings.append {x y : String} {us vs : List String} (h : ClauseHasStrings x us)
    (h' : ClauseHasStrings y vs) : ClauseHasStrings (x ++ y) (us ++ vs) := by
  refine ⟨h.1.append h'.1 h'.2, ?_⟩
  rw [String.toList_append]
  exact h.2.append h'.2

theorem ClauseHasStrings.of_keyword {k x : String} {vs : List String}
    (hk : IsSeparator k ∧ OpensWithStrings k []) (h : HasStrings x vs) :
    ClauseHasStrings (k ++ x) vs := ⟨h.prepend hk.2, hk.1.delimited x⟩

theorem clauseHasStrings_whereText {c : Option SqlCondition}
    (h : ∀ t ∈ c.toList.flatMap SqlCondition.leaves, t.HidesNoQuote) :
    ∃ x, whereText c = some x ∧
      ClauseHasStrings x ((c.toList.flatMap SqlCondition.leaves).flatMap SqlTest.strings) := by
  cases c with
  | none => exact ⟨_, rfl, .none⟩
  | some c =>
    simp only [Option.toList_some, List.flatMap_singleton] at h ⊢
    obtain ⟨x, hx, hs⟩ := SqlCondition.hasStrings h
    refine ⟨" WHERE " ++ x, ?_, .of_keyword (by decide) hs⟩
    rw [whereText, hx, Option.map_some]

theorem clauseHasStrings_orderText (column : Option String) :
    ClauseHasStrings (orderText column) [] := by
  cases column with
  | none => exact .none
  | some column =>
    have hdir : HasStrings " ASC" [] := ⟨[.word "ASC".toList], by decide, rfl⟩
    have hd : Delimited " ASC".toList := delimited_blank "ASC".toList
    exact .of_keyword (by decide) ((HasStrings.name column).append hdir hd)

theorem clauseHasStrings_limitText (limit : Option Nat) :
    ClauseHasStrings (limitText limit) [] := by
  cases limit with
  | none => exact .none
  | some n => exact .of_keyword (by decide) ⟨_, sqlTokens_repr n, rfl⟩

/-- The strings of a statement are those of its tests. -/
theorem hasStrings {s : Select}
    (h : ∀ t ∈ s.condition.toList.flatMap SqlCondition.leaves, t.HidesNoQuote) :
    TextHasStrings s.toSql
      ((s.condition.toList.flatMap SqlCondition.leaves).flatMap SqlTest.strings) := by
  obtain ⟨x, hx, hw⟩ := clauseHasStrings_whereText h
  obtain ⟨hrest, hd⟩ := hw.append ((clauseHasStrings_orderText s.orderBy).append
    (clauseHasStrings_limitText s.limit))
  have hselect : OpensWithStrings "SELECT * FROM " [] := by decide
  have ht := ((HasStrings.name s.table).append hrest hd).prepend hselect
  rw [toSql_eq, hx]
  refine ⟨_, rfl, ?_⟩
  simpa using ht

end Select

/-- The comparisons of fields with literals, from left to right. -/
def Expr.fieldTests : Expr → List FieldTest
  | .node (.connective _) left right => left.fieldTests ++ right.fieldTests
  | e => e.fieldTest?.toList

def Query.fieldTests (q : Query) : List FieldTest := q.condition.toList.flatMap Expr.fieldTests

namespace FieldTest

/-- What is compared with, if it is a text: a pattern match has the pattern. -/
def operandText? (t : FieldTest) : Option String :=
  if t.op = .like then some (containsPattern t.value)
  else
    match t.value with
    | .text s => some s
    | .date d => some d.inPattern
    | .integer _ => none

/-- Custom fields are members of a collection. Before a member's value is compared with a number, it
is made sure that it is one. -/
def strings (config : Config) (t : FieldTest) : List String :=
  if config.IsCustom t.field then
    match t.operandText? with
    | some s => ["name", t.field, "value", s]
    | none => ["name", t.field, "value", "number", "value"]
  else t.operandText?.toList

def sqlTest (config : Config) (t : FieldTest) : SqlTest :=
  let op := SqlOperator.ofComparison config.ignoreCase t.op
  if config.IsCustom t.field then
    .member config.collection t.field op (SqlCondition.operand t.op t.value)
  else
    .column (config.columnOf t.field) op (SqlCondition.operand t.op t.value)

theorem leaves_ofComparison (config : Config) (t : FieldTest) :
    (SqlCondition.ofFilter config.ignoreCase
      (Filter.ofComparison config t.field t.op t.value)).leaves = [t.sqlTest config] := by
  unfold sqlTest
  by_cases h : config.IsCustom t.field
  · rw [Filter.ofComparison_of_isCustom t.op t.value h, if_pos h]
    rfl
  · rw [Filter.ofComparison_of_not_isCustom t.op t.value h, if_neg h]
    rfl

theorem operand_cases (t : FieldTest) :
    (∃ s, t.operandText? = some s ∧ SqlCondition.operand t.op t.value = .text s) ∨
      ∃ n, t.operandText? = none ∧ SqlCondition.operand t.op t.value = .integer n := by
  by_cases hop : t.op = .like
  · exact .inl ⟨containsPattern t.value, if_pos hop, if_pos hop⟩
  · simp only [operandText?, SqlCondition.operand, if_neg hop]
    cases t.value with
    | integer n => exact .inr ⟨n, rfl, rfl⟩
    | text s => exact .inl ⟨s, rfl, rfl⟩
    | date d => exact .inl ⟨d.inPattern, rfl, rfl⟩

theorem strings_sqlTest (config : Config) (t : FieldTest) :
    (t.sqlTest config).strings = t.strings config := by
  have hoperand := t.operand_cases
  unfold sqlTest strings
  by_cases h : config.IsCustom t.field
  · rw [if_pos h, if_pos h]
    rcases hoperand with ⟨s, htext, ho⟩ | ⟨n, htext, ho⟩ <;> rw [htext, ho] <;> rfl
  · rw [if_neg h, if_neg h]
    rcases hoperand with ⟨s, htext, ho⟩ | ⟨n, htext, ho⟩ <;> rw [htext, ho] <;> rfl

theorem hidesNoQuote_sqlTest {config : Config} {t : FieldTest}
    (h : config.IsCustom t.field → KeepsQuotes config.collection) :
    (t.sqlTest config).HidesNoQuote := by
  unfold sqlTest
  by_cases hc : config.IsCustom t.field
  · rw [if_pos hc]
    exact h hc
  · rw [if_neg hc]
    trivial

end FieldTest

namespace SqlCondition

/-- The tests of a condition are those of the comparisons it is made of. -/
theorem leaves_ofExpr (config : Config) (e : Expr) :
    (ofExpr config e).toList.flatMap leaves = e.fieldTests.map (FieldTest.sqlTest config) := by
  induction e with
  | field | literal => rfl
  | node op left right ihl ihr =>
    cases op with
    | connective k =>
      rw [ofExpr_connective, Option.toList_some, List.flatMap_singleton, leaves_join,
        List.flatMap_append, ihl, ihr, Expr.fieldTests, List.map_append]
    | comparison op =>
      cases left with
      | field name =>
        cases right with
        | literal v =>
          have hleaves := FieldTest.leaves_ofComparison config ⟨name, op, v⟩
          simpa [ofExpr, Filter.ofExpr, Expr.fieldTests, Expr.fieldTest?] using hleaves
        | field | node => rfl
      | literal | node => rfl

end SqlCondition

namespace Select

variable {config : Config} {q : Query} {s : Select}

theorem leaves_condition_of_ofQuery (h : ofQuery config q = .ok s) :
    s.condition.toList.flatMap SqlCondition.leaves =
      q.fieldTests.map (FieldTest.sqlTest config) := by
  obtain ⟨orderBy, limit, -, rfl⟩ := exists_of_ofQuery h
  rw [condition, Filter.ofQuery, Query.fieldTests]
  cases q.condition with
  | none => rfl
  | some e =>
    rw [Option.bind_some, Option.toList_some, List.flatMap_singleton]
    exact SqlCondition.leaves_ofExpr config e

/-- The strings of a statement are those of its query's comparisons. -/
theorem hasStrings_ofQuery (h : ofQuery config q = .ok s)
    (hc : ∀ t ∈ q.fieldTests, config.IsCustom t.field → KeepsQuotes config.collection) :
    TextHasStrings s.toSql (q.fieldTests.flatMap (FieldTest.strings config)) := by
  have hleaves := leaves_condition_of_ofQuery h
  have hquotes : ∀ t ∈ s.condition.toList.flatMap SqlCondition.leaves, t.HidesNoQuote := by
    rw [hleaves, List.forall_mem_map]
    exact fun t ht => FieldTest.hidesNoQuote_sqlTest (hc t ht)
  have hs := hasStrings hquotes
  rw [hleaves, List.flatMap_map] at hs
  simpa only [FieldTest.strings_sqlTest] using hs

/-- PostgreSQL compares with the texts that the query has, as far as no text has U+0000: every
string of the statement is read as it was given, but for the letter `z` in the place of U+001A. So
the strings without U+001A, and no others, are read exactly as they were given. -/
theorem denoted?_ofQuery (h : ofQuery config q = .ok s)
    (hc : ∀ t ∈ q.fieldTests, config.IsCustom t.field → KeepsQuotes config.collection) :
    ∃ sql ts, s.toSql = some sql ∧ sqlTokens sql.toList = some ts ∧
      List.Forall₂ (fun t v => '\x00' ∉ v.toList →
          t.denoted? = some (v.map readBack) ∧ (t.denoted? = some v ↔ '\x1a' ∉ v.toList))
        (ts.filter SqlToken.isString) (q.fieldTests.flatMap (FieldTest.strings config)) := by
  obtain ⟨sql, hsql, ts, hts, hstrings⟩ := hasStrings_ofQuery h hc
  refine ⟨sql, ts, hsql, hts, ?_⟩
  rw [hstrings, List.forall₂_map_left_iff, List.forall₂_same]
  intro v _ hv
  have hread := SqlToken.denoted?_ofString hv
  refine ⟨hread, ?_⟩
  rw [hread, Option.some.injEq, map_readBack_eq_iff]

/-- Quotes, backslashes and control characters come back; only the last character of the first text
does not. -/
theorem denoted?_ofQuery_mixed :
    let q : Query := { condition := some (.node (.connective .or)
      (.node (.comparison .eq) (.field "points") (.literal (.text "it's\t\\1\x1a")))
      (.node (.comparison .like) (.field "status") (.literal (.text "50%\\")))) }
    (∀ t ∈ q.fieldTests, Config.IsCustom {} t.field → KeepsQuotes ({} : Config).collection) ∧
      ∃ s sql ts, ofQuery {} q = .ok s ∧ s.toSql = some sql ∧ sqlTokens sql.toList = some ts ∧
        (ts.filter SqlToken.isString).map SqlToken.denoted? = [some "name", some "points",
          some "value", some "it's\t\\1z", some "%50\\%\\\\%"] := by
  intro q
  have hc : ∀ t ∈ q.fieldTests, Config.IsCustom {} t.field →
      KeepsQuotes ({} : Config).collection := fun _ _ _ => keepsQuotes_of_not_mem (by decide)
  have hstrings : q.fieldTests.flatMap (FieldTest.strings {}) =
      ["name", "points", "value", "it's\t\\1\x1a", "%50\\%\\\\%"] := by
    decide +kernel
  have hok : (ofQuery {} q).isOk = true := by decide +kernel
  obtain ⟨s, hs⟩ : ∃ s, ofQuery {} q = .ok s := by
    cases h : ofQuery {} q with
    | ok s => exact ⟨s, rfl⟩
    | error f => rw [h] at hok; cases hok
  obtain ⟨sql, ts, hsql, hts, hread⟩ := denoted?_ofQuery hs hc
  refine ⟨hc, s, sql, ts, hs, hsql, hts, ?_⟩
  rw [hstrings] at hread
  have hnul : ∀ v ∈ ["name", "points", "value", "it's\t\\1\x1a", "%50\\%\\\\%"],
      '\x00' ∉ v.toList := by
    decide +kernel
  have hread := ((List.forall₂_and_left _ _).2 ⟨hnul, hread.flip⟩).imp
    fun v t h => (h.2 h.1).1.symm
  have hread := (List.forall₂_map_right_iff (R := fun (v : String) => Eq (some (v.map readBack)))
    (f := SqlToken.denoted?)).2 hread
  have hread := (List.forall₂_map_left_iff (R := Eq)
    (f := fun v : String => some (v.map readBack))).2 hread
  rw [List.forall₂_eq_eq_eq] at hread
  rw [← hread]
  decide +kernel

/-- U+001A is read as a letter. -/
theorem not_forall_denoted?_ofQuery : ¬ ∀ (config : Config) (q : Query) (s : Select),
    ofQuery config q = .ok s →
      ∃ sql ts, s.toSql = some sql ∧ sqlTokens sql.toList = some ts ∧
        List.Forall₂ (fun t v => '\x00' ∉ v.toList → t.denoted? = some v)
          (ts.filter SqlToken.isString) (q.fieldTests.flatMap (FieldTest.strings config)) := by
  intro h
  let q : Query :=
    { condition := some (.node (.comparison .eq) (.field "key") (.literal (.text "\x1a"))) }
  let s : Select := ⟨"tickets", some (.stored "_id" .eq (.text "\x1a")), false, none, none⟩
  have hs : ofQuery {} q = .ok s := by decide +kernel
  have hsql : s.toSql = some "SELECT * FROM \"tickets\" WHERE \"_id\" = E'\\z'" := by
    decide +kernel
  have hstrings : q.fieldTests.flatMap (FieldTest.strings {}) = ["\x1a"] := by decide +kernel
  obtain ⟨sql, ts, hsql', hts, hread⟩ := h {} q s hs
  cases hsql.symm.trans hsql'
  have htokens : (sqlTokens "SELECT * FROM \"tickets\" WHERE \"_id\" = E'\\z'".toList).map
      (List.filter SqlToken.isString) = some [.string true ['\\', 'z']] := by
    decide +kernel
  rw [hts, Option.map_some, Option.some.injEq] at htokens
  rw [htokens, hstrings] at hread
  cases hread with
  | cons hread _ => exact absurd (hread (by decide)) (by decide +kernel)

end Select

end TicketQuery
