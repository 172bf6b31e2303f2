import TicketQuery.Proofs.ConditionMeaning
import TicketQuery.Proofs.HiddenQuotes
import TicketQuery.Proofs.StatementTokens

/-! # Conditions that have a text

A test of a column has a text whatever the column is called, and a test of a member has one unless a
backslash hides a quote of the collection's name. A condition has a text if all its tests have. -/
namespace TicketQuery

theorem SqlPiece.isSome_rowText_append (ps qs : List SqlPiece) :
    (rowText (ps ++ qs)).isSome ↔ (rowText ps).isSome ∧ (rowText qs).isSome := by
  simp only [rowText, Option.isSome_map, List.mapM_append]
  cases ps.mapM toSql <;> cases qs.mapM toSql <;> simp

namespace SqlCondition

open SqlPiece

theorem isSome_rowText_operand (isOpen : Bool) (c : SqlCondition) :
    (rowText (if isOpen then c.pieces else inParentheses c.pieces)).isSome ↔ c.toSql.isSome := by
  cases isOpen with
  | true => rfl
  | false =>
    have hopening : (rowText [.opening]).isSome := rfl
    have hclosing : (rowText [.closing]).isSome := rfl
    have hpieces : inParentheses c.pieces = [.opening] ++ (c.pieces ++ [.closing]) := rfl
    rw [if_neg Bool.false_ne_true, hpieces, isSome_rowText_append, isSome_rowText_append,
      and_iff_right hopening, and_iff_left hclosing]
    rfl

/-- A condition has a text if and only if each of its tests has one. -/
theorem isSome_toSql_iff (c : SqlCondition) :
    c.toSql.isSome ↔ ∀ t ∈ c.leaves, t.toSql.isSome := by
  induction c with
  | test t =>
    rw [toSql_test]
    cases t with
    | always => simp [leaves, SqlTest.toSql]
    | column | member => simp [leaves]
  | combined k left right ihl ihr =>
    have hk : (rowText [.connective k]).isSome := rfl
    have hpieces : (combined k left right).pieces =
        (if left.isOpenOnLeft k then left.pieces else inParentheses left.pieces) ++
          ([.connective k] ++
            if right.isOpenOnRight then right.pieces else inParentheses right.pieces) := rfl
    have htext : (combined k left right).toSql = rowText (combined k left right).pieces := rfl
    rw [htext, hpieces, isSome_rowText_append, isSome_rowText_append, isSome_rowText_operand,
      isSome_rowText_operand, and_iff_right hk, ihl, ihr, leaves, List.forall_mem_append]

/-- A test of a column has a text whatever the column is called. -/
theorem isSome_toSql_ofFilter {f : Filter} (h : ∀ l ∈ f.leaves, ∃ path op v, l = .stored path op v)
    (ignoreCase : Bool) : (ofFilter ignoreCase f).toSql.isSome := by
  rw [isSome_toSql_iff]
  intro t ht
  have ht := leaves_ofFilter ignoreCase f ▸ List.mem_map_of_mem ht
  obtain ⟨l, hl, htest⟩ := List.mem_map.1 ht
  obtain ⟨path, op, v, rfl⟩ := h l hl
  cases htest
  rfl

end SqlCondition

/-- All tests are about columns, or no backslash hides a quote of the collection's name. -/
def Query.HidesNoQuote (config : Config) (q : Query) : Prop :=
  KeepsQuotes config.collection ∨
    ∀ f ∈ Filter.ofQuery config q, ∀ l ∈ f.leaves, ∃ path op v, l = .stored path op v

theorem Select.isSome_toSql_of_hidesNoQuote {config : Config} {q : Query} {s : Select}
    (h : ofQuery config q = .ok s) (hq : q.HidesNoQuote config) : s.toSql.isSome := by
  rcases hq with hc | hstored
  · exact isSome_toSql_of_ofQuery hc h
  · obtain ⟨orderBy, limit, -, rfl⟩ := exists_of_ofQuery h
    rw [toSql_eq, Option.isSome_map]
    cases hf : Filter.ofQuery config q with
    | none => rfl
    | some f =>
      have htext := SqlCondition.isSome_toSql_ofFilter (hstored f hf) config.ignoreCase
      simpa [condition, whereText] using htext

end TicketQuery
