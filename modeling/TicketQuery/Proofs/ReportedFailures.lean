import TicketQuery.Proofs.ParserCompleteness

/-! # No reading fails in silence

An expression has a value if and only if no fault was found in it, groups and operands included, and
the same holds of a modifier and of a whole query. The invariant is about the operators behind a
left operand: if there is nothing on their left, nothing comes of them, and they need not report it
again. -/
namespace TicketQuery

namespace Joined

theorem isSome_value_comparison_iff (op : Comparison) (place last : Span)
    (left right : Option Expr) :
    (comparison op place last left right).value.isSome ↔
      left.isSome ∧ right.isSome ∧ (comparison op place last left right).faults = [] := by
  cases right with
  | none => simp [comparison]
  | some r =>
    cases r with
    | field name => simp [comparison, fault]
    | node o l r => simp [comparison, fault]
    | literal v =>
      cases left with
      | none => simp [comparison]
      | some l => cases l <;> simp [comparison, fault]

theorem isSome_value_connective_iff (k : Connective) (place : Span) (left right : Option Expr) :
    (connective k place left right).value.isSome ↔
      left.isSome ∧ right.isSome ∧ (connective k place left right).faults = [] := by
  cases left with
  | none => simp [connective]
  | some l =>
    cases right with
    | none => simp [connective]
    | some r =>
      cases hl : l.isNode <;> cases hr : r.isNode <;> simp [connective, nonCondition, hl, hr]

/-- An operator gives a value if both of its operands have one and it finds no fault with them. An
operand without a value was reported before, and the operator has nothing to add. -/
theorem isSome_value_ofOperator_iff (op : Operator) (place last : Span)
    (left right : Option Expr) :
    (ofOperator op place last left right).value.isSome ↔
      left.isSome ∧ right.isSome ∧ (ofOperator op place last left right).faults = [] := by
  cases op with
  | comparison c => exact isSome_value_comparison_iff c place last left right
  | connective k => exact isSome_value_connective_iff k place left right

end Joined

/-- There is a value if and only if there is no fault. -/
def Outcome.IsSettled (o : Outcome) : Prop := o.value.isSome ↔ o.faults = []

theorem Outcome.IsSettled.closeGroup {o : Outcome} (h : o.IsSettled) :
    o.closeGroup.IsSettled := by
  unfold Outcome.closeGroup
  split
  · exact h
  · simp [IsSettled]

theorem isSettled_expression (level : Precedence) (c : Cursor) :
    (expression level c).outcome.IsSettled := by
  refine (outcome_induction (P := fun _ o => o.IsSettled) (Q := fun _ _ o => o.IsSettled)
    (R := fun _ left _ o => o.value.isSome ↔ left.isSome ∧ o.faults = [])
    ?_ ?_ ?_ ?_ ?_ ?_).2.1 level c
  · intro c x _
    simp [Outcome.IsSettled]
  · intro c _ _
    simp [Outcome.IsSettled]
  · intro c o _ ih
    exact ih.closeGroup
  · intro level c o o' ihp ihr
    have hfirst : o.value.isSome ↔ o.faults = [] := ihp
    rw [Outcome.IsSettled, Outcome.value_after, Outcome.faults_after, List.append_eq_nil_iff, ihr,
      hfirst]
  · intro level left c _
    simp
  · intro level left c op o o' _ _ ihq ihr
    have hright : o.value.isSome ↔ o.faults = [] := ihq
    rw [Outcome.value_after, Outcome.faults_after, List.append_eq_nil_iff, List.append_eq_nil_iff,
      ihr, Joined.isSome_value_ofOperator_iff, hright]
    simp only [and_assoc]

/-- The statement has what it is to say: a condition or a modifier. -/
def StatementResult.hasValue : StatementResult → Bool
  | modifier m => m.isSome
  | condition e => e.isSome

theorem Parsed.isSettled_integer (c : Cursor) : (integer c).outcome.IsSettled := by
  unfold integer
  split
  · simp [outcome, leaf, Outcome.IsSettled]
  · simp [outcome, fault, Outcome.IsSettled]

namespace Statement

theorem hasValue_modifier_iff (kind : ModifierKind) (c : Cursor) :
    (modifier kind c).result.hasValue ↔ (modifier kind c).faults = [] := by
  unfold modifier
  split
  · cases kind with
    | orderBy => simp [StatementResult.hasValue]
    | limit =>
      have h : (Parsed.integer c.advance).value.isSome ↔ (Parsed.integer c.advance).faults = [] :=
        Parsed.isSettled_integer c.advance
      simpa [StatementResult.hasValue] using h
  · dsimp only
    split <;> simp [StatementResult.hasValue]

theorem exists_result_modifier (kind : ModifierKind) (c : Cursor) :
    ∃ m, (modifier kind c).result = .modifier m := by
  unfold modifier
  split
  · cases kind <;> exact ⟨_, rfl⟩
  · dsimp only
    split <;> exact ⟨_, rfl⟩

theorem hasValue_read_iff (c : Cursor) : (read c).result.hasValue ↔ (read c).faults = [] := by
  unfold read
  split
  · exact hasValue_modifier_iff .orderBy c
  · exact hasValue_modifier_iff .limit c
  · exact isSettled_expression .lowest c

end Statement

theorem forall_hasValue_statements_iff (c : Cursor) :
    (∀ r ∈ (statements c).results, r.hasValue) ↔ (statements c).faults = [] := by
  induction c using statements.induct with
  | case1 c hu =>
    rw [statements, dif_pos hu]
    simp
  | case2 c hu s ih =>
    rw [statements, dif_neg hu, List.forall_mem_cons, List.append_eq_nil_iff, ih,
      Statement.hasValue_read_iff]

/-- Wherever the parser stands, an expression has a value if and only if no fault is found while it
is read, and a modifier if and only if none is found with it. So a parser that is asked for a query
reports no fault if and only if every statement has a value. -/
theorem hasValue_iff_faultless :
    (∀ level c, (expression level c).value.isSome ↔ (expression level c).faults = []) ∧
    (∀ kind c, (∃ m, (Statement.modifier kind c).result = .modifier (some m)) ↔
      (Statement.modifier kind c).faults = []) ∧
    ∀ p : Parser, (∀ r ∈ (statements p.cursor).results, r.hasValue) ↔
      p.parse.2.faults = p.faults := by
  refine ⟨isSettled_expression, fun kind c => ?_, fun p => ?_⟩
  · obtain ⟨m, hm⟩ := Statement.exists_result_modifier kind c
    rw [← Statement.hasValue_modifier_iff, hm]
    simp [StatementResult.hasValue, Option.isSome_iff_exists]
  · rw [forall_hasValue_statements_iff]
    exact List.append_right_eq_self.symm

end TicketQuery
