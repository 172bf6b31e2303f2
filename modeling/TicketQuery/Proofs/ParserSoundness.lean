import TicketQuery.Proofs.ParserCompleteness

/-! # Whatever is read without a fault is derived by the grammar

Reading at a level gives a chain that binds more tightly than any operator below that level: an
operand, a clause or any chain. The operators behind a left operand extend the chain that was read
from the same start. -/
namespace TicketQuery

/-- How tightly a chain holds together. -/
def Chain.tightness : Chain → Precedence
  | .clause (.operand _) => .comparison
  | .clause (.comparison ..) => .connective
  | .linked .. => .lowest

theorem Chain.eq_clause_of_tightness {e : Chain}
    (h : Precedence.connective.rank ≤ e.tightness.rank) : ∃ q, e = .clause q := by
  cases e with
  | clause q => exact ⟨q, rfl⟩
  | linked l op r => simp [tightness, Precedence.rank] at h

theorem Chain.eq_operand_of_tightness {e : Chain}
    (h : Precedence.comparison.rank ≤ e.tightness.rank) : ∃ p, e = .clause (.operand p) := by
  obtain ⟨_ | _⟩ | _ := e
  · exact ⟨_, rfl⟩
  all_goals simp [tightness, Precedence.rank] at h

/-- Only an operand can stand for a field. -/
theorem Chain.eq_operand_of_expr?_eq_field {e : Chain} {name : String}
    (h : e.expr? = some (.field name)) : ∃ p, e = .clause (.operand p) := by
  obtain ⟨_ | _⟩ | _ := e
  · exact ⟨_, rfl⟩
  · obtain ⟨_, _, _, -, -, -, hx⟩ := Clause.expr?_comparison_eq_some h
    cases hx
  · obtain ⟨_, _, _, -, -, -, -, -, hx⟩ := Chain.expr?_linked_eq_some h
    cases hx

/-- The tokens from `start` up to the cursor of the outcome are a chain that binds at least as
tightly as the level and stands for the value. -/
def Reads (level : Precedence) (start : Cursor) (o : Outcome) : Prop :=
  ∃ e x rest, Chain.expr? e = some x ∧ level.rank ≤ e.tightness.rank ∧
    start.unread = e.tokens ++ rest ∧ o.value = some x ∧ o.cursor = start.onLast e.tokens

theorem Joined.faults_comparison_eq_nil {op : Comparison} {place last : Span} {x y : Expr}
    (h : (Joined.comparison op place last (some x) (some y)).faults = []) :
    ∃ name v, x = .field name ∧ y = .literal v := by
  cases y with
  | literal v =>
    cases x with
    | field name => exact ⟨name, v, rfl, rfl⟩
    | literal w => cases h
    | node o l r => cases h
  | field name => cases h
  | node o l r => cases h

theorem Joined.faults_connective_eq_nil {k : Connective} {place : Span} {x y : Expr}
    (h : (Joined.connective k place (some x) (some y)).faults = []) :
    x.isNode = true ∧ y.isNode = true := by
  obtain ⟨hx, hy⟩ := List.append_eq_nil_iff.1 h
  constructor
  · by_contra hn
    simp [nonCondition, hn] at hx
  · by_contra hn
    simp [nonCondition, hn] at hy

/-- An operator and its right operand extend a chain. -/
theorem Reads.extend {level : Precedence} {start c : Cursor} {left : Option Expr} {op : Operator}
    {o : Outcome} {place last : Span} (h : Reads level start ⟨left, [], c⟩)
    (hop : c.operator? = some op) (hl : level.rank < op.precedence.rank)
    (ho : Reads op.precedence c.advance.advance o)
    (hf : (Joined.ofOperator op place last left o.value).faults = []) :
    Reads level start ⟨(Joined.ofOperator op place last left o.value).value, [], o.cursor⟩ := by
  obtain ⟨e, x, rest, hx, he, hs, hv, hc⟩ := h
  obtain ⟨f, y, rest', hy, hf', hs', hv', hc'⟩ := ho
  dsimp only at hv hc
  subst hv hc
  rw [hv'] at hf ⊢
  obtain ⟨t, ts, rfl, ht⟩ := Cursor.exists_eq_cons_of_upcoming_onLast hs e.tokens_ne_nil
    (TokenKind.operator?_eq_some_iff.1 hop) (by simp)
  have hts : ts = f.tokens ++ rest' := by
    rw [← hs', Cursor.unread_advance, Cursor.unread_advance_onLast hs e.tokens_ne_nil]
    rfl
  have hcur : o.cursor = start.onLast (e.tokens ++ t :: f.tokens) := by
    rw [hc', Cursor.onLast_advance_advance_onLast start t e.tokens_ne_nil f.tokens_ne_nil]
  have hunread : start.unread = (e.tokens ++ t :: f.tokens) ++ rest' := by
    rw [hs, hts]
    simp
  cases op with
  | comparison k =>
    obtain ⟨name, v, rfl, rfl⟩ := Joined.faults_comparison_eq_nil hf
    obtain ⟨p, rfl⟩ := Chain.eq_operand_of_expr?_eq_field hx
    obtain ⟨r, rfl⟩ := Chain.eq_operand_of_tightness hf'
    refine ⟨.clause (.comparison p t r), _, rest', ?_, Nat.lt_succ_iff.1 hl, hunread, rfl, hcur⟩
    have hp : p.expr? = some (.field name) := hx
    have hr : r.expr? = some (.literal v) := hy
    simp [Chain.expr?, Clause.expr?, hp, hr, ht, TokenKind.compare?]
  | connective k =>
    obtain ⟨hxn, hyn⟩ := Joined.faults_connective_eq_nil hf
    obtain ⟨q, rfl⟩ := Chain.eq_clause_of_tightness hf'
    refine ⟨.linked e t q, .node (.connective k) x y, rest', ?_, Nat.lt_succ_iff.1 hl, hunread,
      ?_, hcur⟩
    · have hq : q.expr? = some y := hy
      simp [Chain.expr?, hx, hq, ht, TokenKind.link?, hxn, hyn]
    · simp [Joined.ofOperator, Joined.connective, hxn, hyn]

/-- The tokens from `start` up to the cursor of the outcome are an operand that stands for the
value. -/
def ReadsOperand (start : Cursor) (o : Outcome) : Prop :=
  ∃ p x rest, Operand.expr? p = some x ∧ start.unread = p.tokens ++ rest ∧ o.value = some x ∧
    o.cursor = start.onLast p.tokens

theorem ReadsOperand.reads {start : Cursor} {o : Outcome} (h : ReadsOperand start o)
    (level : Precedence) : Reads level start ⟨o.value, [], o.cursor⟩ := by
  obtain ⟨p, x, rest, hx, hs, hv, hc⟩ := h
  refine ⟨.clause (.operand p), x, rest, hx, ?_, hs, hv, hc⟩
  cases level <;> simp [Chain.tightness, Precedence.rank]

theorem Cursor.unread_eq_current_cons {c : Cursor} (h : c.current.kind ≠ .eof) :
    c.unread = c.current :: c.unread.tail := by
  cases hu : c.unread with
  | nil => simp [current, hu, Token.eof] at h
  | cons t ts => simp [current, hu]

theorem ReadsOperand.leaf {c : Cursor} {x : Expr} (h : c.current.expr? = some x) :
    ReadsOperand c ⟨some x, [], c⟩ := by
  have hk : c.current.kind ≠ .eof := by
    rcases Token.kind_of_expr?_eq_some h with hk | hk | hk <;> simp [hk]
  exact ⟨.leaf c.current, x, c.unread.tail, h, c.unread_eq_current_cons hk, rfl, rfl⟩

theorem Reads.closeGroup {c : Cursor} {o : Outcome} (hk : c.current.kind = .leftParen)
    (h : o.faults = [] → Reads .lowest c.advance o) (hf : o.closeGroup.faults = []) :
    ReadsOperand c o.closeGroup := by
  unfold Outcome.closeGroup at hf ⊢
  split at hf
  · next hclose =>
    obtain ⟨e, x, rest, hx, -, hs, hv, hc⟩ := h hf
    rw [if_pos hclose]
    rw [hc] at hclose
    obtain ⟨t, ts, rfl, ht⟩ :=
      Cursor.exists_eq_cons_of_upcoming_onLast hs e.tokens_ne_nil hclose (by simp)
    have hu := c.unread_eq_current_cons (by rw [hk]; simp)
    refine ⟨.group c.current e t, x, ts, ?_, ?_, hv, ?_⟩
    · simp [Operand.expr?, hk, ht, hx]
    · rw [hu, ← Cursor.unread_advance, hs]
      simp [Operand.tokens]
    · dsimp only
      rw [hc, Operand.onLast_tokens_group]
  · simp at hf

/-- An expression that was read without a fault is a chain of the grammar. -/
theorem reads_expression (level : Precedence) (c : Cursor)
    (h : (expression level c).faults = []) : Reads level c (expression level c).outcome := by
  refine (outcome_induction (P := fun c o => o.faults = [] → ReadsOperand c o)
    (Q := fun level c o => o.faults = [] → Reads level c o)
    (R := fun level left c o => ∀ start, Reads level start ⟨left, [], c⟩ → o.faults = [] →
      Reads level start o) ?_ ?_ ?_ ?_ ?_ ?_).2.1 level c h
  · intro c x hx _
    exact .leaf hx
  · intro c _ _ hf
    cases hf
  · intro c o hk ih hf
    exact Reads.closeGroup hk ih hf
  · intro level c o o' ihp ihr hf
    obtain ⟨ho, ho'⟩ := List.append_eq_nil_iff.1 hf
    exact ihr c ((ihp ho).reads level) ho'
  · intro level left c _ start hstart _
    exact hstart
  · intro level left c op o o' hop hl ihq ihr start hstart hf
    obtain ⟨hf, ho'⟩ := List.append_eq_nil_iff.1 hf
    obtain ⟨ho, hj⟩ := List.append_eq_nil_iff.1 hf
    exact ihr start (hstart.extend hop hl (ihq ho) hj) ho'

theorem Cursor.unread_eq_current_upcoming {c : Cursor} (hc : c.current.kind ≠ .eof)
    (hu : c.upcoming.kind ≠ .eof) : c.unread = [c.current, c.upcoming] ++ c.unread.tail.tail := by
  have h := c.advance.unread_eq_current_cons hu
  rw [c.unread_eq_current_cons hc]
  exact congrArg (c.current :: ·) h

theorem Statement.exists_item_of_modifier {kind : ModifierKind} {c : Cursor}
    (hk : c.current.kind = kind.keywordKind) (hf : (Statement.modifier kind c).faults = []) :
    ∃ i v rest, Item.value? i = some v ∧ c.unread = i.tokens ++ rest ∧
      (Statement.modifier kind c).result = .ofValue v ∧
        (Statement.modifier kind c).cursor = c.onLast i.tokens := by
  unfold Statement.modifier at hf ⊢
  split
  · next hu =>
    have hc : c.unread = [c.current, c.upcoming] ++ c.unread.tail.tail :=
      c.unread_eq_current_upcoming (by cases kind <;> simp [hk, ModifierKind.keywordKind])
        (by cases kind <;> simp [hu, ModifierKind.operandKind])
    have hlast : c.advance = c.onLast [c.current, c.upcoming] := c.advance_eq_skip
    cases kind with
    | orderBy =>
      refine ⟨.modifier c.current c.upcoming, .inl ⟨.orderBy, .field c.upcoming.text⟩, _, ?_, hc,
        rfl, hlast⟩
      simp [Item.value?, Item.modifier?, hk, hu, ModifierKind.keywordKind,
        ModifierKind.operandKind]
    | limit =>
      rw [if_pos hu] at hf
      dsimp only at hf ⊢
      have hcur : c.advance.current = c.upcoming := rfl
      unfold Parsed.integer at hf ⊢
      rw [hcur] at hf ⊢
      split at hf
      · next n hn =>
        refine ⟨.modifier c.current c.upcoming, .inl ⟨.limit, .literal (.integer n)⟩, _, ?_, hc,
          rfl, hlast⟩
        simp [Item.value?, Item.modifier?, hk, hu, ModifierKind.keywordKind,
          ModifierKind.operandKind, hn]
      · cases hf
  · next hu =>
    rw [if_neg hu] at hf
    dsimp only at hf
    split at hf <;> cases hf

/-- A statement that was read without a fault is an item of the grammar. -/
theorem Statement.exists_item {c : Cursor} (hf : (Statement.read c).faults = []) :
    ∃ i v rest, Item.value? i = some v ∧ c.unread = i.tokens ++ rest ∧
      (Statement.read c).result = .ofValue v ∧ (Statement.read c).cursor = c.onLast i.tokens := by
  by_cases ho : c.current.kind = ModifierKind.orderBy.keywordKind
  · rw [Statement.read_of_keyword ho] at hf ⊢
    exact Statement.exists_item_of_modifier ho hf
  by_cases hl : c.current.kind = ModifierKind.limit.keywordKind
  · rw [Statement.read_of_keyword hl] at hf ⊢
    exact Statement.exists_item_of_modifier hl hf
  obtain ⟨hres, hfaults, hcur⟩ := Statement.read_of_not_keyword ho hl
  obtain ⟨e, x, rest, hx, -, hc, hv, hlast⟩ := reads_expression .lowest c (hfaults ▸ hf)
  refine ⟨.expression e, .inr x, rest, by simp [Item.value?, hx], hc, ?_, hcur.trans hlast⟩
  rw [hres, show (expression .lowest c).value = some x from hv]
  rfl

/-- A query that was read without a fault is a sequence of items. -/
theorem exists_derives {c : Cursor} (hf : (statements c).faults = []) :
    ∃ items, Derives items c.unread := by
  induction c using statements.induct with
  | case1 c h => exact ⟨[], by simp [AllValid], h.symm⟩
  | case2 c h s ih =>
    obtain ⟨-, hfs⟩ := statements_of_unread_ne_nil h
    obtain ⟨hs, hmore⟩ := List.append_eq_nil_iff.1 (hfs ▸ hf)
    obtain ⟨i, v, rest, hi, hc, -, hcur⟩ := Statement.exists_item hs
    obtain ⟨items, hv, hu⟩ := ih hmore
    have hn : i.tokens ≠ [] := by
      obtain ⟨init, t, ht, -⟩ := i.exists_tokens_eq_concat hi
      simp [ht]
    refine ⟨i :: items, ?_, ?_⟩
    · intro j hj
      rcases List.mem_cons.1 hj with rfl | hj
      · exact ⟨v, hi⟩
      · exact hv j hj
    · rw [List.flatMap_cons, hu, hcur, Cursor.unread_advance_onLast hc hn, hc]

end TicketQuery
