import TicketQuery.Proofs.ParseTree

/-! # What the parser makes of one operand and of one operator

The steps of the parser as equations between outcomes. An outcome does not depend on the place where
reading started, so outcomes of different calls can be compared. -/
namespace TicketQuery

namespace Cursor

def skip (c : Cursor) (n : Nat) : Cursor :=
  { c with unread := c.unread.drop n, advances := c.advances + n }

@[simp] theorem unread_skip (c : Cursor) (n : Nat) : (c.skip n).unread = c.unread.drop n := rfl

@[simp] theorem skip_skip (c : Cursor) (m n : Nat) : (c.skip m).skip n = c.skip (m + n) := by
  simp [skip, Nat.add_assoc]

theorem advance_eq_skip (c : Cursor) : c.advance = c.skip 1 := by simp [advance, skip]

theorem unread_advance (c : Cursor) : c.advance.unread = c.unread.tail := rfl

/-- The cursor on the last of the tokens, of which there must be one. -/
def onLast (c : Cursor) (ts : List Token) : Cursor := c.skip (ts.length - 1)

theorem unread_advance_onLast {c : Cursor} {ts rest : List Token} (h : c.unread = ts ++ rest)
    (hts : ts ≠ []) : (c.onLast ts).advance.unread = rest := by
  have hp := List.length_pos_iff.2 hts
  rw [unread_advance, onLast, unread_skip, h, List.tail_drop, Nat.sub_add_cancel hp,
    List.drop_left]

theorem upcoming_onLast {c : Cursor} {ts rest : List Token} (h : c.unread = ts ++ rest)
    (hts : ts ≠ []) : (c.onLast ts).upcoming = rest.headD (Token.eof c.stop) :=
  congrArg (fun l => List.headD l (Token.eof c.stop)) (unread_advance_onLast h hts)

/-- What comes behind some tokens, unless that is the end. -/
theorem exists_eq_cons_of_upcoming_onLast {c : Cursor} {ts rest : List Token} {k : TokenKind}
    (h : c.unread = ts ++ rest) (hts : ts ≠ []) (hk : (c.onLast ts).upcoming.kind = k)
    (hne : k ≠ .eof) : ∃ t us, rest = t :: us ∧ t.kind = k := by
  rw [upcoming_onLast h hts] at hk
  cases rest with
  | nil => exact absurd hk.symm hne
  | cons t us => exact ⟨t, us, rfl, hk⟩

@[simp] theorem onLast_singleton (c : Cursor) (t : Token) : c.onLast [t] = c := rfl

/-- Going on behind the last of some tokens. -/
theorem onLast_advance_onLast (c : Cursor) {ts us : List Token} (hts : ts ≠ []) (hus : us ≠ []) :
    (c.onLast ts).advance.onLast us = c.onLast (ts ++ us) := by
  have := List.length_pos_iff.2 hts
  have := List.length_pos_iff.2 hus
  simp only [onLast, advance_eq_skip, skip_skip, List.length_append]
  congr 1
  omega

/-- Going on behind the token that follows some tokens. -/
theorem onLast_advance_advance_onLast (c : Cursor) {ts us : List Token} (t : Token) (hts : ts ≠ [])
    (hus : us ≠ []) : (c.onLast ts).advance.advance.onLast us = c.onLast (ts ++ t :: us) := by
  have ht : [t] ≠ [] := by simp
  have h := (c.onLast ts).advance.onLast_advance_onLast ht hus
  rw [onLast_singleton] at h
  rw [h, c.onLast_advance_onLast hts (by simp)]
  rfl

end Cursor

/-- A value with the faults found and the place reached. -/
structure Outcome where
  value : Option Expr
  faults : List Fault
  cursor : Cursor

namespace Outcome

/-- The outcome when faults have been found before. -/
def after (faults : List Fault) (o : Outcome) : Outcome := { o with faults := faults ++ o.faults }

@[simp] theorem after_nil (o : Outcome) : o.after [] = o := rfl

@[simp] theorem value_after (fs : List Fault) (o : Outcome) : (o.after fs).value = o.value := rfl

@[simp] theorem faults_after (fs : List Fault) (o : Outcome) :
    (o.after fs).faults = fs ++ o.faults := rfl

@[simp] theorem cursor_after (fs : List Fault) (o : Outcome) : (o.after fs).cursor = o.cursor := rfl

end Outcome

def Parsed.outcome {c : Cursor} (p : Parsed c) : Outcome := ⟨p.value, p.faults, p.cursor⟩

theorem outcome_operand_of_expr? {c : Cursor} {x : Expr} (h : c.current.expr? = some x) :
    (operand c).outcome = ⟨some x, [], c⟩ := by
  unfold Token.expr? at h
  rw [operand]
  split <;> simp_all
  · subst h; rfl
  · subst h; rfl
  · obtain ⟨n, hn, rfl⟩ := h
    simp [Parsed.integer, hn]
    rfl

/-- What is wrong with a token that stands for nothing by itself. -/
def Token.operandFault (t : Token) : Fault :=
  ⟨if t.kind = .int then .integerTooLarge t.text else .unexpected t, t.span⟩

theorem outcome_operand_of_expr?_eq_none {c : Cursor} (h : c.current.expr? = none)
    (hk : c.current.kind ≠ .leftParen) :
    (operand c).outcome = ⟨none, [c.current.operandFault], c⟩ := by
  unfold Token.expr? at h
  rw [operand]
  split <;> simp_all [Token.operandFault]
  · simp [Parsed.integer, h]
    rfl
  · rfl

/-- A group ends with the token behind its content if that closes it. -/
def Outcome.closeGroup (o : Outcome) : Outcome :=
  if o.cursor.upcoming.kind = .rightParen then { o with cursor := o.cursor.advance }
  else ⟨none, o.faults ++ [⟨.unclosedGroup o.cursor.upcoming.kind, o.cursor.upcoming.span⟩],
    o.cursor⟩

theorem outcome_operand_group {c : Cursor} (h : c.current.kind = .leftParen) :
    (operand c).outcome = (expression .lowest c.advance).outcome.closeGroup := by
  rw [operand]
  split <;> simp_all
  unfold Parsed.closeGroup Outcome.closeGroup
  split <;> rename_i hk
  · rw [if_pos (by exact hk)]; rfl
  · rw [if_neg (by exact hk)]; rfl

theorem outcome_expression (level : Precedence) (c : Cursor) :
    (expression level c).outcome =
      (operations level (operand c).value (operand c).cursor).outcome.after (operand c).faults := by
  rw [expression]
  rfl

theorem outcome_expression_of_operand (level : Precedence) {c d : Cursor} {left : Option Expr}
    (h : (operand c).outcome = ⟨left, [], d⟩) :
    (expression level c).outcome = (operations level left d).outcome := by
  obtain ⟨hv, hf, hd⟩ := Outcome.mk.inj h
  rw [outcome_expression, hv, hf, hd, Outcome.after_nil]

/-- No operator behind the cursor binds more tightly than the level. -/
def Cursor.EndsAt (c : Cursor) (level : Precedence) : Prop :=
  ∀ op, c.operator? = some op → op.precedence.rank ≤ level.rank

theorem outcome_operations_of_endsAt {level : Precedence} {c : Cursor} (left : Option Expr)
    (h : c.EndsAt level) : (operations level left c).outcome = ⟨left, [], c⟩ := by
  rw [operations]
  split
  · rfl
  · next op hop =>
    rw [if_neg (Nat.not_lt.2 (h op hop))]
    rfl

/-- An operator takes the expression behind it, which binds more tightly, as its right operand. -/
theorem outcome_operations_of_operator {level : Precedence} {c : Cursor} {op : Operator}
    (left : Option Expr) (hop : c.operator? = some op) (hl : level.rank < op.precedence.rank) :
    (operations level left c).outcome =
      let right := (expression op.precedence c.advance.advance).outcome
      let joined := Joined.ofOperator op c.upcoming.span right.cursor.current.span left right.value
      (operations level joined.value right.cursor).outcome.after
        (right.faults ++ joined.faults) := by
  rw [operations]
  split
  · next h => cases h.symm.trans hop
  · next op' hop' =>
    cases hop'.symm.trans hop
    rw [if_pos hl]
    rfl

/-- One operator whose right operand and whose use are without a fault. -/
theorem outcome_operations_of_right {level : Precedence} {c d : Cursor} {op : Operator}
    {left right : Option Expr} {x : Expr} (hop : c.operator? = some op)
    (hl : level.rank < op.precedence.rank)
    (hr : (expression op.precedence c.advance.advance).outcome = ⟨right, [], d⟩)
    (hx : Joined.ofOperator op c.upcoming.span d.current.span left right = ⟨some x, []⟩) :
    (operations level left c).outcome = (operations level (some x) d).outcome := by
  rw [outcome_operations_of_operator left hop hl, hr]
  simp only [hx, List.append_nil, Outcome.after_nil]

section Induction

/-- An induction along the parser, which reads an operand, an expression or the operators behind a
left operand. -/
theorem reading_induction {P : Cursor → Prop} {Q : Precedence → Cursor → Prop}
    {R : Precedence → Option Expr → Cursor → Prop}
    (leaf : ∀ c x, c.current.expr? = some x → P c)
    (wrong : ∀ c, c.current.expr? = none → c.current.kind ≠ .leftParen → P c)
    (group : ∀ c, c.current.kind = .leftParen → Q .lowest c.advance → P c)
    (first : ∀ level c, P c → R level (operand c).value (operand c).cursor → Q level c)
    (stop : ∀ level left c, c.EndsAt level → R level left c)
    (step : ∀ level left c op, c.operator? = some op → level.rank < op.precedence.rank →
      Q op.precedence c.advance.advance →
        let right := (expression op.precedence c.advance.advance).outcome
        let last := right.cursor.current.span
        let joined := Joined.ofOperator op c.upcoming.span last left right.value
        R level joined.value right.cursor → R level left c) :
    (∀ c, P c) ∧ (∀ level c, Q level c) ∧ ∀ level left c, R level left c := by
  have single : ∀ c : Cursor, c.current.kind ≠ .leftParen → P c := by
    intro c hk
    cases h : c.current.expr? with
    | some x => exact leaf c x h
    | none => exact wrong c h hk
  refine operand.mutual_induct P Q R (fun c hk => single c (by simp [hk]))
    (fun c hk => single c (by simp [hk])) (fun c hk => single c (by simp [hk])) group
    (fun c _ _ _ hk => single c hk) ?_ ?_ ?_ ?_
  · intro level c ihp ihr
    exact first level c ihp (ihr (operand c))
  · intro level left c hop
    exact stop level left c fun op h => by cases hop.symm.trans h
  · intro level left c op hop hl ihq ihr
    exact step level left c op hop hl ihq
      (ihr ((expression op.precedence c.advance.advance).join op c.upcoming.span left))
  · intro level left c op hop hl
    refine stop level left c fun op' h => ?_
    cases hop.symm.trans h
    exact Nat.not_lt.1 hl

variable {P : Cursor → Outcome → Prop} {Q : Precedence → Cursor → Outcome → Prop}
  {R : Precedence → Option Expr → Cursor → Outcome → Prop}

/-- What holds of the steps of the parser holds of all that it reads: `P` of operands, `Q` of
expressions and `R` of the operators behind a left operand. -/
theorem outcome_induction
    (leaf : ∀ c x, c.current.expr? = some x → P c ⟨some x, [], c⟩)
    (wrong : ∀ c, c.current.expr? = none → c.current.kind ≠ .leftParen →
      P c ⟨none, [c.current.operandFault], c⟩)
    (group : ∀ c o, c.current.kind = .leftParen → Q .lowest c.advance o → P c o.closeGroup)
    (first : ∀ level c o o', P c o → R level o.value o.cursor o' → Q level c (o'.after o.faults))
    (stop : ∀ level left c, c.EndsAt level → R level left c ⟨left, [], c⟩)
    (step : ∀ level left c op o o', c.operator? = some op → level.rank < op.precedence.rank →
      Q op.precedence c.advance.advance o →
        R level (Joined.ofOperator op c.upcoming.span o.cursor.current.span left o.value).value
          o.cursor o' →
        R level left c (o'.after (o.faults ++
          (Joined.ofOperator op c.upcoming.span o.cursor.current.span left o.value).faults))) :
    (∀ c, P c (operand c).outcome) ∧ (∀ level c, Q level c (expression level c).outcome) ∧
      ∀ level left c, R level left c (operations level left c).outcome := by
  refine reading_induction (P := fun c => P c (operand c).outcome)
    (Q := fun level c => Q level c (expression level c).outcome)
    (R := fun level left c => R level left c (operations level left c).outcome) ?_ ?_ ?_ ?_ ?_ ?_
  · intro c x hx
    exact outcome_operand_of_expr? hx ▸ leaf c x hx
  · intro c hx hk
    exact outcome_operand_of_expr?_eq_none hx hk ▸ wrong c hx hk
  · intro c hk ih
    exact outcome_operand_group hk ▸ group c _ hk ih
  · intro level c ihp ihr
    exact outcome_expression level c ▸ first level c _ _ ihp ihr
  · intro level left c he
    exact outcome_operations_of_endsAt left he ▸ stop level left c he
  · intro level left c op hop hl ihq right last joined ihr
    rw [outcome_operations_of_operator left hop hl]
    exact step level left c op _ _ hop hl ihq ihr

end Induction

end TicketQuery
