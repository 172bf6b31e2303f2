import Mathlib.Data.List.Infix
import Mathlib.Logic.Function.Iterate
import TicketQuery.Proofs.ParserSoundness
import TicketQuery.Proofs.ReportedFailures

/-! # What faults say of the tokens

Every fault that the parser reports stands at a token, and what it says of the tokens there is so. A
word without quotes is the whole operand behind a comparison, in any number of parentheses, and its
fault stands at the last token of that operand. -/
namespace TicketQuery

/-- The token is still to be read, or it is the end. -/
def Cursor.Holds (c : Cursor) (t : Token) : Prop := t ∈ c.unread ∨ t = .eof c.stop

theorem Cursor.Holds.mem {c : Cursor} {t : Token} (h : c.Holds t) (hk : t.kind ≠ .eof) :
    t ∈ c.unread := by
  rcases h with h | rfl
  · exact h
  · exact absurd rfl hk

/-- Reading from `start` leads to this place. -/
structure Cursor.Follows (c start : Cursor) : Prop where
  unread : c.unread <:+ start.unread
  stop : c.stop = start.stop

namespace Cursor.Follows

variable {c start : Cursor}

theorem refl (c : Cursor) : c.Follows c := ⟨List.suffix_rfl, rfl⟩

theorem advance (h : c.Follows start) : c.advance.Follows start :=
  ⟨(List.tail_suffix _).trans h.unread, h.stop⟩

theorem holds_current (h : c.Follows start) : start.Holds c.current := by
  unfold Cursor.current
  cases hu : c.unread with
  | nil => exact .inr (congrArg Token.eof h.stop)
  | cons t ts => exact .inl (h.unread.subset (by simp [hu]))

/-- The upcoming token is the current one after an advance. -/
theorem holds_upcoming (h : c.Follows start) : start.Holds c.upcoming := h.advance.holds_current

end Cursor.Follows

theorem Cursor.current_onLast {c : Cursor} {ts rest : List Token} {t : Token}
    (h : c.unread = ts ++ rest) (ht : ts.getLast? = some t) : (c.onLast ts).current = t := by
  have hn : ts.length - 1 < ts.length := by
    have := List.length_pos_iff.2 (List.ne_nil_of_mem (List.mem_of_getLast? ht))
    omega
  rw [List.getLast?_eq_getElem?] at ht
  rw [current, onLast, unread_skip, List.headD_eq_head?_getD, List.head?_drop, h,
    List.getElem?_append_left hn, ht, Option.getD_some]

/-- The token with which an operand ends. -/
def Operand.last : Operand → Token
  | .leaf t => t
  | .group _ _ closing => closing

theorem Operand.getLast?_tokens (p : Operand) : p.tokens.getLast? = some p.last := by
  cases p with
  | leaf t => rfl
  | group o e c => rw [tokens, ← List.cons_append, List.getLast?_concat, last]

/-- If a field has been read, the tokens taken are its word, in any number of parentheses. -/
theorem exists_operand_of_value_eq_field {level : Precedence} {c : Cursor} {name : String}
    (h : (expression level c).value = some (.field name)) :
    ∃ (p : Operand) (rest : List Token), p.expr? = some (.field name) ∧
      c.unread = p.tokens ++ rest ∧ (expression level c).cursor.current = p.last := by
  have hf : (expression level c).faults = [] :=
    (isSettled_expression level c).1 (Option.isSome_of_eq_some h)
  obtain ⟨e, x, rest, hx, -, hu, hv, hc⟩ := reads_expression level c hf
  cases h.symm.trans hv
  obtain ⟨p, rfl⟩ := Chain.eq_operand_of_expr?_eq_field hx
  refine ⟨p, rest, hx, hu, ?_⟩
  have hcursor : (expression level c).cursor = c.onLast p.tokens := hc
  have hunread : c.unread = p.tokens ++ rest := hu
  rw [hcursor, Cursor.current_onLast hunread p.getLast?_tokens]

/-- What a fault says of the tokens from `start` on is so, and it stands at one of them. -/
inductive Fault.Fits (start : Cursor) : Fault → Prop where
  | unexpected {t : Token} (ht : start.Holds t) (hx : t.expr? = none) (hk : t.kind ≠ .int) :
      Fits start ⟨.unexpected t, t.span⟩
  | integerTooLarge {t : Token} (ht : t ∈ start.unread) (hk : t.kind = .int) :
      Fits start ⟨.integerTooLarge t.text, t.span⟩
  | unclosedGroup {t : Token} (ht : start.Holds t) : Fits start ⟨.unclosedGroup t.kind, t.span⟩
  /-- The operand behind a comparison is a word, and the fault stands where the operand ends. -/
  | missingQuotes {op : Token} {p : Operand} {name : String} (h : op :: p.tokens <:+: start.unread)
      (hop : op.kind.IsComparison) (hp : p.expr? = some (.field name)) :
      Fits start ⟨.missingQuotes name, p.last.span⟩
  | conditionAsValue {op : Token} {e : Expr} (ht : op ∈ start.unread)
      (hop : op.kind.IsComparison) (he : e.isNode = true) :
      Fits start ⟨.conditionAsValue e, op.span⟩
  | comparedNonField {op : Token} {e : Expr} (ht : op ∈ start.unread)
      (hop : op.kind.IsComparison) (he : ∀ name, e ≠ .field name) :
      Fits start ⟨.comparedNonField e, op.span⟩
  | connectiveAfterNonCondition {op : Token} {k : Connective} (ht : op ∈ start.unread)
      (hop : op.kind = .operator (.connective k)) :
      Fits start ⟨.connectiveAfterNonCondition, op.span⟩
  | connectiveBeforeNonCondition {op : Token} {k : Connective} (ht : op ∈ start.unread)
      (hop : op.kind = .operator (.connective k)) :
      Fits start ⟨.connectiveBeforeNonCondition, op.span⟩
  | modifierWithoutOperand (kind : ModifierKind) {t : Token} (ht : start.Holds t) :
      Fits start ⟨.modifierWithoutOperand kind, t.span⟩

variable {start : Cursor}

theorem Token.fits_operandFault {t : Token} (ht : start.Holds t) (h : t.expr? = none) :
    t.operandFault.Fits start := by
  unfold operandFault
  split
  · next hk => exact .integerTooLarge (ht.mem (by rw [hk]; exact nofun)) hk
  · next hk => exact .unexpected ht h hk

/-- An operator reports what is wrong with its operands. If its right operand is a word, `last` must
be where that ends. -/
theorem Joined.fits_ofOperator {op : Operator} {t : Token} (ht : t ∈ start.unread)
    (hk : t.kind = .operator op) {last : Span} (left : Option Expr) {right : Option Expr}
    (hright : ∀ name, right = some (.field name) → ∃ p : Operand, p.expr? = some (.field name) ∧
      t :: p.tokens <:+: start.unread ∧ last = p.last.span) :
    ∀ f ∈ (ofOperator op t.span last left right).faults, f.Fits start := by
  cases op with
  | comparison c =>
    simp only [ofOperator, comparison, fault]
    split
    · exact List.forall_mem_nil _
    · next name =>
      obtain ⟨p, hp, hinfix, rfl⟩ := hright name rfl
      exact List.forall_mem_singleton.2 (.missingQuotes hinfix ⟨c, hk⟩ hp)
    · exact List.forall_mem_singleton.2 (.conditionAsValue ht ⟨c, hk⟩ rfl)
    · split
      · exact List.forall_mem_nil _
      · exact List.forall_mem_nil _
      · next e he => exact List.forall_mem_singleton.2 (.comparedNonField ht ⟨c, hk⟩ he)
  | connective k =>
    have hside : ∀ (cause : FaultCause) (e : Option Expr), Fault.Fits start ⟨cause, t.span⟩ →
        ∀ f ∈ nonCondition cause t.span e, f.Fits start := by
      intro cause e h
      unfold nonCondition
      split
      · split
        · exact List.forall_mem_nil _
        · exact List.forall_mem_singleton.2 h
      · exact List.forall_mem_nil _
    exact List.forall_mem_append.2 ⟨hside _ left (.connectiveAfterNonCondition ht hk),
      hside _ right (.connectiveBeforeNonCondition ht hk)⟩

structure Outcome.Fits (start : Cursor) (o : Outcome) : Prop where
  faults : ∀ f ∈ o.faults, f.Fits start
  cursor : o.cursor.Follows start

theorem Outcome.Fits.after {o o' : Outcome} (h : o.Fits start) (h' : o'.Fits start) :
    (o'.after o.faults).Fits start :=
  ⟨List.forall_mem_append.2 ⟨h.faults, h'.faults⟩, h'.cursor⟩

theorem Outcome.Fits.closeGroup {o : Outcome} (h : o.Fits start) : o.closeGroup.Fits start := by
  unfold Outcome.closeGroup
  split
  · exact ⟨h.faults, h.cursor.advance⟩
  · refine ⟨List.forall_mem_append.2 ⟨h.faults, ?_⟩, h.cursor⟩
    exact List.forall_mem_singleton.2 (.unclosedGroup h.cursor.holds_upcoming)

theorem fits_expression (level : Precedence) {c : Cursor} (h : c.Follows start) :
    (expression level c).outcome.Fits start := by
  refine (reading_induction (P := fun c => c.Follows start → (operand c).outcome.Fits start)
    (Q := fun level c => c.Follows start → (expression level c).outcome.Fits start)
    (R := fun level left c => c.Follows start → (operations level left c).outcome.Fits start)
    ?_ ?_ ?_ ?_ ?_ ?_).2.1 level c h
  · intro c x hx h
    rw [outcome_operand_of_expr? hx]
    exact ⟨List.forall_mem_nil _, h⟩
  · intro c hx hk h
    rw [outcome_operand_of_expr?_eq_none hx hk]
    exact ⟨List.forall_mem_singleton.2 (Token.fits_operandFault h.holds_current hx), h⟩
  · intro c hk ih h
    rw [outcome_operand_group hk]
    exact (ih h.advance).closeGroup
  · intro level c ihp ihr h
    rw [outcome_expression]
    exact (ihp h).after (ihr (ihp h).cursor)
  · intro level left c he h
    rw [outcome_operations_of_endsAt left he]
    exact ⟨List.forall_mem_nil _, h⟩
  · intro level left c op hop hl ihq right last joined ihr h
    rw [outcome_operations_of_operator left hop hl]
    have hright := ihq h.advance.advance
    have hk : c.upcoming.kind = .operator op := TokenKind.operator?_eq_some_iff.1 hop
    have hne : c.upcoming.kind ≠ .eof := by rw [hk]; exact nofun
    have hjoined : ∀ f ∈ joined.faults, f.Fits start :=
      Joined.fits_ofOperator (h.holds_upcoming.mem hne) hk left fun name hname => by
        obtain ⟨p, rest, hp, hu, hlast⟩ := exists_operand_of_value_eq_field hname
        refine ⟨p, hp, ?_, congrArg Token.span hlast⟩
        have hadvance : c.advance.unread = c.upcoming :: p.tokens ++ rest := by
          rw [c.advance.unread_eq_current_cons hne, List.cons_append, ← hu]
          rfl
        exact (List.prefix_append _ _).isInfix.trans (hadvance ▸ h.advance.unread.isInfix)
    have hrest := ihr hright.cursor
    refine ⟨List.forall_mem_append.2 ⟨?_, hrest.faults⟩, hrest.cursor⟩
    exact List.forall_mem_append.2 ⟨hright.faults, hjoined⟩

theorem Parsed.fits_integer {c : Cursor} (h : c.Follows start) (hk : c.current.kind = .int) :
    (integer c).outcome.Fits start := by
  unfold integer
  split
  · exact ⟨List.forall_mem_nil _, h⟩
  · have hne : c.current.kind ≠ .eof := by rw [hk]; exact nofun
    exact ⟨List.forall_mem_singleton.2 (.integerTooLarge (h.holds_current.mem hne) hk), h⟩

namespace Statement

theorem fits_modifier (kind : ModifierKind) {c : Cursor} (h : c.Follows start) :
    (∀ f ∈ (modifier kind c).faults, f.Fits start) ∧ (modifier kind c).cursor.Follows start := by
  unfold modifier
  split
  · next hk =>
    cases kind with
    | orderBy => exact ⟨List.forall_mem_nil _, h.advance⟩
    | limit =>
      have hnumber := Parsed.fits_integer h.advance hk
      exact ⟨hnumber.faults, hnumber.cursor⟩
  · have hfault : ∀ f ∈ [(⟨.modifierWithoutOperand kind, c.upcoming.span⟩ : Fault)],
        f.Fits start :=
      List.forall_mem_singleton.2 (.modifierWithoutOperand kind h.holds_upcoming)
    dsimp only
    split
    · exact ⟨hfault, h⟩
    · exact ⟨hfault, h.advance⟩

theorem fits_read {c : Cursor} (h : c.Follows start) :
    (∀ f ∈ (read c).faults, f.Fits start) ∧ (read c).cursor.Follows start := by
  unfold read
  split
  · exact fits_modifier .orderBy h
  · exact fits_modifier .limit h
  · have he := fits_expression .lowest h
    exact ⟨he.faults, he.cursor⟩

end Statement

theorem fits_statements {c : Cursor} (h : c.Follows start) :
    (∀ f ∈ (statements c).faults, f.Fits start) ∧ (statements c).cursor.Follows start := by
  induction c using statements.induct with
  | case1 c hu =>
    rw [statements, dif_pos hu]
    exact ⟨List.forall_mem_nil _, h⟩
  | case2 c hu s ih =>
    obtain ⟨hs, hc⟩ := Statement.fits_read h
    obtain ⟨hfaults, hcursor⟩ := ih hc.advance
    rw [statements, dif_neg hu]
    exact ⟨List.forall_mem_append.2 ⟨hs, hfaults⟩, hcursor⟩

/-- However often a parser is asked, its faults fit the tokens that it started from. -/
theorem Parser.fits_of_mem_faults (l : Lexer) (n : ℕ) :
    ∀ f ∈ ((fun p => p.parse.2)^[n] (ofLexer l)).faults, f.Fits (ofLexer l).cursor := by
  suffices h : (∀ f ∈ ((fun p => p.parse.2)^[n] (ofLexer l)).faults,
      f.Fits (ofLexer l).cursor) ∧
      ((fun p => p.parse.2)^[n] (ofLexer l)).cursor.Follows (ofLexer l).cursor from h.1
  induction n with
  | zero => exact ⟨List.forall_mem_nil _, .refl _⟩
  | succ n ih =>
    obtain ⟨hfaults, hcursor⟩ := ih
    obtain ⟨hmore, hcursor'⟩ := fits_statements hcursor
    rw [Function.iterate_succ_apply']
    exact ⟨List.forall_mem_append.2 ⟨hfaults, hmore⟩, hcursor'⟩

end TicketQuery
