import Mathlib.Data.List.Forall2
import TicketQuery.Proofs.ParserCompleteness

/-! # Runs of the parser side by side

Two parsers whose tokens match one by one go the same way: they give the same query, and as many
faults in the same order, each at tokens that match. What matching means is left open, as long as
matching tokens have one kind, and one text unless they are keywords. -/
namespace TicketQuery

def TokenKind.IsKeyword (k : TokenKind) : Prop := k ∈ keywords.map Prod.snd

instance (k : TokenKind) : Decidable k.IsKeyword := inferInstanceAs (Decidable (_ ∈ _))

/-- One kind, and one text unless that is the spelling of a keyword. -/
structure Token.Like (t u : Token) : Prop where
  kind : t.kind = u.kind
  text : ¬ t.kind.IsKeyword → t.text = u.text

/-- Faults whose causes differ at most in the token that is reported. -/
inductive FaultCause.Parallel (R : Token → Token → Prop) : FaultCause → FaultCause → Prop where
  | refl (cause : FaultCause) : Parallel R cause cause
  | unexpected {t u : Token} (h : R t u) : Parallel R (.unexpected t) (.unexpected u)

structure Fault.Parallel (R : Token → Token → Prop) (f g : Fault) : Prop where
  cause : f.cause.Parallel R g.cause
  place : ∃ t u, R t u ∧ f.span = t.span ∧ g.span = u.span

structure Cursor.Parallel (R : Token → Token → Prop) (c d : Cursor) : Prop where
  unread : List.Forall₂ R c.unread d.unread
  eof : R (.eof c.stop) (.eof d.stop)

structure Outcome.Parallel (R : Token → Token → Prop) (o p : Outcome) : Prop where
  value : o.value = p.value
  faults : List.Forall₂ (Fault.Parallel R) o.faults p.faults
  cursor : o.cursor.Parallel R p.cursor

structure Parser.Parallel (R : Token → Token → Prop) (p q : Parser) : Prop where
  cursor : p.cursor.Parallel R q.cursor
  faults : List.Forall₂ (Fault.Parallel R) p.faults q.faults

variable {R : Token → Token → Prop} {c d : Cursor}

theorem FaultCause.Parallel.mono {S : Token → Token → Prop} {a b : FaultCause}
    (h : a.Parallel R b) (hS : ∀ {t u : Token}, R t u → S t u) : a.Parallel S b := by
  cases h with
  | refl => exact .refl _
  | unexpected h => exact .unexpected (hS h)

theorem Fault.parallel_same (cause : FaultCause) {t u : Token} (h : R t u) :
    Fault.Parallel R ⟨cause, t.span⟩ ⟨cause, u.span⟩ := ⟨.refl cause, t, u, h, rfl, rfl⟩

namespace Cursor.Parallel

theorem current (h : c.Parallel R d) : R c.current d.current := by
  unfold Cursor.current
  have hu := h.unread
  generalize c.unread = ts at hu
  generalize d.unread = us at hu
  cases hu with
  | nil => exact h.eof
  | cons ht => exact ht

theorem advance (h : c.Parallel R d) : c.advance.Parallel R d.advance := by
  refine ⟨?_, h.eof⟩
  simp only [Cursor.advance]
  have hu := h.unread
  generalize c.unread = ts at hu
  generalize d.unread = us at hu
  cases hu with
  | nil => exact .nil
  | cons _ hts => exact hts

/-- The upcoming token is the current one after an advance. -/
theorem upcoming (h : c.Parallel R d) : R c.upcoming d.upcoming := h.advance.current

end Cursor.Parallel

section

variable (hR : ∀ {t u : Token}, R t u → t.Like u)
include hR

theorem Cursor.Parallel.operator?_eq (h : c.Parallel R d) : c.operator? = d.operator? := by
  rw [operator?, operator?, (hR h.upcoming).kind]

theorem Token.expr?_eq_of_parallel {t u : Token} (h : R t u) : t.expr? = u.expr? := by
  have hk := (hR h).kind
  by_cases hword : t.kind.IsKeyword
  · have hnone : ∀ v : Token, v.kind.IsKeyword → v.expr? = none := by
      intro v hv
      cases hx : v.expr? with
      | none => rfl
      | some x =>
        rcases kind_of_expr?_eq_some hx with hv' | hv' | hv' <;> rw [hv'] at hv <;>
          exact absurd hv (by decide)
    rw [hnone t hword, hnone u (hk ▸ hword)]
  · rw [expr?, expr?, hk, (hR h).text hword]

theorem Token.parallel_operandFault {t u : Token} (h : R t u) :
    t.operandFault.Parallel R u.operandFault := by
  refine ⟨?_, t, u, h, rfl, rfl⟩
  rw [operandFault, operandFault, ← (hR h).kind]
  split
  · next hk =>
    rw [(hR h).text (by rw [hk]; decide)]
    exact .refl _
  · exact .unexpected h

theorem Outcome.Parallel.closeGroup {o p : Outcome} (h : o.Parallel R p) :
    o.closeGroup.Parallel R p.closeGroup := by
  have hupcoming := h.cursor.upcoming
  unfold Outcome.closeGroup
  rw [← (hR hupcoming).kind]
  split
  · exact ⟨h.value, h.faults, h.cursor.advance⟩
  · exact ⟨rfl, List.rel_append h.faults (.cons (Fault.parallel_same _ hupcoming) .nil), h.cursor⟩

end

namespace Joined

/-- What comes of an operator depends on the places only where it reports them. -/
theorem parallel_ofOperator (op : Operator) {place last place' last' : Token}
    (left right : Option Expr) (hp : R place place') (hl : R last last') :
    (ofOperator op place.span last.span left right).value =
        (ofOperator op place'.span last'.span left right).value ∧
      List.Forall₂ (Fault.Parallel R) (ofOperator op place.span last.span left right).faults
        (ofOperator op place'.span last'.span left right).faults := by
  have hfault : ∀ (cause : FaultCause) {t u : Token}, R t u →
      List.Forall₂ (Fault.Parallel R) [⟨cause, t.span⟩] [⟨cause, u.span⟩] :=
    fun cause _ _ h => .cons (Fault.parallel_same cause h) .nil
  cases op with
  | comparison c =>
    simp only [ofOperator, comparison]
    split
    · exact ⟨rfl, .nil⟩
    · exact ⟨rfl, hfault _ hl⟩
    · exact ⟨rfl, hfault _ hp⟩
    · split
      · exact ⟨rfl, .nil⟩
      · exact ⟨rfl, .nil⟩
      · exact ⟨rfl, hfault _ hp⟩
  | connective k =>
    have hside : ∀ cause (e : Option Expr), List.Forall₂ (Fault.Parallel R)
        (nonCondition cause place.span e) (nonCondition cause place'.span e) := by
      intro cause e
      unfold nonCondition
      split
      · split
        · exact .nil
        · exact hfault _ hp
      · exact .nil
    exact ⟨rfl, List.rel_append (hside _ left) (hside _ right)⟩

end Joined

section

variable (hR : ∀ {t u : Token}, R t u → t.Like u)
include hR

theorem parallel_expression (level : Precedence) (h : c.Parallel R d) :
    (expression level c).outcome.Parallel R (expression level d).outcome := by
  refine (outcome_induction
    (P := fun c o => ∀ {d}, c.Parallel R d → o.Parallel R (operand d).outcome)
    (Q := fun level c o => ∀ {d}, c.Parallel R d → o.Parallel R (expression level d).outcome)
    (R := fun level left c o => ∀ {d}, c.Parallel R d →
      o.Parallel R (operations level left d).outcome)
    ?_ ?_ ?_ ?_ ?_ ?_).2.1 level c h
  · intro c x hx d h
    rw [Token.expr?_eq_of_parallel hR h.current] at hx
    rw [outcome_operand_of_expr? hx]
    exact ⟨rfl, .nil, h⟩
  · intro c hx hk d h
    rw [Token.expr?_eq_of_parallel hR h.current] at hx
    rw [(hR h.current).kind] at hk
    rw [outcome_operand_of_expr?_eq_none hx hk]
    exact ⟨rfl, .cons (Token.parallel_operandFault hR h.current) .nil, h⟩
  · intro c o hk ih d h
    rw [(hR h.current).kind] at hk
    rw [outcome_operand_group hk]
    exact (ih h.advance).closeGroup hR
  · intro level c o o' ihp ihr d h
    have ho := ihp h
    have ho' := ihr ho.cursor
    rw [ho.value] at ho'
    rw [outcome_expression]
    exact ⟨ho'.value, List.rel_append ho.faults ho'.faults, ho'.cursor⟩
  · intro level left c he d h
    have he : d.EndsAt level := fun op hop => he op ((h.operator?_eq hR).trans hop)
    rw [outcome_operations_of_endsAt left he]
    exact ⟨rfl, .nil, h⟩
  · intro level left c op o o' hop hl ihq ihr d h
    rw [h.operator?_eq hR] at hop
    have ho := ihq h.advance.advance
    obtain ⟨hv, hf⟩ := Joined.parallel_ofOperator op left o.value h.upcoming ho.cursor.current
    have ho' := ihr ho.cursor
    rw [hv, ho.value] at ho'
    rw [ho.value] at hf
    rw [outcome_operations_of_operator left hop hl, ho.value]
    exact ⟨ho'.value, List.rel_append (List.rel_append ho.faults hf) ho'.faults, ho'.cursor⟩

end

/-- The same result, with matching faults up to places that match. -/
structure Statement.Parallel (R : Token → Token → Prop) {c d : Cursor} (s : Statement c)
    (t : Statement d) : Prop where
  result : s.result = t.result
  faults : List.Forall₂ (Fault.Parallel R) s.faults t.faults
  cursor : s.cursor.Parallel R t.cursor

section

variable (hR : ∀ {t u : Token}, R t u → t.Like u)
include hR

theorem Parsed.parallel_integer (h : c.Parallel R d) (hk : c.current.kind = .int) :
    (integer c).outcome.Parallel R (integer d).outcome := by
  have htext := (hR h.current).text (by rw [hk]; decide)
  unfold integer
  rw [← htext]
  cases integerOf? c.current.text with
  | some n => exact ⟨rfl, .nil, h⟩
  | none => exact ⟨rfl, .cons (Fault.parallel_same _ h.current) .nil, h⟩

theorem Statement.parallel_modifier (kind : ModifierKind) (h : c.Parallel R d) :
    (modifier kind c).Parallel R (modifier kind d) := by
  have hu := (hR h.upcoming).kind
  unfold modifier
  rw [← hu]
  by_cases hk : c.upcoming.kind = kind.operandKind
  · simp only [if_pos hk]
    cases kind with
    | orderBy =>
      have htext := (hR h.upcoming).text (by rw [hk]; decide)
      refine ⟨?_, .nil, h.advance⟩
      rw [htext]
    | limit =>
      have hnumber := Parsed.parallel_integer hR h.advance hk
      have hvalue : (Parsed.integer c.advance).value = (Parsed.integer d.advance).value :=
        hnumber.value
      refine ⟨?_, hnumber.faults, hnumber.cursor⟩
      dsimp only
      rw [hvalue]
  · simp only [if_neg hk]
    have hfault : List.Forall₂ (Fault.Parallel R)
        [⟨.modifierWithoutOperand kind, c.upcoming.span⟩]
        [⟨.modifierWithoutOperand kind, d.upcoming.span⟩] :=
      .cons (Fault.parallel_same _ h.upcoming) .nil
    split
    · exact ⟨rfl, hfault, h⟩
    · exact ⟨rfl, hfault, h.advance⟩

theorem Statement.parallel_read (h : c.Parallel R d) : (read c).Parallel R (read d) := by
  have hk := (hR h.current).kind
  by_cases ho : c.current.kind = ModifierKind.orderBy.keywordKind
  · rw [read_of_keyword ho, read_of_keyword (hk ▸ ho)]
    exact parallel_modifier hR .orderBy h
  by_cases hl : c.current.kind = ModifierKind.limit.keywordKind
  · rw [read_of_keyword hl, read_of_keyword (hk ▸ hl)]
    exact parallel_modifier hR .limit h
  obtain ⟨hres, hf, hcur⟩ := read_of_not_keyword ho hl
  obtain ⟨hres', hf', hcur'⟩ := read_of_not_keyword (hk ▸ ho) (hk ▸ hl)
  obtain ⟨hv, hfaults, hcursor⟩ := parallel_expression hR .lowest h
  constructor
  · rw [hres, hres']
    exact congrArg _ hv
  · rw [hf, hf']
    exact hfaults
  · rw [hcur, hcur']
    exact hcursor

theorem parallel_statements (c : Cursor) : ∀ {d : Cursor}, c.Parallel R d →
    (statements c).results = (statements d).results ∧
      List.Forall₂ (Fault.Parallel R) (statements c).faults (statements d).faults ∧
        (statements c).cursor.Parallel R (statements d).cursor := by
  induction c using statements.induct with
  | case1 c hu =>
    intro d h
    have hu' : d.unread = [] := by
      have := h.unread
      rw [hu] at this
      exact List.forall₂_nil_left_iff.1 this
    rw [statements, statements, dif_pos hu, dif_pos hu']
    exact ⟨rfl, .nil, h⟩
  | case2 c hu s =>
    rename_i ih
    intro d h
    have hu' : d.unread ≠ [] := by
      intro hd
      have := h.unread
      rw [hd] at this
      exact hu (List.forall₂_nil_right_iff.1 this)
    have hs := Statement.parallel_read hR h
    obtain ⟨hresults, hfaults, hcursor⟩ := ih hs.cursor.advance
    rw [statements, statements, dif_neg hu, dif_neg hu']
    refine ⟨?_, List.rel_append hs.faults hfaults, hcursor⟩
    dsimp only
    rw [hresults, hs.result]

/-- Parsers side by side give the same query, and stay side by side. -/
theorem Parser.Parallel.parse {p q : Parser} (h : p.Parallel R q) :
    p.parse.1 = q.parse.1 ∧ p.parse.2.Parallel R q.parse.2 := by
  obtain ⟨hresults, hfaults, hcursor⟩ := parallel_statements hR _ h.cursor
  refine ⟨?_, hcursor, List.rel_append h.faults hfaults⟩
  simp only [Parser.parse, hresults]

end

end TicketQuery
