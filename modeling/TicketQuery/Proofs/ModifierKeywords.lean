import Mathlib.Data.List.ReduceOption
import TicketQuery.Proofs.FaultTokens
import TicketQuery.Proofs.LastModifiers

/-! # No modifier is lost in silence

Every keyword of a modifier either gives a modifier of the query, together with the token behind it,
or a fault is reported at the keyword or right behind it. An expression that comes upon a keyword
reports it, since no keyword is part of an expression, and one that ends before a keyword leaves it
to the next statement. -/
namespace TicketQuery

def TokenKind.StartsModifier (k : TokenKind) : Prop := ∃ m : ModifierKind, k = m.keywordKind

theorem TokenKind.startsModifier_iff {k : TokenKind} :
    k.StartsModifier ↔ k = .orderBy ∨ k = .limit := by
  constructor
  · rintro ⟨_ | _, rfl⟩
    · exact .inl rfl
    · exact .inr rfl
  · rintro (rfl | rfl)
    · exact ⟨.orderBy, rfl⟩
    · exact ⟨.limit, rfl⟩

instance (k : TokenKind) : Decidable k.StartsModifier :=
  decidable_of_iff _ TokenKind.startsModifier_iff.symm

/-- The keywords of modifiers, each with the token behind it or the end of the text. -/
def modifierKeywords (stop : ℕ) : List Token → List (Token × Token)
  | [] => []
  | k :: ts =>
    if k.kind.StartsModifier then (k, ts.headD (.eof stop)) :: modifierKeywords stop ts
    else modifierKeywords stop ts

/-- A keyword gives a modifier with the token behind it, or a fault stands at one of the two. -/
inductive IsFate (faults : List Fault) : Token × Token → Option Modifier → Prop where
  | used {k t : Token} {m : Modifier} (h : Item.modifier? k t = some m) :
      IsFate faults (k, t) (some m)
  | reported {k t : Token} {f : Fault} (hf : f ∈ faults)
      (hs : f.span = k.span ∨ f.span = t.span) : IsFate faults (k, t) none

/-- The modifiers are those of the keywords in order, and the other keywords are reported. -/
def HasFates (faults : List Fault) (stop : ℕ) (ts : List Token) (ms : List Modifier) : Prop :=
  ∃ fates, List.Forall₂ (IsFate faults) (modifierKeywords stop ts) fates ∧ fates.reduceOption = ms

theorem IsFate.mono {faults faults' : List Fault} (h : faults ⊆ faults') {p : Token × Token}
    {m : Option Modifier} (hp : IsFate faults p m) : IsFate faults' p m := by
  cases hp with
  | used hm => exact .used hm
  | reported hf hs => exact .reported (h hf) hs

namespace HasFates

variable {faults : List Fault} {stop : ℕ} {k t : Token} {ts : List Token} {ms : List Modifier}

theorem nil (faults : List Fault) (stop : ℕ) : HasFates faults stop [] [] := ⟨[], .nil, rfl⟩

theorem mono {faults' : List Fault} (hf : faults ⊆ faults') (h : HasFates faults stop ts ms) :
    HasFates faults' stop ts ms := by
  obtain ⟨fates, hfates, rfl⟩ := h
  exact ⟨fates, hfates.imp fun _ _ => IsFate.mono hf, rfl⟩

theorem cons_of_not (hk : ¬ k.kind.StartsModifier) (h : HasFates faults stop ts ms) :
    HasFates faults stop (k :: ts) ms := by
  obtain ⟨fates, hfates, rfl⟩ := h
  refine ⟨fates, ?_, rfl⟩
  rwa [modifierKeywords, if_neg hk]

theorem reported (hk : k.kind.StartsModifier) {f : Fault} (hf : f ∈ faults)
    (hs : f.span = k.span ∨ f.span = (ts.headD (.eof stop)).span)
    (h : HasFates faults stop ts ms) : HasFates faults stop (k :: ts) ms := by
  obtain ⟨fates, hfates, rfl⟩ := h
  refine ⟨none :: fates, ?_, List.reduceOption_cons_of_none _⟩
  rw [modifierKeywords, if_pos hk]
  exact .cons (.reported hf hs) hfates

theorem used {m : Modifier} (hm : Item.modifier? k t = some m) (h : HasFates faults stop ts ms) :
    HasFates faults stop (k :: t :: ts) (m :: ms) := by
  obtain ⟨kind, hk, ht, -⟩ := Item.exists_kind_of_modifier? hm
  have hoperand : ¬ t.kind.StartsModifier := by
    rintro ⟨other, hother⟩
    exact kind.operandKind_ne other (ht.symm.trans hother)
  obtain ⟨fates, hfates, rfl⟩ := h.cons_of_not hoperand
  refine ⟨some m :: fates, ?_, List.reduceOption_cons_of_some _ _⟩
  rw [modifierKeywords, if_pos ⟨kind, hk⟩]
  exact .cons (.used hm) hfates

end HasFates

/-- From one row of tokens to its end: every keyword that is passed over is reported. -/
def PassesTo (faults : List Fault) (ts us : List Token) : Prop :=
  ∃ passed, ts = passed ++ us ∧
    ∀ t ∈ passed, t.kind.StartsModifier → ∃ f ∈ faults, f.span = t.span

theorem PassesTo.refl (faults : List Fault) (ts : List Token) : PassesTo faults ts ts :=
  ⟨[], rfl, List.forall_mem_nil _⟩

theorem PassesTo.mono {faults faults' : List Fault} {ts us : List Token} (hf : faults ⊆ faults')
    (h : PassesTo faults ts us) : PassesTo faults' ts us := by
  obtain ⟨passed, rfl, hpassed⟩ := h
  refine ⟨passed, rfl, fun t ht hk => ?_⟩
  obtain ⟨f, hmem, hs⟩ := hpassed t ht hk
  exact ⟨f, hf hmem, hs⟩

theorem PassesTo.trans {faults faults' : List Fault} {ts us vs : List Token}
    (h : PassesTo faults ts us) (h' : PassesTo faults' us vs) :
    PassesTo (faults ++ faults') ts vs := by
  obtain ⟨passed, rfl, hpassed⟩ := h
  obtain ⟨passed', rfl, hpassed'⟩ := h'
  refine ⟨passed ++ passed', (List.append_assoc ..).symm, List.forall_mem_append.2 ⟨?_, ?_⟩⟩
  · intro t ht hk
    obtain ⟨f, hf, hs⟩ := hpassed t ht hk
    exact ⟨f, List.mem_append_left _ hf, hs⟩
  · intro t ht hk
    obtain ⟨f, hf, hs⟩ := hpassed' t ht hk
    exact ⟨f, List.mem_append_right _ hf, hs⟩

/-- One step, over a token that is no keyword or is reported. -/
theorem Cursor.passesTo_advance {c : Cursor} {faults : List Fault}
    (h : c.current.kind.StartsModifier → ∃ f ∈ faults, f.span = c.current.span) :
    PassesTo faults c.unread c.advance.unread := by
  unfold current at h
  rw [unread_advance]
  cases hu : c.unread with
  | nil => exact .refl _ _
  | cons t ts =>
    rw [hu] at h
    exact ⟨[t], rfl, List.forall_mem_singleton.2 h⟩

theorem Cursor.passesTo_advance_of_not {c : Cursor} (h : ¬ c.current.kind.StartsModifier) :
    PassesTo [] c.unread c.advance.unread := c.passesTo_advance fun hk => absurd hk h

theorem HasFates.of_passesTo {faults : List Fault} {stop : ℕ} {ts us : List Token}
    {ms : List Modifier} (h : PassesTo faults ts us) (hus : HasFates faults stop us ms) :
    HasFates faults stop ts ms := by
  obtain ⟨passed, rfl, hpassed⟩ := h
  induction passed with
  | nil => exact hus
  | cons t passed ih =>
    obtain ⟨ht, hpassed⟩ := List.forall_mem_cons.1 hpassed
    by_cases hk : t.kind.StartsModifier
    · obtain ⟨f, hf, hs⟩ := ht hk
      exact .reported hk hf (.inl hs) (ih hpassed)
    · exact .cons_of_not hk (ih hpassed)

theorem Token.not_startsModifier_of_expr? {t : Token} {x : Expr} (h : t.expr? = some x) :
    ¬ t.kind.StartsModifier := by
  rw [TokenKind.startsModifier_iff]
  rcases kind_of_expr?_eq_some h with hk | hk | hk <;> simp [hk]

/-- Reading passes from where it starts to behind its last token. The operators behind an operand
start behind the last token of that. -/
theorem passesTo_expression (level : Precedence) (c : Cursor) :
    PassesTo (expression level c).faults c.unread (expression level c).cursor.advance.unread := by
  refine (outcome_induction
    (P := fun c o => PassesTo o.faults c.unread o.cursor.advance.unread)
    (Q := fun _ c o => PassesTo o.faults c.unread o.cursor.advance.unread)
    (R := fun _ _ c o => PassesTo o.faults c.advance.unread o.cursor.advance.unread)
    ?_ ?_ ?_ ?_ ?_ ?_).2.1 level c
  · intro c x hx
    exact c.passesTo_advance_of_not (Token.not_startsModifier_of_expr? hx)
  · intro c _ _
    exact c.passesTo_advance fun _ => ⟨_, List.mem_singleton_self _, rfl⟩
  · intro c o hk ih
    have hopening : PassesTo [] c.unread c.advance.unread :=
      c.passesTo_advance_of_not (by rw [hk]; decide)
    have hinner : PassesTo o.faults c.unread o.cursor.advance.unread := hopening.trans ih
    unfold Outcome.closeGroup
    split
    · next hk =>
      have hk : o.cursor.advance.current.kind = .rightParen := hk
      have hclosing : PassesTo [] o.cursor.advance.unread o.cursor.advance.advance.unread :=
        o.cursor.advance.passesTo_advance_of_not (by rw [hk]; decide)
      simpa using hinner.trans hclosing
    · exact hinner.trans (.refl _ _)
  · intro level c o o' ihp ihr
    exact ihp.trans ihr
  · intro level left c _
    exact .refl _ _
  · intro level left c op o o' hop _ ihq ihr
    have hk : c.advance.current.kind = .operator op := TokenKind.operator?_eq_some_iff.1 hop
    have hoperator : PassesTo [] c.advance.unread c.advance.advance.unread :=
      c.advance.passesTo_advance_of_not (by
        rw [hk, TokenKind.startsModifier_iff]
        exact nofun)
    have hright : PassesTo o.faults c.advance.unread o.cursor.advance.unread :=
      hoperator.trans ihq
    exact (hright.trans (.refl _ _)).trans ihr

namespace Statement

variable {kind : ModifierKind} {c : Cursor} {faults : List Fault} {ms : List Modifier}

/-- All that can come of a modifier: it is used with its operand, or a fault stands at what is there
in place of the operand. A token that is passed over with the fault is no keyword. -/
theorem modifier_cases (hk : c.current.kind = kind.keywordKind) :
    (∃ m, Item.modifier? c.current c.upcoming = some m ∧
      (modifier kind c).result = .modifier (some m) ∧ (modifier kind c).cursor = c.advance) ∨
    (modifier kind c).result = .modifier none ∧
      (∃ f ∈ (modifier kind c).faults, f.span = c.upcoming.span) ∧
      ((modifier kind c).cursor = c ∨
        (modifier kind c).cursor = c.advance ∧ ¬ c.upcoming.kind.StartsModifier) := by
  unfold modifier
  split
  · next ho =>
    cases kind with
    | orderBy =>
      refine .inl ⟨⟨.orderBy, .field c.upcoming.text⟩, ?_, rfl, rfl⟩
      have hk : c.current.kind = .orderBy := hk
      have ho : c.upcoming.kind = .ident := ho
      simp only [Item.modifier?, hk, ho]
    | limit =>
      have hk : c.current.kind = .limit := hk
      have ho : c.upcoming.kind = .int := ho
      have hcurrent : c.advance.current = c.upcoming := rfl
      dsimp only
      unfold Parsed.integer
      rw [hcurrent]
      cases hn : integerOf? c.upcoming.text with
      | some n =>
        refine .inl ⟨⟨.limit, .literal (.integer n)⟩, ?_, rfl, rfl⟩
        simp only [Item.modifier?, hk, ho, hn, Option.map_some]
      | none =>
        refine .inr ⟨rfl, ⟨_, List.mem_singleton_self _, rfl⟩, .inr ⟨rfl, ?_⟩⟩
        rw [ho]
        decide
  · dsimp only
    split
    · exact .inr ⟨rfl, ⟨_, List.mem_singleton_self _, rfl⟩, .inl rfl⟩
    · next hends =>
      refine .inr ⟨rfl, ⟨_, List.mem_singleton_self _, rfl⟩, .inr ⟨rfl, ?_⟩⟩
      rw [TokenKind.startsModifier_iff]
      rintro (h | h)
      · exact hends (by rw [h]; rfl)
      · exact hends (by rw [h]; rfl)

/-- A modifier settles its keyword, and its operand is none. -/
theorem hasFates_modifier (hk : c.current.kind = kind.keywordKind)
    (hf : (modifier kind c).faults ⊆ faults)
    (h : HasFates faults c.stop (modifier kind c).cursor.advance.unread ms) :
    HasFates faults c.stop c.unread ((modifier kind c).result.modifier?.toList ++ ms) := by
  have hne : c.current.kind ≠ .eof := by
    rw [hk]
    cases kind <;> exact nofun
  rcases modifier_cases hk with ⟨m, hm, hresult, hcursor⟩ | ⟨hresult, ⟨f, hfault, hs⟩, hcursor⟩
  · rw [hcursor] at h
    obtain ⟨other, -, ho, -⟩ := Item.exists_kind_of_modifier? hm
    have hne' : c.upcoming.kind ≠ .eof := by
      rw [ho]
      cases other <;> exact nofun
    rw [hresult, c.unread_eq_current_upcoming hne hne']
    exact .used hm h
  · rw [hresult, c.unread_eq_current_cons hne]
    refine .reported ⟨kind, hk⟩ (hf hfault) (.inr hs) ?_
    rcases hcursor with hcursor | ⟨hcursor, hnot⟩
    · rwa [hcursor] at h
    · rw [hcursor] at h
      have hpasses : PassesTo [] c.advance.unread c.advance.advance.unread :=
        c.advance.passesTo_advance_of_not hnot
      exact .of_passesTo (hpasses.mono (List.nil_subset _)) h

/-- A statement settles its keywords, if those behind it are settled. -/
theorem hasFates_read (hf : (read c).faults ⊆ faults)
    (h : HasFates faults c.stop (read c).cursor.advance.unread ms) :
    HasFates faults c.stop c.unread ((read c).result.modifier?.toList ++ ms) := by
  by_cases ho : c.current.kind = ModifierKind.orderBy.keywordKind
  · rw [read_of_keyword ho] at hf h ⊢
    exact hasFates_modifier ho hf h
  by_cases hl : c.current.kind = ModifierKind.limit.keywordKind
  · rw [read_of_keyword hl] at hf h ⊢
    exact hasFates_modifier hl hf h
  obtain ⟨hresult, hfaults, hcursor⟩ := read_of_not_keyword ho hl
  rw [hfaults] at hf
  rw [hcursor] at h
  rw [hresult]
  exact .of_passesTo ((passesTo_expression .lowest c).mono hf) h

end Statement

theorem hasFates_statements (c : Cursor) : HasFates (statements c).faults c.stop c.unread
    ((statements c).results.filterMap StatementResult.modifier?) := by
  induction c using statements.induct with
  | case1 c hu =>
    rw [statements, dif_pos hu, hu]
    exact .nil _ _
  | case2 c hu s ih =>
    have hstop : s.cursor.advance.stop = c.stop := (Statement.fits_read (.refl c)).2.stop
    rw [hstop] at ih
    rw [statements, dif_neg hu, List.filterMap_cons]
    have h := Statement.hasFates_read (List.subset_append_left _ _)
      (ih.mono (List.subset_append_right s.faults _))
    cases hm : s.result.modifier? with
    | none =>
      rw [hm] at h
      exact h
    | some m =>
      rw [hm] at h
      exact h

/-- Whatever the text, the modifiers of its query are those of some of the keywords, in order, each
with the token behind it. For every other keyword there is a fault, at the keyword or at the token
behind it or at the end. -/
theorem exists_fates_modifiers (text : String) :
    ∃ fates : List (Option Modifier),
      List.Forall₂ (IsFate (Parser.ofText text).parse.2.faults)
        (modifierKeywords text.utf8ByteSize (Lexer.ofText text).tokens) fates ∧
      (Parser.ofText text).parse.1.modifiers = fates.reduceOption := by
  have hstop : (Parser.ofText text).cursor.stop = text.utf8ByteSize := by
    simp [Parser.ofText, Parser.ofLexer, Lexer.stop, Lexer.ofText]
  obtain ⟨fates, hfates, hmodifiers⟩ := hasFates_statements (Parser.ofText text).cursor
  rw [hstop] at hfates
  refine ⟨fates, hfates, ?_⟩
  rw [hmodifiers]
  exact congrArg Query.modifiers (Query.ofStatements_eq _)

end TicketQuery
