import Mathlib.Data.List.Basic
import Mathlib.Data.List.Induction
import TicketQuery.Proofs.ParseTree

/-! # The grammar is unambiguous

Trees are compared from their last token backwards. A tree at the end of a list of tokens is
determined if the tokens before it do not end with an operator that the tree could take in; for
items they must not end with the keyword of a modifier either. -/
namespace TicketQuery

/-- The last token, if there is one, has a kind outside the class. -/
def NotAfter (p : TokenKind → Prop) (ts : List Token) : Prop :=
  ∀ init t, ts = init ++ [t] → ¬ p t.kind

theorem notAfter_concat {p : TokenKind → Prop} {ts : List Token} {t : Token} (h : ¬ p t.kind) :
    NotAfter p (ts ++ [t]) := by
  intro init u hu
  obtain ⟨-, rfl⟩ := List.append_singleton_inj.1 hu
  exact h

theorem NotAfter.mono {p q : TokenKind → Prop} {ts : List Token} (h : NotAfter p ts)
    (hq : ∀ k, q k → p k) : NotAfter q ts :=
  fun init t ht hk => h init t ht (hq _ hk)

/-- The kinds after which an item cannot end: operators and the keywords of modifiers. -/
def TokenKind.AsksForMore (k : TokenKind) : Prop := k.IsOperator ∨ k = .orderBy ∨ k = .limit

/-- The kinds of the last token of an item. -/
def TokenKind.Closes (k : TokenKind) : Prop :=
  k = .ident ∨ k = .string ∨ k = .int ∨ k = .rightParen

theorem TokenKind.Closes.not_asksForMore {k : TokenKind} (h : k.Closes) : ¬ k.AsksForMore := by
  rcases h with rfl | rfl | rfl | rfl <;> rintro (⟨op, h⟩ | h | h) <;> cases h

theorem Operand.exists_tokens_eq_concat {p : Operand} {x : Expr} (h : p.expr? = some x) :
    ∃ init t, p.tokens = init ++ [t] ∧ t.kind.Closes := by
  cases p with
  | leaf t =>
    refine ⟨[], t, rfl, ?_⟩
    rcases Token.kind_of_expr?_eq_some h with h | h | h <;> simp [TokenKind.Closes, h]
  | group o e c =>
    exact ⟨o :: e.tokens, c, rfl, .inr (.inr (.inr (Operand.expr?_group_eq_some h).2.1))⟩

theorem Clause.exists_tokens_eq_concat {q : Clause} {x : Expr} (h : q.expr? = some x) :
    ∃ init t, q.tokens = init ++ [t] ∧ t.kind.Closes := by
  cases q with
  | operand p => exact p.exists_tokens_eq_concat h
  | comparison l op r =>
    obtain ⟨c, name, v, -, -, hr, -⟩ := Clause.expr?_comparison_eq_some h
    obtain ⟨init, t, ht, hk⟩ := r.exists_tokens_eq_concat hr
    exact ⟨l.tokens ++ op :: init, t, by simp [Clause.tokens, ht], hk⟩

theorem Chain.exists_tokens_eq_concat {e : Chain} {x : Expr} (h : e.expr? = some x) :
    ∃ init t, e.tokens = init ++ [t] ∧ t.kind.Closes := by
  cases e with
  | clause q => exact q.exists_tokens_eq_concat h
  | linked l op r =>
    obtain ⟨k, y, z, -, -, hr, -⟩ := Chain.expr?_linked_eq_some h
    obtain ⟨init, t, ht, hk⟩ := r.exists_tokens_eq_concat hr
    exact ⟨l.tokens ++ op :: init, t, by simp [Chain.tokens, ht], hk⟩

/-- A single token closes no group, so it is not the end of one. -/
private theorem leaf_ne_group {t o c : Token} {e : Chain} {x y : Expr} {r s : List Token}
    (ht : t.expr? = some x) (hg : (Operand.group o e c).expr? = some y) :
    r ++ [t] ≠ s ++ (o :: (e.tokens ++ [c])) := by
  intro h
  have hc := (Operand.expr?_group_eq_some hg).2.1
  have h' : r ++ [t] = (s ++ o :: e.tokens) ++ [c] := by simpa using h
  obtain ⟨-, rfl⟩ := List.append_singleton_inj.1 h'
  rcases Token.kind_of_expr?_eq_some ht with hk | hk | hk <;> rw [hk] at hc <;> cases hc

mutual

theorem Operand.eq_of_append_tokens_eq : ∀ {p p' : Operand} {x x' : Expr} {r s : List Token},
    p.expr? = some x → p'.expr? = some x' → r ++ p.tokens = s ++ p'.tokens → p = p' ∧ r = s
  | .leaf t, .leaf t', _, _, r, s, _, _, h => by
    obtain ⟨hr, rfl⟩ := List.append_singleton_inj.1 h
    exact ⟨rfl, hr⟩
  | .leaf t, .group o e c, _, _, r, s, hx, hx', h => absurd h (leaf_ne_group hx hx')
  | .group o e c, .leaf t, _, _, r, s, hx, hx', h => absurd h.symm (leaf_ne_group hx' hx)
  | .group o e c, .group o' e' c', _, _, r, s, hx, hx', h => by
    obtain ⟨ho, -, he⟩ := Operand.expr?_group_eq_some hx
    obtain ⟨ho', -, he'⟩ := Operand.expr?_group_eq_some hx'
    have h : (r ++ [o] ++ e.tokens) ++ [c] = (s ++ [o'] ++ e'.tokens) ++ [c'] := by
      simpa [Operand.tokens] using h
    obtain ⟨hi, rfl⟩ := List.append_singleton_inj.1 h
    have hn : ∀ {t : Token}, t.kind = .leftParen → ¬ t.kind.IsOperator := by
      rintro t ht ⟨op, hop⟩
      cases ht.symm.trans hop
    obtain ⟨rfl, hj⟩ := Chain.eq_of_append_tokens_eq he he' (notAfter_concat (hn ho))
      (notAfter_concat (hn ho')) hi
    obtain ⟨hr, rfl⟩ := List.append_singleton_inj.1 hj
    exact ⟨rfl, hr⟩

theorem Clause.eq_of_append_tokens_eq : ∀ {q q' : Clause} {x x' : Expr} {r s : List Token},
    q.expr? = some x → q'.expr? = some x' → NotAfter TokenKind.IsComparison r →
      NotAfter TokenKind.IsComparison s → r ++ q.tokens = s ++ q'.tokens → q = q' ∧ r = s
  | .operand p, .operand p', _, _, r, s, hx, hx', _, _, h => by
    obtain ⟨rfl, hr⟩ := Operand.eq_of_append_tokens_eq hx hx' h
    exact ⟨rfl, hr⟩
  | .operand p, .comparison l op p', _, _, r, s, hx, hx', hn, _, h => by
    obtain ⟨c, _, _, hop, -, hp', -⟩ := Clause.expr?_comparison_eq_some hx'
    have h : r ++ p.tokens = (s ++ l.tokens ++ [op]) ++ p'.tokens := by
      simpa [Clause.tokens] using h
    exact absurd ⟨c, hop⟩ (hn _ _ (Operand.eq_of_append_tokens_eq hx hp' h).2)
  | .comparison l op p, .operand p', _, _, r, s, hx, hx', _, hn, h => by
    obtain ⟨c, _, _, hop, -, hp, -⟩ := Clause.expr?_comparison_eq_some hx
    have h : (r ++ l.tokens ++ [op]) ++ p.tokens = s ++ p'.tokens := by
      simpa [Clause.tokens] using h
    exact absurd ⟨c, hop⟩ (hn _ _ (Operand.eq_of_append_tokens_eq hp hx' h).2.symm)
  | .comparison l op p, .comparison l' op' p', _, _, r, s, hx, hx', _, _, h => by
    obtain ⟨_, _, _, -, hl, hp, -⟩ := Clause.expr?_comparison_eq_some hx
    obtain ⟨_, _, _, -, hl', hp', -⟩ := Clause.expr?_comparison_eq_some hx'
    have h : (r ++ l.tokens ++ [op]) ++ p.tokens = (s ++ l'.tokens ++ [op']) ++ p'.tokens := by
      simpa [Clause.tokens] using h
    obtain ⟨rfl, hi⟩ := Operand.eq_of_append_tokens_eq hp hp' h
    obtain ⟨hj, rfl⟩ := List.append_singleton_inj.1 hi
    obtain ⟨rfl, hr⟩ := Operand.eq_of_append_tokens_eq hl hl' hj
    exact ⟨rfl, hr⟩

theorem Chain.eq_of_append_tokens_eq : ∀ {e e' : Chain} {x x' : Expr} {r s : List Token},
    e.expr? = some x → e'.expr? = some x' → NotAfter TokenKind.IsOperator r →
      NotAfter TokenKind.IsOperator s → r ++ e.tokens = s ++ e'.tokens → e = e' ∧ r = s
  | .clause q, .clause q', _, _, r, s, hx, hx', hr, hs, h => by
    obtain ⟨rfl, hrs⟩ := Clause.eq_of_append_tokens_eq hx hx'
      (hr.mono fun _ => TokenKind.IsComparison.isOperator)
      (hs.mono fun _ => TokenKind.IsComparison.isOperator) h
    exact ⟨rfl, hrs⟩
  | .clause q, .linked l op q', _, _, r, s, hx, hx', hr, _, h => by
    obtain ⟨_, _, _, hop, -, hq', -⟩ := Chain.expr?_linked_eq_some hx'
    have h : r ++ q.tokens = (s ++ l.tokens ++ [op]) ++ q'.tokens := by
      simpa [Chain.tokens] using h
    have hn := TokenKind.not_isComparison hop
    exact absurd ⟨_, hop⟩ (hr _ _ (Clause.eq_of_append_tokens_eq hx hq'
      (hr.mono fun _ => TokenKind.IsComparison.isOperator) (notAfter_concat hn) h).2)
  | .linked l op q, .clause q', _, _, r, s, hx, hx', _, hs, h => by
    obtain ⟨_, _, _, hop, -, hq, -⟩ := Chain.expr?_linked_eq_some hx
    have h : (r ++ l.tokens ++ [op]) ++ q.tokens = s ++ q'.tokens := by
      simpa [Chain.tokens] using h
    have hn := TokenKind.not_isComparison hop
    exact absurd ⟨_, hop⟩ (hs _ _ (Clause.eq_of_append_tokens_eq hq hx' (notAfter_concat hn)
      (hs.mono fun _ => TokenKind.IsComparison.isOperator) h).2.symm)
  | .linked l op q, .linked l' op' q', _, _, r, s, hx, hx', hr, hs, h => by
    obtain ⟨_, _, _, hop, hl, hq, -⟩ := Chain.expr?_linked_eq_some hx
    obtain ⟨_, _, _, hop', hl', hq', -⟩ := Chain.expr?_linked_eq_some hx'
    have h : (r ++ l.tokens ++ [op]) ++ q.tokens = (s ++ l'.tokens ++ [op']) ++ q'.tokens := by
      simpa [Chain.tokens] using h
    obtain ⟨rfl, hi⟩ := Clause.eq_of_append_tokens_eq hq hq'
      (notAfter_concat (TokenKind.not_isComparison hop))
      (notAfter_concat (TokenKind.not_isComparison hop')) h
    obtain ⟨hj, rfl⟩ := List.append_singleton_inj.1 hi
    obtain ⟨rfl, hrs⟩ := Chain.eq_of_append_tokens_eq hl hl' hr hs hj
    exact ⟨rfl, hrs⟩

end

theorem Item.modifier?_eq_some {k t : Token} {m : Modifier} (h : Item.modifier? k t = some m) :
    (k.kind = .orderBy ∨ k.kind = .limit) ∧ t.expr? = some m.operand := by
  unfold Item.modifier? at h
  split at h
  · next hk ht => simp [hk, Token.expr?, ht, ← Option.some.inj h]
  · next hk ht =>
    obtain ⟨n, hn, rfl⟩ := Option.map_eq_some_iff.1 h
    simp [hk, Token.expr?, ht, hn]
  · cases h

theorem Item.exists_tokens_eq_concat {i : Item} {v : Modifier ⊕ Expr} (h : i.value? = some v) :
    ∃ init t, i.tokens = init ++ [t] ∧ t.kind.Closes := by
  cases i with
  | modifier k t =>
    obtain ⟨m, hm, -⟩ := Option.map_eq_some_iff.1 h
    have ht := (Item.modifier?_eq_some hm).2
    exact ⟨[k], t, rfl, by
      rcases Token.kind_of_expr?_eq_some ht with h | h | h <;> simp [TokenKind.Closes, h]⟩
  | expression e =>
    obtain ⟨x, hx, -⟩ := Option.map_eq_some_iff.1 h
    exact e.exists_tokens_eq_concat hx

/-- Behind the keyword of a modifier no expression starts. -/
private theorem modifier_ne_expression {k t : Token} {m : Modifier} {e : Chain} {x : Expr}
    {r s : List Token} (hm : Item.modifier? k t = some m) (hx : e.expr? = some x)
    (hs : NotAfter TokenKind.AsksForMore s) : r ++ [k, t] ≠ s ++ e.tokens := by
  intro h
  obtain ⟨hk, ht⟩ := Item.modifier?_eq_some hm
  have hn : ¬ k.kind.IsOperator := by
    rintro ⟨op, hop⟩
    rcases hk with hk | hk <;> cases hk.symm.trans hop
  have h : (r ++ [k]) ++ (Chain.clause (.operand (.leaf t))).tokens = s ++ e.tokens := by
    simpa [Chain.tokens, Clause.tokens, Operand.tokens] using h
  obtain ⟨-, hr⟩ := Chain.eq_of_append_tokens_eq (e := .clause (.operand (.leaf t))) ht hx
    (notAfter_concat hn) (hs.mono fun _ => .inl) h
  exact hs _ _ hr.symm (.inr hk)

theorem Item.eq_of_append_tokens_eq {i j : Item} {v w : Modifier ⊕ Expr} {r s : List Token}
    (hv : i.value? = some v) (hw : j.value? = some w) (hr : NotAfter TokenKind.AsksForMore r)
    (hs : NotAfter TokenKind.AsksForMore s) (h : r ++ i.tokens = s ++ j.tokens) :
    i = j ∧ r = s := by
  obtain ⟨k, t⟩ | e := i <;> obtain ⟨k', t'⟩ | e' := j <;>
    obtain ⟨x, hx, -⟩ := Option.map_eq_some_iff.1 hv <;>
    obtain ⟨y, hy, -⟩ := Option.map_eq_some_iff.1 hw
  · obtain ⟨hrs, hkt⟩ := List.append_inj' h rfl
    cases hkt
    exact ⟨rfl, hrs⟩
  · exact absurd h (modifier_ne_expression hx hy hs)
  · exact absurd h.symm (modifier_ne_expression hy hx hr)
  · obtain ⟨rfl, hrs⟩ := Chain.eq_of_append_tokens_eq hx hy (hr.mono fun _ => .inl)
      (hs.mono fun _ => .inl) h
    exact ⟨rfl, hrs⟩

theorem allValid_concat {items : List Item} {i : Item} (h : AllValid (items ++ [i])) :
    AllValid items ∧ ∃ v, i.value? = some v :=
  ⟨fun j hj => h j (List.mem_append_left _ hj), h i (by simp)⟩

theorem AllValid.notAfter_tokens {items : List Item} (h : AllValid items) :
    NotAfter TokenKind.AsksForMore (items.flatMap Item.tokens) := by
  intro init t ht
  rcases List.eq_nil_or_concat' items with rfl | ⟨items, i, rfl⟩
  · simp at ht
  · obtain ⟨-, v, hv⟩ := allValid_concat h
    obtain ⟨init', t', hi, hk⟩ := i.exists_tokens_eq_concat hv
    have ht : (items.flatMap Item.tokens ++ init') ++ [t'] = init ++ [t] := by
      simpa [hi] using ht
    obtain ⟨-, rfl⟩ := List.append_singleton_inj.1 ht
    exact hk.not_asksForMore

/-- Sequences of items with the same tokens are the same. -/
theorem AllValid.eq_of_tokens_eq {items items' : List Item} (h : AllValid items)
    (h' : AllValid items') (ht : items.flatMap Item.tokens = items'.flatMap Item.tokens) :
    items = items' := by
  induction items using List.reverseRecOn generalizing items' with
  | nil =>
    rcases List.eq_nil_or_concat' items' with rfl | ⟨items', j, rfl⟩
    · rfl
    · obtain ⟨-, w, hw⟩ := allValid_concat h'
      obtain ⟨init, t, hj, -⟩ := j.exists_tokens_eq_concat hw
      simp [hj] at ht
  | append_singleton items i ih =>
    obtain ⟨hi, v, hv⟩ := allValid_concat h
    rcases List.eq_nil_or_concat' items' with rfl | ⟨items', j, rfl⟩
    · obtain ⟨init, t, hi, -⟩ := i.exists_tokens_eq_concat hv
      simp [hi] at ht
    · obtain ⟨hj, w, hw⟩ := allValid_concat h'
      simp only [List.flatMap_append, List.flatMap_singleton] at ht
      obtain ⟨rfl, hij⟩ := Item.eq_of_append_tokens_eq hv hw hi.notAfter_tokens
        hj.notAfter_tokens ht
      rw [ih hi hj hij]

end TicketQuery
