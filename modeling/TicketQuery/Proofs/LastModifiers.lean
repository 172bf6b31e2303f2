import TicketQuery.Proofs.LastExpression

/-! # The last modifiers decide

Keywords of modifiers stand nowhere but before the operand of a modifier. So the sort order and the
limit of a query can be read off its tokens: they stand behind the last keyword of their kind. -/
namespace TicketQuery

/-- The kinds of token that expressions consist of. -/
def TokenKind.InExpression (k : TokenKind) : Prop := k.Opens ∨ k = .rightParen ∨ k.IsOperator

theorem TokenKind.InExpression.ne_keywordKind {k : TokenKind} (h : k.InExpression)
    (m : ModifierKind) : k ≠ m.keywordKind := by
  rcases h with (rfl | rfl | rfl | rfl) | rfl | ⟨op, rfl⟩ <;> cases m <;>
    simp [ModifierKind.keywordKind]

mutual

theorem Operand.inExpression_of_mem_tokens : ∀ {p : Operand} {x : Expr}, p.expr? = some x →
    ∀ t ∈ p.tokens, t.kind.InExpression
  | .leaf t, x, h => by
    have hk := Token.kind_of_expr?_eq_some h
    simp only [Operand.tokens, List.forall_mem_singleton]
    rcases hk with hk | hk | hk <;> simp [TokenKind.InExpression, TokenKind.Opens, hk]
  | .group o e c, x, h => by
    obtain ⟨ho, hc, he⟩ := Operand.expr?_group_eq_some h
    simp only [Operand.tokens, List.forall_mem_cons, List.forall_mem_append]
    exact ⟨.inl (by simp [TokenKind.Opens, ho]), Chain.inExpression_of_mem_tokens he,
      .inr (.inl hc), by simp⟩

theorem Clause.inExpression_of_mem_tokens : ∀ {q : Clause} {x : Expr}, q.expr? = some x →
    ∀ t ∈ q.tokens, t.kind.InExpression
  | .operand p, x, h => Operand.inExpression_of_mem_tokens h
  | .comparison l op r, x, h => by
    obtain ⟨c, name, v, hop, hl, hr, -⟩ := Clause.expr?_comparison_eq_some h
    simp only [Clause.tokens, List.forall_mem_append, List.forall_mem_cons]
    exact ⟨Operand.inExpression_of_mem_tokens hl, .inr (.inr ⟨_, hop⟩),
      Operand.inExpression_of_mem_tokens hr⟩

theorem Chain.inExpression_of_mem_tokens : ∀ {e : Chain} {x : Expr}, e.expr? = some x →
    ∀ t ∈ e.tokens, t.kind.InExpression
  | .clause q, x, h => Clause.inExpression_of_mem_tokens h
  | .linked l op r, x, h => by
    obtain ⟨k, y, z, hop, hl, hr, -⟩ := Chain.expr?_linked_eq_some h
    simp only [Chain.tokens, List.forall_mem_append, List.forall_mem_cons]
    exact ⟨Chain.inExpression_of_mem_tokens hl, .inr (.inr ⟨_, hop⟩),
      Clause.inExpression_of_mem_tokens hr⟩

end

/-- What a modifier of a given kind says of its operand. -/
def ModifierKind.read? : ModifierKind → Token → Option Modifier
  | orderBy, t => some ⟨.orderBy, .field t.text⟩
  | limit, t => (integerOf? t.text).map fun n => ⟨.limit, .literal (.integer n)⟩

theorem Item.exists_kind_of_modifier? {k t : Token} {m : Modifier}
    (h : Item.modifier? k t = some m) : ∃ kind : ModifierKind, k.kind = kind.keywordKind ∧
      t.kind = kind.operandKind ∧ kind.read? t = some m := by
  unfold Item.modifier? at h
  split at h
  · next hk ht => exact ⟨.orderBy, hk, ht, h⟩
  · next hk ht => exact ⟨.limit, hk, ht, h⟩
  · cases h

theorem ModifierKind.operandKind_ne (kind other : ModifierKind) :
    kind.operandKind ≠ other.keywordKind := by
  cases kind <;> cases other <;> simp [operandKind, keywordKind]

theorem ModifierKind.keywordKind_inj {kind other : ModifierKind}
    (h : kind.keywordKind = other.keywordKind) : kind = other := by
  cases kind <;> cases other <;> first | rfl | cases h

/-- The operands of one kind of modifier among tokens, in order. -/
def operandsOf (kind : ModifierKind) : List Token → List Token
  | k :: t :: ts =>
    if k.kind = kind.keywordKind ∧ t.kind = kind.operandKind then t :: operandsOf kind (t :: ts)
    else operandsOf kind (t :: ts)
  | _ => []

def lastOperand? (kind : ModifierKind) (ts : List Token) : Option Token :=
  (operandsOf kind ts).getLast?

theorem operandsOf_cons_of_ne {kind : ModifierKind} {k : Token} (h : k.kind ≠ kind.keywordKind)
    (ts : List Token) : operandsOf kind (k :: ts) = operandsOf kind ts := by
  cases ts with
  | nil => rfl
  | cons t ts => rw [operandsOf, if_neg fun hk => h hk.1]

theorem operandsOf_append_of_ne {kind : ModifierKind} {ts : List Token}
    (h : ∀ t ∈ ts, t.kind ≠ kind.keywordKind) (us : List Token) :
    operandsOf kind (ts ++ us) = operandsOf kind us := by
  induction ts with
  | nil => rfl
  | cons t ts ih =>
    obtain ⟨ht, hts⟩ := List.forall_mem_cons.1 h
    rw [List.cons_append, operandsOf_cons_of_ne ht, ih hts]

/-- An operand is no keyword itself. -/
theorem operandsOf_modifier {kind : ModifierKind} {k t : Token} (hk : k.kind = kind.keywordKind)
    (ht : t.kind = kind.operandKind) (ts : List Token) :
    operandsOf kind (k :: t :: ts) = t :: operandsOf kind ts := by
  have hne : t.kind ≠ kind.keywordKind := ht ▸ kind.operandKind_ne kind
  rw [operandsOf, if_pos ⟨hk, ht⟩, operandsOf_cons_of_ne hne]

theorem operandsOf_modifier_of_ne {kind other : ModifierKind} (h : other ≠ kind) {k t : Token}
    (hk : k.kind = other.keywordKind) (ht : t.kind = other.operandKind) (ts : List Token) :
    operandsOf kind (k :: t :: ts) = operandsOf kind ts := by
  have hkne : k.kind ≠ kind.keywordKind := fun hk' =>
    h (ModifierKind.keywordKind_inj (hk.symm.trans hk'))
  have htne : t.kind ≠ kind.keywordKind := ht ▸ other.operandKind_ne kind
  rw [operandsOf_cons_of_ne hkne, operandsOf_cons_of_ne htne]

theorem operandsOf_expression (kind : ModifierKind) {e : Chain} {x : Expr}
    (h : e.expr? = some x) (ts : List Token) :
    operandsOf kind (e.tokens ++ ts) = operandsOf kind ts :=
  operandsOf_append_of_ne
    (fun t ht => (Chain.inExpression_of_mem_tokens h t ht).ne_keywordKind kind) ts

/-- What modifiers say of a matter on which only those of one kind have a say. -/
theorem AllValid.filterMap_modifiers {α : Type} {items : List Item} (h : AllValid items)
    (kind : ModifierKind) (say : Modifier → Option α) (read : Token → α)
    (hsame : ∀ {t m}, kind.read? t = some m → say m = some (read t))
    (hother : ∀ {other : ModifierKind} {t m}, other ≠ kind → other.read? t = some m →
      say m = none) :
    (Query.ofItems items).modifiers.filterMap say =
      (operandsOf kind (items.flatMap Item.tokens)).map read := by
  simp only [Query.ofItems, Query.ofValues]
  induction items with
  | nil => rfl
  | cons i items ih =>
    obtain ⟨⟨v, hv⟩, hitems⟩ := allValid_cons h
    rw [List.filterMap_cons, hv, List.flatMap_cons]
    cases i with
    | expression e =>
      obtain ⟨x, hx, rfl⟩ := Option.map_eq_some_iff.1 hv
      rw [Item.tokens, operandsOf_expression kind hx]
      exact ih hitems
    | modifier k t =>
      obtain ⟨m, hm, rfl⟩ := Option.map_eq_some_iff.1 hv
      obtain ⟨other, hk, ht, hread⟩ := Item.exists_kind_of_modifier? hm
      rw [List.filterMap_cons, Item.tokens, List.cons_append, List.cons_append, List.nil_append]
      by_cases hkind : other = kind
      · subst hkind
        simpa [operandsOf_modifier hk ht, hsame hread] using ih hitems
      · simpa [operandsOf_modifier_of_ne hkind hk ht, hother hkind hread] using ih hitems

theorem Derives.orderBy?_eq {items : List Item} {ts : List Token} (h : Derives items ts) :
    (Query.ofItems items).orderBy? = (lastOperand? .orderBy ts).map Token.text := by
  have hall := h.valid.filterMap_modifiers .orderBy Modifier.field? Token.text ?_ ?_
  · rw [Query.orderBy?, hall, h.tokens_eq, List.getLast?_map, lastOperand?]
  · rintro t _ ⟨⟩
    rfl
  · rintro (_ | _) t m hne hm
    · exact absurd rfl hne
    · obtain ⟨n, -, rfl⟩ := Option.map_eq_some_iff.1 hm
      rfl

/-- The number that digits stand for. -/
def Token.number (t : Token) : ℕ := Nat.ofDigitChars 10 t.text.toList 0

theorem Derives.limit?_eq {items : List Item} {ts : List Token} (h : Derives items ts) :
    (Query.ofItems items).limit? = (lastOperand? .limit ts).map fun t => (t.number : Int) := by
  have hall := h.valid.filterMap_modifiers .limit Modifier.limit?
    (fun t => (t.number : Int)) ?_ ?_
  · rw [Query.limit?, hall, h.tokens_eq, List.getLast?_map, lastOperand?]
  · intro t m hm
    obtain ⟨n, hn, rfl⟩ := Option.map_eq_some_iff.1 hm
    exact congrArg some (integerOf?_eq_some hn).1
  · rintro (_ | _) t m hne hm
    · cases hm
      rfl
    · exact absurd rfl hne

/-- Nothing but keywords of modifiers, each with its operand. -/
inductive IsModifierRow : List Token → Prop where
  | nil : IsModifierRow []
  | cons (kind : ModifierKind) {k t : Token} {ts : List Token} (hk : k.kind = kind.keywordKind)
      (ht : t.kind = kind.operandKind) (h : IsModifierRow ts) : IsModifierRow (k :: t :: ts)

/-- No expression starts with the keyword of a modifier. -/
theorem not_isModifierRow_append {e : Chain} {x : Expr} (h : e.expr? = some x) (ts : List Token) :
    ¬ IsModifierRow (e.tokens ++ ts) := by
  obtain ⟨k, us, hk, hopens⟩ := e.exists_tokens_eq_cons h
  rw [hk, List.cons_append]
  generalize us ++ ts = vs
  intro hrow
  cases hrow with
  | cons kind hkind => exact TokenKind.InExpression.ne_keywordKind (.inl hopens) kind hkind

theorem AllValid.isModifierRow_iff {items : List Item} (h : AllValid items) :
    IsModifierRow (items.flatMap Item.tokens) ↔ items.filterMap Item.expression? = [] := by
  induction items with
  | nil => simp [IsModifierRow.nil]
  | cons i items ih =>
    obtain ⟨⟨v, hv⟩, hitems⟩ := allValid_cons h
    specialize ih hitems
    cases i with
    | expression e =>
      obtain ⟨x, hx, rfl⟩ := Option.map_eq_some_iff.1 hv
      simpa [Item.expression?, Item.tokens] using not_isModifierRow_append hx _
    | modifier k t =>
      obtain ⟨m, hm, rfl⟩ := Option.map_eq_some_iff.1 hv
      obtain ⟨kind, hk, ht, -⟩ := Item.exists_kind_of_modifier? hm
      have hcons : IsModifierRow (k :: t :: items.flatMap Item.tokens) ↔
          IsModifierRow (items.flatMap Item.tokens) := by
        constructor
        · rintro (_ | ⟨_, _, _, hrow⟩)
          exact hrow
        · exact .cons kind hk ht
      simpa [Item.expression?, Item.tokens, hcons] using ih

/-- A text has an expression unless its tokens are those of modifiers. -/
theorem Derives.isModifierRow_iff {items : List Item} {ts : List Token} (h : Derives items ts) :
    IsModifierRow ts ↔ lastExpression? items = none := by
  rw [← h.tokens_eq, h.valid.isModifierRow_iff, lastExpression?, List.getLast?_eq_none_iff]

end TicketQuery
