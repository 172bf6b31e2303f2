import TicketQuery.Proofs.Acceptance
import TicketQuery.Proofs.WrittenTokens

/-! # Reading a written query back

A written node is a chain in parentheses, so a written query has a derivation whose query it is. -/
namespace TicketQuery

/-- The tokens make up an operand that stands for the expression. -/
def Expr.Denoted (e : Expr) (ts : List Token) : Prop :=
  ∃ p : Operand, p.tokens = ts ∧ p.expr? = some e

/-- Where nothing runs into it, the written expression is read as an operand that stands for it. -/
def Expr.IsRead (e : Expr) : Prop :=
  ∀ rest, Delimited rest → Lexes e.inQuery.toList rest e.Denoted

theorem Expr.isRead_field {name : String} (h : IsFieldName name) : (Expr.field name).IsRead := by
  intro rest hr
  apply (h.lexes hr).mono
  rintro _ ⟨t, rfl, hk, ht⟩
  refine ⟨.leaf t, rfl, ?_⟩
  simp only [Operand.expr?, Token.expr?, hk, ht]

theorem Expr.isRead_literal {v : Literal} (h : v.IsWritable) : (Expr.literal v).IsRead := by
  intro rest hr
  cases v with
  | integer n =>
    apply (Literal.lexes_integer h hr).mono
    rintro _ ⟨digits, ⟨t, rfl, hk, rfl⟩, hi⟩
    refine ⟨.leaf t, rfl, ?_⟩
    simp only [Operand.expr?, Token.expr?, hk, hi, Option.map_some]
  | text s =>
    apply (lexes_quote h rest).mono
    rintro _ ⟨t, rfl, hk, ht⟩
    refine ⟨.leaf t, rfl, ?_⟩
    simp only [Operand.expr?, Token.expr?, hk, ht]
  | date t => exact h.elim

theorem Expr.isRead_node {op : Operator} {left right : Expr} (hl : left.IsRead) (hr : right.IsRead)
    (h : ∀ (p q : Operand) (t : Token), p.expr? = some left → t.kind = .operator op →
      q.expr? = some right → ∃ e : Chain, e.tokens = p.tokens ++ t :: q.tokens ∧
        e.expr? = some (.node op left right)) : (Expr.node op left right).IsRead := by
  intro rest _ offset
  have hcs : (Expr.node op left right).inQuery.toList ++ rest = '(' :: (left.inQuery.toList ++
      ' ' :: (op.symbol.toList ++ ' ' :: (right.inQuery.toList ++ ')' :: rest))) := by
    simp [Expr.inQuery]
  obtain ⟨_, stop, ⟨o, rfl, ho, -⟩, h₁⟩ := lexes_opening (left.inQuery.toList ++
      ' ' :: (op.symbol.toList ++ ' ' :: (right.inQuery.toList ++ ')' :: rest))) offset
  obtain ⟨_, stop, ⟨p, rfl, hp⟩, h₂⟩ := hl _ (delimited_blank _) stop
  obtain ⟨_, stop, ⟨t, rfl, ht, -⟩, h₃⟩ := (lexes_operator op _).blank stop
  obtain ⟨_, stop, ⟨q, rfl, hq⟩, h₄⟩ := (hr _ (delimited_closing rest)).blank stop
  obtain ⟨_, stop, ⟨c, rfl, hc, -⟩, h₅⟩ := lexes_closing rest stop
  obtain ⟨e, he, hx⟩ := h p q t hp ht hq
  refine ⟨_, stop, ⟨.group o e c, rfl, ?_⟩, ?_⟩
  · simp only [Operand.expr?, ho, hc, hx, and_self, if_true]
  · rw [hcs]
    simp only [List.cons_append, List.nil_append] at h₁ h₂ h₃ h₄ h₅
    rw [h₁, h₂, h₃, h₄, h₅]
    simp [Operand.tokens, he]

theorem Expr.IsCondition.isRead {e : Expr} (h : e.IsCondition) : e.IsRead := by
  induction h with
  | comparison hn hv =>
    apply Expr.isRead_node (Expr.isRead_field hn) (Expr.isRead_literal hv)
    intro p q t hp ht hq
    refine ⟨.clause (.comparison p t q), rfl, ?_⟩
    simp [Chain.expr?, Clause.expr?, hp, hq, ht, TokenKind.compare?]
  | connective hl hr ihl ihr =>
    apply Expr.isRead_node ihl ihr
    intro p q t hp ht hq
    refine ⟨.linked (.clause (.operand p)) t (.operand q), rfl, ?_⟩
    simp [Chain.expr?, Clause.expr?, hp, hq, ht, TokenKind.link?, hl.isNode, hr.isNode]

theorem Expr.IsWritable.isRead {e : Expr} (h : e.IsWritable) : e.IsRead := by
  cases h with
  | field hn => exact Expr.isRead_field hn
  | literal hv => exact Expr.isRead_literal hv
  | condition he => exact he.isRead

/-- The tokens make up items that stand for the values. -/
def IsWritten (values : List (Modifier ⊕ Expr)) (ts : List Token) : Prop :=
  ∃ items : List Item, items.map Item.value? = values.map some ∧ items.flatMap Item.tokens = ts

theorem isWritten_nil : IsWritten [] [] := ⟨[], rfl, rfl⟩

theorem IsWritten.append {vs ws : List (Modifier ⊕ Expr)} {ts us : List Token}
    (h : IsWritten vs ts) (h' : IsWritten ws us) : IsWritten (vs ++ ws) (ts ++ us) := by
  obtain ⟨is, hi, rfl⟩ := h
  obtain ⟨js, hj, rfl⟩ := h'
  refine ⟨is ++ js, ?_, List.flatMap_append⟩
  rw [List.map_append, List.map_append, hi, hj]

theorem IsWritten.derives {values : List (Modifier ⊕ Expr)} {ts : List Token}
    (h : IsWritten values ts) :
    ∃ items, Derives items ts ∧ Query.ofItems items = .ofValues values := by
  obtain ⟨items, hv, ht⟩ := h
  refine ⟨items, ⟨?_, ht⟩, ?_⟩
  · intro i hi
    have hm : i.value? ∈ values.map some := hv ▸ List.mem_map_of_mem hi
    obtain ⟨v, -, hv⟩ := List.mem_map.1 hm
    exact ⟨v, hv.symm⟩
  · have hf : items.filterMap Item.value? = values := by
      have := congrArg (List.filterMap id) hv
      simpa [List.filterMap_map] using this
    rw [Query.ofItems, hf]

theorem Expr.IsWritable.lexes {e : Expr} (h : e.IsWritable) {rest : List Char}
    (hr : Delimited rest) : Lexes e.inQuery.toList rest (IsWritten [.inr e]) := by
  apply (h.isRead rest hr).mono
  rintro _ ⟨p, rfl, hp⟩
  refine ⟨[.expression (.clause (.operand p))], ?_, ?_⟩
  · simp [Item.value?, Chain.expr?, Clause.expr?, hp]
  · simp [Item.tokens, Chain.tokens, Clause.tokens]

theorem Modifier.IsWritable.lexes {m : Modifier} (h : m.IsWritable) {rest : List Char}
    (hr : Delimited rest) : Lexes m.inQuery.toList rest (IsWritten [.inl m]) := by
  have hcs : m.inQuery.toList = m.kind.keyword.toList ++ ' ' :: m.operand.inQuery.toList := by
    simp [Modifier.inQuery]
  rw [hcs]
  cases h with
  | orderBy hn =>
    apply (lexes_keyword .orderBy _).append (hn.lexes hr).blank
    rintro _ _ ⟨k, rfl, hk, -⟩ ⟨t, rfl, ht, hname⟩
    refine ⟨[.modifier k t], ?_, rfl⟩
    have hk : k.kind = .orderBy := hk
    simp [Item.value?, Item.modifier?, hk, ht, hname]
  | limit hn =>
    apply (lexes_keyword .limit _).append (Literal.lexes_integer hn hr).blank
    rintro _ _ ⟨k, rfl, hk, -⟩ ⟨digits, ⟨t, rfl, ht, rfl⟩, hi⟩
    refine ⟨[.modifier k t], ?_, rfl⟩
    have hk : k.kind = .limit := hk
    simp [Item.value?, Item.modifier?, hk, ht, hi]

private theorem delimited_modifiers (ms : List Modifier) :
    Delimited (String.join (ms.map fun m => " " ++ m.inQuery)).toList := by
  cases ms with
  | nil => exact delimited_nil
  | cons m ms =>
    have h := delimited_blank (m.inQuery ++ String.join (ms.map fun m => " " ++ m.inQuery)).toList
    simpa using h

theorem lexes_modifiers {ms : List Modifier} (h : ∀ m ∈ ms, m.IsWritable) :
    Lexes (String.join (ms.map fun m => " " ++ m.inQuery)).toList [] (IsWritten (ms.map .inl)) := by
  induction ms with
  | nil => exact Lexes.of_nil isWritten_nil
  | cons m ms ih =>
    have hr := delimited_modifiers ms
    rw [← List.append_nil (String.toList _)] at hr
    have hm := (h m List.mem_cons_self).lexes hr
    have hms := ih fun m' hm' => h m' (List.mem_cons_of_mem m hm')
    have := hm.blank.append hms fun _ _ => IsWritten.append
    simpa using this

/-- The values that make up a query: its condition, if it has one, before its modifiers. -/
def Query.values (q : Query) : List (Modifier ⊕ Expr) :=
  q.condition.toList.map .inr ++ q.modifiers.map .inl

theorem Query.ofValues_values (q : Query) : Query.ofValues q.values = q := by
  have hr : Sum.getRight? ∘ (.inl : Modifier → Modifier ⊕ Expr) = fun _ => none := rfl
  have hl : Sum.getLeft? ∘ (.inl : Modifier → Modifier ⊕ Expr) = some := rfl
  obtain ⟨condition, ms⟩ := q
  cases condition <;> simp [ofValues, values, List.filterMap_map, hr, hl, List.filterMap_cons]

theorem Query.IsWritable.lexes {q : Query} (h : q.IsWritable) :
    Lexes q.inQuery.toList [] (IsWritten q.values) := by
  have hms := lexes_modifiers h.modifiers
  obtain ⟨condition, ms⟩ := q
  cases condition with
  | none => simpa [Query.inQuery, Query.values] using hms
  | some e =>
    have hr := delimited_modifiers ms
    rw [← List.append_nil (String.toList _)] at hr
    have he := (h.condition e rfl).lexes hr
    have := he.append hms fun _ _ => IsWritten.append
    simpa [Query.inQuery, Query.values] using this

/-- Parsing the written form of a query gives the query back. -/
theorem parse_inQuery {q : Query} (h : q.IsWritable) :
    (Parser.ofText q.inQuery).parse.1 = q ∧ (Parser.ofText q.inQuery).parse.2.faults = [] := by
  have hw : IsWritten q.values (Parser.ofText q.inQuery).cursor.unread := h.lexes.tokens 0
  obtain ⟨items, hd, hi⟩ := hw.derives
  obtain ⟨hq, hf⟩ := hd.parse_eq
  rw [hq, hi, Query.ofValues_values]
  exact ⟨rfl, hf⟩

theorem parse_inQuery_mixed :
    let q : Query := {
      condition := some (.node (.connective .and)
        (.node (.comparison .ge) (.field "coût-total") (.literal (.integer maxInteger)))
        (.node (.connective .or)
          (.node (.comparison .like) (.field "Order_by_") (.literal (.text "a) or \\ '%")))
          (.node (.comparison .ne) (.field "-") (.literal (.integer 0)))))
      modifiers := [⟨.limit, .literal (.integer 5)⟩, ⟨.orderBy, .field "id"⟩,
        ⟨.limit, .literal (.integer 7)⟩] }
    q.IsWritable ∧ (Parser.ofText q.inQuery).parse.1 = q ∧
      (Parser.ofText q.inQuery).parse.2.faults = [] := by
  intro q
  have hname : ∀ name ∈ ["coût-total", "Order_by_", "-", "id"], IsFieldName name := by
    intro name hn
    simp only [List.mem_cons, List.not_mem_nil, or_false] at hn
    rcases hn with rfl | rfl | rfl | rfl <;>
      exact ⟨by decide, List.all_eq_true.1 (by decide +kernel), by decide⟩
  have h : q.IsWritable := by
    constructor
    · rintro _ ⟨rfl⟩
      refine .condition (.connective (.comparison (hname _ (by simp)) ?_)
        (.connective (.comparison (hname _ (by simp)) ?_) (.comparison (hname _ (by simp)) ?_)))
      · exact ⟨by decide, by decide⟩
      · simp [Literal.IsWritable]
      · exact ⟨by decide, by decide⟩
    · intro m hm
      simp only [q, List.mem_cons, List.not_mem_nil, or_false] at hm
      rcases hm with rfl | rfl | rfl
      · exact .limit ⟨by decide, by decide⟩
      · exact .orderBy (hname _ (by simp))
      · exact .limit ⟨by decide, by decide⟩
  exact ⟨h, parse_inQuery h⟩

end TicketQuery
