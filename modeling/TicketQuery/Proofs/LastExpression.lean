import TicketQuery.BoundedQuery
import TicketQuery.Proofs.Acceptance
import TicketQuery.Proofs.Lowering

/-! # The last expression decides

Of several expressions in a query the last one is its condition. It is bare, a single token within
any parentheses, or it compares something, and only then the query has a filter. -/
namespace TicketQuery

mutual

/-- The token of an operand that is nothing but a token in parentheses. -/
def Operand.bare? : Operand → Option Token
  | .leaf t => some t
  | .group _ e _ => e.bare?

def Clause.bare? : Clause → Option Token
  | .operand p => p.bare?
  | .comparison .. => none

def Chain.bare? : Chain → Option Token
  | .clause q => q.bare?
  | .linked .. => none

end

/-- Whether some of the tokens compare. -/
def Compares (ts : List Token) : Prop := ∃ t ∈ ts, t.kind.IsComparison

theorem Compares.mono {ts us : List Token} (h : Compares ts) (hs : ts ⊆ us) : Compares us := by
  obtain ⟨t, ht, hk⟩ := h
  exact ⟨t, hs ht, hk⟩

/-- The two sorts of expressions: a bare token, which is no node, and nodes, which compare. -/
inductive BareOrNode (bare : Option Token) (ts : List Token) (x : Expr) : Prop where
  | bare (t : Token) (hb : bare = some t) (hx : t.expr? = some x) (hn : x.isNode = false)
      (hc : ¬ Compares ts)
  | node (hb : bare = none) (hn : x.isNode = true) (hc : Compares ts)

theorem Token.isNode_of_expr? {t : Token} {x : Expr} (h : t.expr? = some x) :
    x.isNode = false := by
  unfold expr? at h
  split at h
  · cases h
    rfl
  · cases h
    rfl
  · obtain ⟨n, -, rfl⟩ := Option.map_eq_some_iff.1 h
    rfl
  · cases h

mutual

theorem Operand.bareOrNode : ∀ {p : Operand} {x : Expr}, p.expr? = some x →
    BareOrNode p.bare? p.tokens x
  | .leaf t, x, h => by
    refine .bare t rfl h (Token.isNode_of_expr? h) ?_
    rintro ⟨u, hu, c, hk⟩
    cases List.mem_singleton.1 hu
    rcases Token.kind_of_expr?_eq_some h with h | h | h <;> cases h.symm.trans hk
  | .group o e c, x, h => by
    obtain ⟨ho, hc, he⟩ := Operand.expr?_group_eq_some h
    cases Chain.bareOrNode he with
    | bare t hb hx hn hcompares =>
      refine .bare t hb hx hn ?_
      rintro ⟨u, hu, k, hk⟩
      simp only [Operand.tokens, List.mem_cons, List.mem_append, List.not_mem_nil, or_false] at hu
      rcases hu with rfl | hu | rfl
      · cases ho.symm.trans hk
      · exact hcompares ⟨u, hu, k, hk⟩
      · cases hc.symm.trans hk
    | node hb hn hcompares =>
      exact .node hb hn (hcompares.mono fun u hu => by simp [Operand.tokens, hu])

theorem Clause.bareOrNode : ∀ {q : Clause} {x : Expr}, q.expr? = some x →
    BareOrNode q.bare? q.tokens x
  | .operand p, x, h => Operand.bareOrNode h
  | .comparison l op r, x, h => by
    obtain ⟨c, name, v, hop, -, -, rfl⟩ := Clause.expr?_comparison_eq_some h
    exact .node rfl rfl ⟨op, by simp [Clause.tokens], c, hop⟩

theorem Chain.bareOrNode : ∀ {e : Chain} {x : Expr}, e.expr? = some x →
    BareOrNode e.bare? e.tokens x
  | .clause q, x, h => Clause.bareOrNode h
  | .linked l op r, x, h => by
    obtain ⟨k, y, z, -, hl, -, hy, -, rfl⟩ := Chain.expr?_linked_eq_some h
    cases Chain.bareOrNode hl with
    | bare _ _ _ hn => cases hn.symm.trans hy
    | node _ _ hcompares =>
      exact .node rfl rfl (hcompares.mono fun u hu => by simp [Chain.tokens, hu])

end

def Item.expression? : Item → Option Chain
  | expression e => some e
  | modifier .. => none

def lastExpression? (items : List Item) : Option Chain :=
  (items.filterMap Item.expression?).getLast?

/-- The condition is what the last expression stands for. -/
theorem AllValid.condition_ofItems {items : List Item} (h : AllValid items) :
    (lastExpression? items = none ∧ (Query.ofItems items).condition = none) ∨
      ∃ e x, lastExpression? items = some e ∧ e.expr? = some x ∧
        (Query.ofItems items).condition = some x := by
  simp only [lastExpression?, Query.ofItems, Query.ofValues]
  -- From the end of the text: modifiers change nothing, and an expression is the last one.
  induction items using List.reverseRecOn with
  | nil => exact .inl ⟨rfl, rfl⟩
  | append_singleton items i ih =>
    obtain ⟨hitems, v, hv⟩ := allValid_concat h
    cases i with
    | modifier k t =>
      obtain ⟨m, -, rfl⟩ := Option.map_eq_some_iff.1 hv
      simpa [List.filterMap_append, Item.expression?, hv] using ih hitems
    | expression e =>
      obtain ⟨x, hx, rfl⟩ := Option.map_eq_some_iff.1 hv
      refine .inr ⟨e, x, ?_, hx, ?_⟩
      · simp [List.filterMap_append, Item.expression?]
      · simp [List.filterMap_append, hv]

/-- The token that the last expression of a text is, if it is no more than that. -/
def bareExpression? (items : List Item) : Option Token := (lastExpression? items).bind Chain.bare?

theorem AllValid.condition_of_bare {items : List Item} (h : AllValid items) {t : Token}
    (ht : bareExpression? items = some t) : ∃ x, t.expr? = some x ∧
      (Query.ofItems items).condition = some x ∧ x.isNode = false := by
  obtain ⟨e, he, hb⟩ := Option.bind_eq_some_iff.1 ht
  rcases h.condition_ofItems with ⟨hl, -⟩ | ⟨e', x, hl, hx, hc⟩
  · cases he.symm.trans hl
  · cases he.symm.trans hl
    cases Chain.bareOrNode hx with
    | bare u hu hux hn =>
      cases hb.symm.trans hu
      exact ⟨x, hux, hc, hn⟩
    | node hu => cases hb.symm.trans hu

theorem AllValid.condition_of_not_bare {items : List Item} (h : AllValid items)
    (ht : bareExpression? items = none) :
    (∀ x, (Query.ofItems items).condition = some x → x.isNode = true) ∧
      ((Query.ofItems items).condition = none ↔ lastExpression? items = none) := by
  rcases h.condition_ofItems with ⟨hl, hc⟩ | ⟨e, x, hl, hx, hc⟩
  · simp [hl, hc]
  · cases Chain.bareOrNode hx with
    | bare u hu => simp [bareExpression?, hl, hu] at ht
    | node _ hn => simp [hl, hc, hn]

/-- An accepted text is derived by the grammar, and its query can be written. -/
theorem Query.exists_derives_of_ofText {limits : Limits} {text : String} {q : Query}
    (h : Query.ofText limits text = .ok q) :
    ∃ items, Derives items (Lexer.ofText text).tokens ∧ q = Query.ofItems items ∧
      q.IsWritable := by
  obtain ⟨-, hf, -, rfl⟩ := Query.ofText_eq_ok_iff.1 h
  obtain ⟨items, hd⟩ := exists_derives (c := (Parser.ofText text).cursor) hf
  exact ⟨items, hd, (Derives.parse_eq hd).1,
    (Parser.isWritable_parse (Parser.fitsKind_ofLexer _)).1⟩

namespace Filter

/-- An accepted text has a filter if and only if its last expression compares something. It has none
if that expression is bare, or if there is no expression. -/
theorem isSome_ofQuery_iff_compares {limits : Limits} {text : String} {q : Query}
    (h : Query.ofText limits text = .ok q) (config : Config) :
    ∃ items, Derives items (Lexer.ofText text).tokens ∧
      ((ofQuery config q).isSome ↔ ∃ e, lastExpression? items = some e ∧ Compares e.tokens) ∧
      (ofQuery config q = none ↔ ∀ e, lastExpression? items = some e → e.bare?.isSome) := by
  obtain ⟨items, hd, hq, hw⟩ := Query.exists_derives_of_ofText h
  have hsome := ofQuery_isSome_iff config hw
  refine ⟨items, hd, ?_⟩
  rcases hd.valid.condition_ofItems with ⟨hl, hc⟩ | ⟨e, x, hl, hx, hc⟩
  · have hn : ofQuery config q = none := by rw [ofQuery, hq, hc, Option.bind_none]
    simp [hl, hn]
  rw [← hq] at hc
  simp only [hc, Option.some.injEq, exists_eq_left'] at hsome
  simp only [hl, Option.some.injEq, exists_eq_left', forall_eq', ← Option.not_isSome_iff_eq_none,
    hsome]
  cases Chain.bareOrNode hx with
  | bare t hb _ hn hcompares => simp [hb, hn, hcompares]
  | node hb hn hcompares => simp [hb, hn, hcompares]

/-- The last of three expressions compares. -/
theorem isSome_ofQuery_iff_compares_third : ∃ q items e,
    Query.ofText {} "a (key) limit 3 (b = 1) order_by c" = .ok q ∧
      Derives items (Lexer.ofText "a (key) limit 3 (b = 1) order_by c").tokens ∧
        lastExpression? items = some e ∧ Compares e.tokens := by
  have h : Query.ofText {} "a (key) limit 3 (b = 1) order_by c" =
      .ok (Parser.ofText "a (key) limit 3 (b = 1) order_by c").parse.1 :=
    Query.ofText_eq_ok_iff.2 ⟨by decide +kernel, by decide +kernel, by decide +kernel, rfl⟩
  obtain ⟨items, hd, hsome, -⟩ := isSome_ofQuery_iff_compares h {}
  obtain ⟨e, hl, hc⟩ := hsome.1 (by decide +kernel)
  exact ⟨_, items, e, h, hd, hl, hc⟩

/-- A bare expression behind a comparison takes its place: there is no filter although the text
compares something. -/
theorem not_forall_isSome_ofQuery : ¬ ∀ (limits : Limits) (config : Config) (text : String)
    (q : Query), Query.ofText limits text = .ok q → Compares (Lexer.ofText text).tokens →
      (ofQuery config q).isSome := by
  intro h
  have hq : Query.ofText {} "key = \"A\" key" = .ok ⟨some (.field "key"), []⟩ :=
    Query.ofText_eq_ok_iff.2 ⟨by decide +kernel, by decide +kernel, by decide +kernel,
      by decide +kernel⟩
  have hc : Compares (Lexer.ofText "key = \"A\" key").tokens :=
    ⟨⟨.operator (.comparison .eq), "=", 4, 5⟩, by decide +kernel, .eq, rfl⟩
  exact absurd (h {} {} _ _ hq hc) (by decide)

end Filter

end TicketQuery
