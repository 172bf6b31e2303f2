import TicketQuery.Proofs.ParserOutcome
import TicketQuery.Proofs.Unambiguity

/-! # Whatever the grammar derives is read

A valid tree in front of the parser is read without a fault, up to its last token and with the
expression that it stands for. A clause or a chain may go on behind the tree, so what is said of it
is that reading goes on with the operators that follow. -/
namespace TicketQuery

theorem Operand.tokens_ne_nil (p : Operand) : p.tokens ≠ [] := by cases p <;> simp [Operand.tokens]

theorem Clause.tokens_ne_nil (q : Clause) : q.tokens ≠ [] := by
  cases q <;> simp [Clause.tokens, Operand.tokens_ne_nil]

theorem Chain.tokens_ne_nil (e : Chain) : e.tokens ≠ [] := by
  cases e <;> simp [Chain.tokens, Clause.tokens_ne_nil]

theorem Cursor.current_of_unread {c : Cursor} {t : Token} {rest : List Token}
    (h : c.unread = t :: rest) : c.current = t := by simp [Cursor.current, h]

/-- The operator behind some tokens. -/
theorem Cursor.operator?_onLast {c : Cursor} {ts rest : List Token} {t : Token} {op : Operator}
    (h : c.unread = ts ++ t :: rest) (hts : ts ≠ []) (ht : t.kind = .operator op) :
    (c.onLast ts).operator? = some op := by
  simp [operator?, upcoming_onLast h hts, ht, TokenKind.operator?]

theorem Cursor.endsAt_comparison (c : Cursor) : c.EndsAt .comparison := by
  rintro (_ | _) - <;> simp [Operator.precedence, Precedence.rank]

/-- The first of the tokens, if there is one, has a kind outside the class. -/
def NotBefore (p : TokenKind → Prop) (ts : List Token) : Prop :=
  ∀ t rest, ts = t :: rest → ¬ p t.kind

theorem NotBefore.endsAt_onLast {c : Cursor} {ts rest : List Token} {level : Precedence}
    (hr : NotBefore (fun k => ∃ op, k = .operator op ∧ level.rank < op.precedence.rank) rest)
    (h : c.unread = ts ++ rest) (hts : ts ≠ []) : (c.onLast ts).EndsAt level := by
  intro op hop
  obtain ⟨t, us, rfl, ht⟩ := Cursor.exists_eq_cons_of_upcoming_onLast h hts
    (TokenKind.operator?_eq_some_iff.1 hop) (by simp)
  exact Nat.not_lt.1 fun hl => hr t us rfl ⟨op, ht, hl⟩

/-- Behind a clause no comparison follows. -/
theorem NotBefore.endsAt_connective {c : Cursor} {ts rest : List Token}
    (hr : NotBefore TokenKind.IsComparison rest) (h : c.unread = ts ++ rest) (hts : ts ≠ []) :
    (c.onLast ts).EndsAt .connective := by
  refine NotBefore.endsAt_onLast (fun t rest ht hk => hr t rest ht ?_) h hts
  obtain ⟨_ | _, hop, hl⟩ := hk
  · exact ⟨_, hop⟩
  · exact absurd hl (Nat.lt_irrefl _)

theorem NotBefore.endsAt_lowest {c : Cursor} {ts rest : List Token}
    (hr : NotBefore TokenKind.IsOperator rest) (h : c.unread = ts ++ rest) (hts : ts ≠ []) :
    (c.onLast ts).EndsAt .lowest :=
  NotBefore.endsAt_onLast (fun t rest ht ⟨op, hop, _⟩ => hr t rest ht ⟨op, hop⟩) h hts

/-- The closing parenthesis is one step behind the content of a group. -/
theorem Operand.onLast_tokens_group (c : Cursor) (o : Token) (e : Chain) (t : Token) :
    c.onLast (Operand.group o e t).tokens = (c.advance.onLast e.tokens).advance := by
  have hn := e.tokens_ne_nil
  have ho : [o] ≠ [] := by simp
  have ht : [t] ≠ [] := by simp
  rw [← c.onLast_singleton o, Cursor.onLast_advance_onLast _ ho hn,
    ← Cursor.onLast_singleton (Cursor.advance _) t,
    Cursor.onLast_advance_onLast _ (by simp) ht, Cursor.onLast_singleton]
  simp [Operand.tokens]

mutual

theorem Operand.read_operand : ∀ {p : Operand} {x : Expr} {c : Cursor} {rest : List Token},
    p.expr? = some x → c.unread = p.tokens ++ rest →
      (operand c).outcome = ⟨some x, [], c.onLast p.tokens⟩
  | .leaf t, x, c, rest, hx, hc => by
    rw [← Cursor.current_of_unread hc] at hx
    exact outcome_operand_of_expr? hx
  | .group o e t, x, c, rest, hx, hc => by
    obtain ⟨ho, ht, hx⟩ := Operand.expr?_group_eq_some hx
    have hn := e.tokens_ne_nil
    have hc : c.unread = [o] ++ (e.tokens ++ [t] ++ rest) := by simpa [Operand.tokens] using hc
    have hi : c.advance.unread = e.tokens ++ t :: rest := by
      simpa using Cursor.unread_advance_onLast hc (by simp)
    have hs : NotBefore TokenKind.IsOperator (t :: rest) := by
      rintro _ _ ⟨⟩ ⟨op, hop⟩
      cases ht.symm.trans hop
    have he : (expression .lowest c.advance).outcome =
        ⟨some x, [], c.advance.onLast e.tokens⟩ := by
      rw [Chain.read_expression hx hi (fun t rest h hk => hs t rest h hk.isOperator)]
      exact outcome_operations_of_endsAt _ (hs.endsAt_lowest hi hn)
    rw [outcome_operand_group (by rw [Cursor.current_of_unread hc]; exact ho), he,
      Outcome.closeGroup, if_pos (by rw [Cursor.upcoming_onLast hi hn]; exact ht)]
    rw [Operand.onLast_tokens_group]

theorem Clause.read_expression : ∀ {q : Clause} {x : Expr} (level : Precedence) {c : Cursor}
    {rest : List Token}, q.expr? = some x → level.rank < Precedence.comparison.rank →
      c.unread = q.tokens ++ rest →
        (expression level c).outcome = (operations level (some x) (c.onLast q.tokens)).outcome
  | .operand p, x, level, c, rest, hx, _, hc =>
    outcome_expression_of_operand level (Operand.read_operand hx hc)
  | .comparison l op r, x, level, c, rest, hx, hl, hc => by
    obtain ⟨k, name, v, hop, hl', hr', rfl⟩ := Clause.expr?_comparison_eq_some hx
    have hn := l.tokens_ne_nil
    have hc : c.unread = l.tokens ++ op :: (r.tokens ++ rest) := by simpa [Clause.tokens] using hc
    have hr : (c.onLast l.tokens).advance.advance.unread = r.tokens ++ rest := by
      rw [Cursor.unread_advance, Cursor.unread_advance_onLast hc hn]
      rfl
    have hright := outcome_expression_of_operand .comparison
      (Operand.read_operand hr' hr)
    rw [outcome_operations_of_endsAt _ (Cursor.endsAt_comparison _),
      Cursor.onLast_advance_advance_onLast c op hn r.tokens_ne_nil] at hright
    rw [outcome_expression_of_operand level (Operand.read_operand hl' hc)]
    exact outcome_operations_of_right (Cursor.operator?_onLast hc hn hop) hl hright rfl

theorem Chain.read_expression : ∀ {e : Chain} {x : Expr} {c : Cursor} {rest : List Token},
    e.expr? = some x → c.unread = e.tokens ++ rest → NotBefore TokenKind.IsComparison rest →
      (expression .lowest c).outcome = (operations .lowest (some x) (c.onLast e.tokens)).outcome
  | .clause q, x, c, rest, hx, hc, _ => Clause.read_expression .lowest hx (by decide) hc
  | .linked l op r, x, c, rest, hx, hc, hrest => by
    obtain ⟨k, y, z, hop, hl, hr', hyn, hzn, rfl⟩ := Chain.expr?_linked_eq_some hx
    have hn := l.tokens_ne_nil
    have hc : c.unread = l.tokens ++ op :: (r.tokens ++ rest) := by simpa [Chain.tokens] using hc
    have hr : (c.onLast l.tokens).advance.advance.unread = r.tokens ++ rest := by
      rw [Cursor.unread_advance, Cursor.unread_advance_onLast hc hn]
      rfl
    have hright := Clause.read_expression .connective hr' (by decide) hr
    rw [outcome_operations_of_endsAt _ (hrest.endsAt_connective hr r.tokens_ne_nil),
      Cursor.onLast_advance_advance_onLast c op hn r.tokens_ne_nil] at hright
    have hopen : NotBefore TokenKind.IsComparison (op :: (r.tokens ++ rest)) := by
      rintro _ _ ⟨⟩
      exact TokenKind.not_isComparison hop
    rw [Chain.read_expression hl hc hopen]
    exact outcome_operations_of_right (Cursor.operator?_onLast hc hn hop)
      (Operator.connective k).rank_precedence_pos hright
      (by simp [Joined.ofOperator, Joined.connective, Joined.nonCondition, hyn, hzn])

end

/-- A valid chain is read to its end if no operator follows it. -/
theorem Chain.outcome_expression_eq {e : Chain} {x : Expr} {c : Cursor} {rest : List Token}
    (hx : e.expr? = some x) (hc : c.unread = e.tokens ++ rest)
    (hr : NotBefore TokenKind.IsOperator rest) :
    (expression .lowest c).outcome = ⟨some x, [], c.onLast e.tokens⟩ := by
  rw [Chain.read_expression hx hc fun t rest h hk => hr t rest h hk.isOperator]
  exact outcome_operations_of_endsAt _ (hr.endsAt_lowest hc e.tokens_ne_nil)

/-- The kinds of the first token of an expression. -/
def TokenKind.Opens (k : TokenKind) : Prop :=
  k = .ident ∨ k = .string ∨ k = .int ∨ k = .leftParen

theorem Operand.exists_tokens_eq_cons {p : Operand} {x : Expr} (h : p.expr? = some x) :
    ∃ t rest, p.tokens = t :: rest ∧ t.kind.Opens := by
  cases p with
  | leaf t =>
    refine ⟨t, [], rfl, ?_⟩
    rcases Token.kind_of_expr?_eq_some h with h | h | h <;> simp [TokenKind.Opens, h]
  | group o e c => exact ⟨o, _, rfl, .inr (.inr (.inr (Operand.expr?_group_eq_some h).1))⟩

theorem Clause.exists_tokens_eq_cons {q : Clause} {x : Expr} (h : q.expr? = some x) :
    ∃ t rest, q.tokens = t :: rest ∧ t.kind.Opens := by
  cases q with
  | operand p => exact p.exists_tokens_eq_cons h
  | comparison l op r =>
    obtain ⟨_, _, _, -, hl, -, -⟩ := Clause.expr?_comparison_eq_some h
    obtain ⟨t, rest, ht, hk⟩ := l.exists_tokens_eq_cons hl
    exact ⟨t, rest ++ op :: r.tokens, by simp [Clause.tokens, ht], hk⟩

theorem Chain.exists_tokens_eq_cons : ∀ {e : Chain} {x : Expr}, e.expr? = some x →
    ∃ t rest, e.tokens = t :: rest ∧ t.kind.Opens
  | .clause q, _, h => q.exists_tokens_eq_cons h
  | .linked l op r, _, h => by
    obtain ⟨_, _, _, -, hl, -, -⟩ := Chain.expr?_linked_eq_some h
    obtain ⟨t, rest, ht, hk⟩ := Chain.exists_tokens_eq_cons hl
    exact ⟨t, rest ++ op :: r.tokens, by simp [Chain.tokens, ht], hk⟩

/-- No item starts with an operator. -/
theorem Item.notBefore_tokens {i : Item} {v : Modifier ⊕ Expr} (h : i.value? = some v)
    (rest : List Token) : NotBefore TokenKind.IsOperator (i.tokens ++ rest) := by
  rintro t us ht ⟨op, hop⟩
  cases i with
  | modifier k u =>
    obtain ⟨m, hm, -⟩ := Option.map_eq_some_iff.1 h
    cases ht
    rcases (Item.modifier?_eq_some hm).1 with hk | hk <;> cases hk.symm.trans hop
  | expression e =>
    obtain ⟨x, hx, -⟩ := Option.map_eq_some_iff.1 h
    obtain ⟨t', rest', he, hk⟩ := e.exists_tokens_eq_cons hx
    rw [Item.tokens, he] at ht
    cases ht
    rcases hk with hk | hk | hk | hk <;> cases hk.symm.trans hop

/-- What the parser reports for an item. -/
def StatementResult.ofValue : Modifier ⊕ Expr → StatementResult
  | .inl m => .modifier (some m)
  | .inr e => .condition (some e)

namespace StatementResult

def condition? : StatementResult → Option (Option Expr)
  | condition e => some e
  | modifier _ => none

def modifier? : StatementResult → Option Modifier
  | modifier m => m
  | condition _ => none

end StatementResult

theorem Query.ofStatements_eq (results : List StatementResult) :
    Query.ofStatements results =
      ⟨(results.filterMap StatementResult.condition?).getLast?.join,
        results.filterMap StatementResult.modifier?⟩ := by
  have hc : StatementResult.condition? = fun
      | .condition e => some e
      | .modifier _ => none := by
    funext r
    cases r <;> rfl
  have hm : StatementResult.modifier? = fun
      | .modifier m => m
      | .condition _ => none := by
    funext r
    cases r <;> rfl
  rw [hc, hm]
  rfl

theorem Query.ofStatements_map_ofValue (values : List (Modifier ⊕ Expr)) :
    Query.ofStatements (values.map StatementResult.ofValue) = Query.ofValues values := by
  have hc : StatementResult.condition? ∘ StatementResult.ofValue =
      fun v => v.getRight?.map some := by
    funext v
    cases v <;> rfl
  have hm : StatementResult.modifier? ∘ StatementResult.ofValue = Sum.getLeft? := by
    funext v
    cases v <;> rfl
  rw [Query.ofStatements_eq, List.filterMap_map, List.filterMap_map, hc, hm, Query.ofValues,
    ← List.map_filterMap, List.getLast?_map]
  cases (values.filterMap Sum.getRight?).getLast? <;> rfl

theorem Statement.read_of_not_keyword {c : Cursor} (ho : c.current.kind ≠ .orderBy)
    (hl : c.current.kind ≠ .limit) :
    (Statement.read c).result = .condition (expression .lowest c).value ∧
      (Statement.read c).faults = (expression .lowest c).faults ∧
        (Statement.read c).cursor = (expression .lowest c).cursor := by
  unfold Statement.read
  split <;> simp_all

/-- The kind of the token that a modifier starts with. -/
def ModifierKind.keywordKind : ModifierKind → TokenKind
  | orderBy => .orderBy
  | limit => .limit

theorem Statement.read_of_keyword {c : Cursor} {kind : ModifierKind}
    (h : c.current.kind = kind.keywordKind) :
    Statement.read c = Statement.modifier kind c := by
  unfold Statement.read
  cases kind <;> split <;> simp_all [ModifierKind.keywordKind]

theorem Item.read_statement {i : Item} {v : Modifier ⊕ Expr} {c : Cursor} {rest : List Token}
    (hv : i.value? = some v) (hc : c.unread = i.tokens ++ rest)
    (hr : NotBefore TokenKind.IsOperator rest) :
    (Statement.read c).result = .ofValue v ∧ (Statement.read c).faults = [] ∧
      (Statement.read c).cursor = c.onLast i.tokens := by
  cases i with
  | modifier k t =>
    obtain ⟨m, hm, rfl⟩ := Option.map_eq_some_iff.1 hv
    have hk : c.current = k := Cursor.current_of_unread hc
    have hu : c.upcoming = t := by simp [Cursor.upcoming, hc, Item.tokens]
    have ha : c.advance.current = t := by simp [Cursor.current, Cursor.advance, hc, Item.tokens]
    have hlast : c.advance = c.onLast (Item.modifier k t).tokens := c.advance_eq_skip
    unfold Item.modifier? at hm
    split at hm
    · next hkind ht =>
      cases hm
      have hkey : c.current.kind = ModifierKind.orderBy.keywordKind := hk ▸ hkind
      rw [Statement.read_of_keyword hkey, Statement.modifier, if_pos (by rw [hu, ht]; rfl)]
      exact ⟨by rw [hu]; rfl, rfl, hlast⟩
    · next hkind ht =>
      obtain ⟨n, hn, rfl⟩ := Option.map_eq_some_iff.1 hm
      have hkey : c.current.kind = ModifierKind.limit.keywordKind := hk ▸ hkind
      rw [Statement.read_of_keyword hkey, Statement.modifier, if_pos (by rw [hu, ht]; rfl)]
      simp only [Parsed.integer, ha, hn]
      exact ⟨rfl, rfl, hlast⟩
    · cases hm
  | expression e =>
    obtain ⟨x, hx, rfl⟩ := Option.map_eq_some_iff.1 hv
    obtain ⟨t, ts, ht, hk⟩ := e.exists_tokens_eq_cons hx
    have hcur : c.current = t := Cursor.current_of_unread (by rw [hc, Item.tokens, ht]; rfl)
    have hnot : t.kind ≠ .orderBy ∧ t.kind ≠ .limit := by
      rcases hk with hk | hk | hk | hk <;> simp [hk]
    rw [← hcur] at hnot
    obtain ⟨hres, hf, hcursor⟩ := Statement.read_of_not_keyword hnot.1 hnot.2
    obtain ⟨hv, hf', hc'⟩ := Outcome.mk.inj (e.outcome_expression_eq hx hc hr)
    exact ⟨by rw [hres, hv]; rfl, by rw [hf, hf'], by rw [hcursor, hc']; rfl⟩

theorem statements_of_unread_ne_nil {c : Cursor} (h : c.unread ≠ []) :
    (statements c).results =
        (Statement.read c).result :: (statements (Statement.read c).cursor.advance).results ∧
      (statements c).faults =
        (Statement.read c).faults ++ (statements (Statement.read c).cursor.advance).faults := by
  rw [statements, dif_neg h]
  exact ⟨rfl, rfl⟩

theorem AllValid.notBefore_tokens {items : List Item} (h : AllValid items) :
    NotBefore TokenKind.IsOperator (items.flatMap Item.tokens) := by
  cases items with
  | nil => rintro t rest ⟨⟩
  | cons i items =>
    obtain ⟨⟨v, hv⟩, -⟩ := allValid_cons h
    exact Item.notBefore_tokens hv _

/-- A sequence of valid items is read without a fault. -/
theorem read_items {items : List Item} {c : Cursor} (hv : AllValid items)
    (hc : c.unread = items.flatMap Item.tokens) :
    (statements c).results = (items.filterMap Item.value?).map StatementResult.ofValue ∧
      (statements c).faults = [] := by
  induction items generalizing c with
  | nil =>
    rw [statements, dif_pos (by simpa using hc)]
    exact ⟨rfl, rfl⟩
  | cons i items ih =>
    obtain ⟨⟨v, hi⟩, his⟩ := allValid_cons hv
    have hn : i.tokens ≠ [] := by
      obtain ⟨init, t, ht, -⟩ := i.exists_tokens_eq_concat hi
      simp [ht]
    have hc' : c.unread = i.tokens ++ items.flatMap Item.tokens := by simpa using hc
    obtain ⟨hres, hf, hcur⟩ := i.read_statement hi hc' his.notBefore_tokens
    have hrest : (Statement.read c).cursor.advance.unread = items.flatMap Item.tokens := by
      rw [hcur]
      exact Cursor.unread_advance_onLast hc' hn
    obtain ⟨hr, hfs⟩ := ih his hrest
    have hu : c.unread ≠ [] := by simp [hc', hn]
    obtain ⟨hr', hfs'⟩ := statements_of_unread_ne_nil hu
    constructor
    · rw [hr', hres, hr, List.filterMap_cons, hi]
      rfl
    · rw [hfs', hf, hfs]
      rfl

end TicketQuery
