import TicketQuery.Parser

/-! # Parse trees

The grammar of the language, apart from the parser. An operand is one token or a chain in
parentheses, a clause is an operand or compares two of them, and a chain links clauses by
connectives from left to right. A query is a sequence of items. Trees keep their tokens and may be
ill-formed: they stand for something only if every token has the kind that its place asks for and
every operator has operands of the right sort. -/
namespace TicketQuery

mutual

inductive Operand where
  | leaf (t : Token)
  | group (opening : Token) (inner : Chain) (closing : Token)

inductive Clause where
  | operand (p : Operand)
  | comparison (left : Operand) (op : Token) (right : Operand)

inductive Chain where
  | clause (q : Clause)
  | linked (left : Chain) (op : Token) (right : Clause)

end

/-- What a single token stands for as an operand; digits for an integer of 63 bits. -/
def Token.expr? (t : Token) : Option Expr :=
  match t.kind with
  | .ident => some (.field t.text)
  | .string => some (.literal (.text t.text))
  | .int => (integerOf? t.text).map fun n => .literal (.integer n)
  | _ => none

/-- A comparison relates a field to a literal. -/
def TokenKind.compare? (op : TokenKind) (left right : Expr) : Option Expr :=
  match op, left, right with
  | .operator (.comparison c), .field name, .literal v =>
    some (.node (.comparison c) (.field name) (.literal v))
  | _, _, _ => none

/-- A connective links two conditions. -/
def TokenKind.link? (op : TokenKind) (left right : Expr) : Option Expr :=
  match op with
  | .operator (.connective k) =>
    if left.isNode ∧ right.isNode then some (.node (.connective k) left right) else none
  | _ => none

mutual

/-- The expression that an operand stands for; parentheses leave no node. -/
def Operand.expr? : Operand → Option Expr
  | .leaf t => t.expr?
  | .group o e c => if o.kind = .leftParen ∧ c.kind = .rightParen then e.expr? else none

def Clause.expr? : Clause → Option Expr
  | .operand p => p.expr?
  | .comparison l op r => do op.kind.compare? (← l.expr?) (← r.expr?)

def Chain.expr? : Chain → Option Expr
  | .clause q => q.expr?
  | .linked l op r => do op.kind.link? (← l.expr?) (← r.expr?)

end

mutual

def Operand.tokens : Operand → List Token
  | .leaf t => [t]
  | .group o e c => o :: (e.tokens ++ [c])

def Clause.tokens : Clause → List Token
  | .operand p => p.tokens
  | .comparison l op r => l.tokens ++ op :: r.tokens

def Chain.tokens : Chain → List Token
  | .clause q => q.tokens
  | .linked l op r => l.tokens ++ op :: r.tokens

end

inductive Item where
  | modifier (keyword operand : Token)
  | expression (e : Chain)

namespace Item

def tokens : Item → List Token
  | modifier k t => [k, t]
  | expression e => e.tokens

/-- What a sort order or a limit says. -/
def modifier? (keyword operand : Token) : Option Modifier :=
  match keyword.kind, operand.kind with
  | .orderBy, .ident => some ⟨.orderBy, .field operand.text⟩
  | .limit, .int => (integerOf? operand.text).map fun n => ⟨.limit, .literal (.integer n)⟩
  | _, _ => none

def value? : Item → Option (Modifier ⊕ Expr)
  | modifier k t => (modifier? k t).map .inl
  | expression e => e.expr?.map .inr

end Item

/-- The modifiers in order, and the last of the expressions. -/
def Query.ofValues (values : List (Modifier ⊕ Expr)) : Query where
  condition := (values.filterMap Sum.getRight?).getLast?
  modifiers := values.filterMap Sum.getLeft?

def Query.ofItems (items : List Item) : Query := .ofValues (items.filterMap Item.value?)

/-- Every item stands for something. -/
def AllValid (items : List Item) : Prop := ∀ i ∈ items, ∃ v, i.value? = some v

/-- The items are valid, and written one after the other they are the tokens. -/
structure Derives (items : List Item) (ts : List Token) : Prop where
  valid : AllValid items
  tokens_eq : items.flatMap Item.tokens = ts

theorem allValid_cons {i : Item} {items : List Item} (h : AllValid (i :: items)) :
    (∃ v, i.value? = some v) ∧ AllValid items :=
  ⟨h i (by simp), fun j hj => h j (List.mem_cons_of_mem _ hj)⟩

def TokenKind.IsComparison (k : TokenKind) : Prop := ∃ c, k = .operator (.comparison c)

def TokenKind.IsOperator (k : TokenKind) : Prop := ∃ op, k = .operator op

theorem TokenKind.IsComparison.isOperator {k : TokenKind} (h : k.IsComparison) : k.IsOperator :=
  h.elim fun c hc => ⟨.comparison c, hc⟩

/-- A connective is no comparison. -/
theorem TokenKind.not_isComparison {k : TokenKind} {c : Connective}
    (h : k = .operator (.connective c)) : ¬ k.IsComparison := by
  rintro ⟨c', hc⟩
  cases h.symm.trans hc

theorem TokenKind.compare?_eq_some {op : TokenKind} {left right e : Expr}
    (h : op.compare? left right = some e) : ∃ c name v, op = .operator (.comparison c) ∧
      left = .field name ∧ right = .literal v ∧
        e = .node (.comparison c) (.field name) (.literal v) := by
  unfold compare? at h
  split at h
  · exact ⟨_, _, _, rfl, rfl, rfl, (Option.some.inj h).symm⟩
  · cases h

theorem TokenKind.link?_eq_some {op : TokenKind} {left right e : Expr}
    (h : op.link? left right = some e) : ∃ k, op = .operator (.connective k) ∧
      left.isNode = true ∧ right.isNode = true ∧ e = .node (.connective k) left right := by
  unfold link? at h
  split at h
  · split at h
    · next hn => exact ⟨_, rfl, hn.1, hn.2, (Option.some.inj h).symm⟩
    · cases h
  · cases h

theorem Operand.expr?_group_eq_some {o c : Token} {e : Chain} {x : Expr}
    (h : (Operand.group o e c).expr? = some x) :
    o.kind = .leftParen ∧ c.kind = .rightParen ∧ e.expr? = some x := by
  simpa [Operand.expr?, and_assoc] using h

theorem Clause.expr?_comparison_eq_some {l r : Operand} {op : Token} {x : Expr}
    (h : (Clause.comparison l op r).expr? = some x) :
    ∃ c name v, op.kind = .operator (.comparison c) ∧ l.expr? = some (.field name) ∧
      r.expr? = some (.literal v) ∧ x = .node (.comparison c) (.field name) (.literal v) := by
  obtain ⟨y, hl, h⟩ := Option.bind_eq_some_iff.1 h
  obtain ⟨z, hr, h⟩ := Option.bind_eq_some_iff.1 h
  obtain ⟨c, name, v, hop, rfl, rfl, rfl⟩ := TokenKind.compare?_eq_some h
  exact ⟨c, name, v, hop, hl, hr, rfl⟩

theorem Chain.expr?_linked_eq_some {l : Chain} {op : Token} {r : Clause} {x : Expr}
    (h : (Chain.linked l op r).expr? = some x) :
    ∃ k y z, op.kind = .operator (.connective k) ∧ l.expr? = some y ∧ r.expr? = some z ∧
      y.isNode = true ∧ z.isNode = true ∧ x = .node (.connective k) y z := by
  obtain ⟨y, hl, h⟩ := Option.bind_eq_some_iff.1 h
  obtain ⟨z, hr, h⟩ := Option.bind_eq_some_iff.1 h
  obtain ⟨k, hop, hy, hz, rfl⟩ := TokenKind.link?_eq_some h
  exact ⟨k, y, z, hop, hl, hr, hy, hz, rfl⟩

/-- A token that stands for something by itself is no operator, parenthesis or keyword. -/
theorem Token.kind_of_expr?_eq_some {t : Token} {x : Expr} (h : t.expr? = some x) :
    t.kind = .ident ∨ t.kind = .string ∨ t.kind = .int := by
  unfold Token.expr? at h
  split at h <;> simp_all

end TicketQuery
