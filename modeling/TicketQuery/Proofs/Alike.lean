import TicketQuery.Select
import Mathlib.Data.List.Forall2

/-! # Queries that differ in their strings

Two queries are alike if they differ at most in the contents of strings, and there only by pairs of
a given relation. The conditions made of them are alike in the same way, so either both have a
statement or both have the same fault. -/
namespace TicketQuery

inductive Literal.Alike (R : String → String → Prop) : Literal → Literal → Prop where
  | refl (v : Literal) : Alike R v v
  | text {s t : String} (h : R s t) : Alike R (.text s) (.text t)

inductive Expr.Alike (R : String → String → Prop) : Expr → Expr → Prop where
  | field (name : String) : Alike R (.field name) (.field name)
  | literal {v w : Literal} (h : v.Alike R w) : Alike R (.literal v) (.literal w)
  | node (op : Operator) {left right left' right' : Expr} (hl : Alike R left left')
      (hr : Alike R right right') : Alike R (.node op left right) (.node op left' right')

structure Modifier.Alike (R : String → String → Prop) (m n : Modifier) : Prop where
  kind : m.kind = n.kind
  operand : m.operand.Alike R n.operand

structure Query.Alike (R : String → String → Prop) (q r : Query) : Prop where
  condition : Option.Rel (Expr.Alike R) q.condition r.condition
  modifiers : List.Forall₂ (Modifier.Alike R) q.modifiers r.modifiers

/-- What a statement has in the place of related strings: the strings themselves, or the patterns
of the texts that contain them. -/
inductive InStatement (R : String → String → Prop) : String → String → Prop where
  | text {s t : String} (h : R s t) : InStatement R s t
  | pattern {s t : String} (h : R s t) :
      InStatement R (containsPattern (.text s)) (containsPattern (.text t))

inductive SqlValue.Alike (S : String → String → Prop) : SqlValue → SqlValue → Prop where
  | refl (x : SqlValue) : Alike S x x
  | text {s t : String} (h : S s t) : Alike S (.text s) (.text t)

/-- Members are those of one collection. -/
inductive SqlTest.Alike (S : String → String → Prop) (collection : String) :
    SqlTest → SqlTest → Prop where
  | always : Alike S collection .always .always
  | column (name : String) (op : SqlOperator) {x y : SqlValue} (h : x.Alike S y) :
      Alike S collection (.column name op x) (.column name op y)
  | member (name : String) (op : SqlOperator) {x y : SqlValue} (h : x.Alike S y) :
      Alike S collection (.member collection name op x) (.member collection name op y)

inductive SqlCondition.Alike (S : String → String → Prop) (collection : String) :
    SqlCondition → SqlCondition → Prop where
  | test {t u : SqlTest} (h : t.Alike S collection u) : Alike S collection (.test t) (.test u)
  | combined (k : Connective) {left right left' right' : SqlCondition}
      (hl : Alike S collection left left') (hr : Alike S collection right right') :
      Alike S collection (.combined k left right) (.combined k left' right')

structure Select.Alike (S : String → String → Prop) (collection : String) (s t : Select) :
    Prop where
  table : s.table = t.table
  condition : Option.Rel (SqlCondition.Alike S collection) s.condition t.condition
  orderBy : s.orderBy = t.orderBy
  limit : s.limit = t.limit

/-- Faults of one kind. Apart from the condition, they do not depend on strings. -/
def SelectFault.SameKind : SelectFault → SelectFault → Prop
  | notCondition _, notCondition _ => True
  | customOrdering field, customOrdering field' => field = field'
  | negativeLimit m, negativeLimit n => m = n
  | _, _ => False

variable {R S : String → String → Prop} {collection : String}

theorem Expr.alike_refl (e : Expr) : e.Alike R e := by
  induction e with
  | field name => exact .field name
  | literal v => exact .literal (.refl v)
  | node op _ _ ihl ihr => exact .node op ihl ihr

theorem Query.alike_refl (q : Query) : q.Alike R q where
  condition := by
    cases q.condition with
    | none => exact .none
    | some e => exact .some e.alike_refl
  modifiers := List.forall₂_same.2 fun m _ => ⟨rfl, m.operand.alike_refl⟩

theorem Literal.Alike.operand {v w : Literal} (h : v.Alike R w) (op : Comparison) :
    (SqlCondition.operand op v).Alike (InStatement R) (SqlCondition.operand op w) := by
  cases h with
  | refl => exact .refl _
  | text h =>
    by_cases hop : op = .like
    · simp only [SqlCondition.operand, if_pos hop]
      exact .text (.pattern h)
    · simp only [SqlCondition.operand, if_neg hop]
      exact .text (.text h)

theorem Expr.Alike.isNode_eq {e e' : Expr} (h : e.Alike R e') : e.isNode = e'.isNode := by
  cases h <;> rfl

theorem Modifier.Alike.field?_eq {m n : Modifier} (h : m.Alike R n) : m.field? = n.field? := by
  have ho := h.operand
  rw [Modifier.field?, Modifier.field?, h.kind]
  generalize m.operand = e at ho
  generalize n.operand = e' at ho
  cases ho with
  | field => rfl
  | literal => cases n.kind <;> rfl
  | node => cases n.kind <;> rfl

theorem Modifier.Alike.limit?_eq {m n : Modifier} (h : m.Alike R n) : m.limit? = n.limit? := by
  have ho := h.operand
  rw [Modifier.limit?, Modifier.limit?, h.kind]
  generalize m.operand = e at ho
  generalize n.operand = e' at ho
  cases ho with
  | field => rfl
  | literal hv => cases hv <;> cases n.kind <;> rfl
  | node => cases n.kind <;> rfl

/-- What alike modifiers give in order, if it does not depend on strings. -/
theorem filterMap_eq_of_alike {α : Type} {f : Modifier → Option α}
    (hf : ∀ {m n : Modifier}, m.Alike R n → f m = f n) {ms ns : List Modifier}
    (h : List.Forall₂ (Modifier.Alike R) ms ns) : ms.filterMap f = ns.filterMap f := by
  induction h with
  | nil => rfl
  | cons hmn _ ih => rw [List.filterMap_cons, List.filterMap_cons, hf hmn, ih]

namespace SqlCondition

theorem join_alike (k : Connective) {cs ds : List SqlCondition}
    (h : List.Forall₂ (Alike S collection) cs ds) :
    (join k cs).Alike S collection (join k ds) := by
  have hfold : ∀ {cs ds : List SqlCondition}, List.Forall₂ (Alike S collection) cs ds →
      ∀ {c d : SqlCondition}, c.Alike S collection d →
        (cs.foldl (combined k) c).Alike S collection (ds.foldl (combined k) d) := by
    intro cs ds h
    induction h with
    | nil => exact fun hc => hc
    | cons hcd _ ih => exact fun hc => ih (.combined k hc hcd)
  cases h with
  | nil => exact .test .always
  | cons hcd h => exact hfold h hcd

/-- The condition of an expression, if it is one. -/
def ofExpr (config : Config) (e : Expr) : Option SqlCondition :=
  (Filter.ofExpr config e).map (ofFilter config.ignoreCase)

theorem ofExpr_connective (config : Config) (k : Connective) (left right : Expr) :
    ofExpr config (.node (.connective k) left right) =
      some (join k ((ofExpr config left).toList ++ (ofExpr config right).toList)) := by
  simp [ofExpr, Filter.ofExpr, ofFilter, ofFilters_eq_map, Option.toList_map]

theorem ofComparison_alike (config : Config) (name : String) (c : Comparison) {v w : Literal}
    (h : v.Alike R w) :
    (ofFilter config.ignoreCase (Filter.ofComparison config name c v)).Alike (InStatement R)
      config.collection (ofFilter config.ignoreCase (Filter.ofComparison config name c w)) := by
  by_cases hc : config.IsCustom name
  · rw [Filter.ofComparison_of_isCustom c v hc, Filter.ofComparison_of_isCustom c w hc]
    exact .test (.member _ _ (h.operand c))
  · rw [Filter.ofComparison_of_not_isCustom c v hc, Filter.ofComparison_of_not_isCustom c w hc]
    exact .test (.column _ _ (h.operand c))

private theorem forall₂_toList {α : Type} {P : α → α → Prop} {a b : Option α}
    (h : Option.Rel P a b) : List.Forall₂ P a.toList b.toList := by
  cases h with
  | some h => exact .cons h .nil
  | none => exact .nil

theorem ofExpr_alike (config : Config) {e e' : Expr} (h : e.Alike R e') :
    Option.Rel (Alike (InStatement R) config.collection) (ofExpr config e) (ofExpr config e') := by
  induction h with
  | field => exact .none
  | literal => exact .none
  | node op hl hr ihl ihr =>
    cases op with
    | connective k =>
      rw [ofExpr_connective, ofExpr_connective]
      exact .some (join_alike k (List.rel_append (forall₂_toList ihl) (forall₂_toList ihr)))
    | comparison c =>
      cases hl with
      | field name =>
        cases hr with
        | literal hv => exact .some (ofComparison_alike config name c hv)
        | field => exact .none
        | node => exact .none
      | literal => exact .none
      | node => exact .none

end SqlCondition

theorem Query.Alike.orderBy?_eq {q r : Query} (h : q.Alike R r) : q.orderBy? = r.orderBy? :=
  congrArg List.getLast? (filterMap_eq_of_alike Modifier.Alike.field?_eq h.modifiers)

theorem Query.Alike.limit?_eq {q r : Query} (h : q.Alike R r) : q.limit? = r.limit? :=
  congrArg List.getLast? (filterMap_eq_of_alike Modifier.Alike.limit?_eq h.modifiers)

theorem SelectFault.sameKind_refl (f : SelectFault) : f.SameKind f := by
  cases f <;> trivial

namespace Select

/-- The statement of a query, once its order and its limit are known to be right. -/
theorem ofQuery_eq (config : Config) (q : Query) :
    ofQuery config q = (checkCondition q.condition).bind fun _ =>
      (q.orderBy?.mapM (orderColumn config)).bind fun orderBy =>
        (q.limit?.mapM rowLimit).bind fun limit =>
          .ok ⟨config.table, Filter.ofQuery config q, config.ignoreCase, orderBy, limit⟩ := rfl

private theorem exists_of_bind_eq_ok {α β : Type} {x : Except SelectFault α}
    {f : α → Except SelectFault β} {b : β} (h : x.bind f = .ok b) :
    ∃ a, x = .ok a ∧ f a = .ok b := by
  cases x with
  | error e => cases h
  | ok a => exact ⟨a, rfl, h⟩

theorem exists_of_ofQuery {config : Config} {q : Query} {s : Select}
    (h : ofQuery config q = .ok s) :
    ∃ orderBy limit, q.orderBy?.mapM (orderColumn config) = .ok orderBy ∧
      s = ⟨config.table, Filter.ofQuery config q, config.ignoreCase, orderBy, limit⟩ := by
  rw [ofQuery_eq] at h
  obtain ⟨_, -, h₁⟩ := exists_of_bind_eq_ok h
  obtain ⟨orderBy, horder, h₂⟩ := exists_of_bind_eq_ok h₁
  obtain ⟨limit, -, h₃⟩ := exists_of_bind_eq_ok h₂
  cases h₃
  exact ⟨orderBy, limit, horder, rfl⟩

theorem checkCondition_alike {e e' : Option Expr} (h : Option.Rel (Expr.Alike R) e e') :
    (checkCondition e = .ok () ∧ checkCondition e' = .ok ()) ∨
      ∃ f g, checkCondition e = .error f ∧ checkCondition e' = .error g ∧ f.SameKind g := by
  cases h with
  | none => exact .inl ⟨rfl, rfl⟩
  | @some e e' h =>
    by_cases hn : e.isNode = true
    · left
      have hn' := h.isNode_eq ▸ hn
      simp [checkCondition, hn, hn']
    · right
      have hn' := h.isNode_eq ▸ hn
      refine ⟨.notCondition e, .notCondition e', ?_, ?_, trivial⟩
      · simp only [checkCondition, if_neg hn]
      · simp only [checkCondition, if_neg hn']

theorem condition_alike (config : Config) {q r : Query} (h : q.Alike R r)
    (orderBy : Option String) (limit : Option Nat) :
    Option.Rel (SqlCondition.Alike (InStatement R) config.collection)
      (condition ⟨config.table, Filter.ofQuery config q, config.ignoreCase, orderBy, limit⟩)
      (condition ⟨config.table, Filter.ofQuery config r, config.ignoreCase, orderBy, limit⟩) := by
  have hc := h.condition
  simp only [condition, Filter.ofQuery]
  generalize q.condition = e at hc
  generalize r.condition = e' at hc
  cases hc with
  | none => exact .none
  | some he => exact SqlCondition.ofExpr_alike config he

/-- Alike queries have alike statements, or faults of one kind. -/
theorem ofQuery_alike (config : Config) {q r : Query} (h : q.Alike R r) :
    (∃ s t, ofQuery config q = .ok s ∧ ofQuery config r = .ok t ∧
      s.Alike (InStatement R) config.collection t) ∨
    ∃ f g, ofQuery config q = .error f ∧ ofQuery config r = .error g ∧ f.SameKind g := by
  rw [ofQuery_eq, ofQuery_eq, ← h.orderBy?_eq, ← h.limit?_eq]
  rcases checkCondition_alike h.condition with ⟨hq, hr⟩ | ⟨f, g, hq, hr, hfg⟩
  · rw [hq, hr]
    cases q.orderBy?.mapM (orderColumn config) with
    | error f => exact .inr ⟨f, f, rfl, rfl, f.sameKind_refl⟩
    | ok orderBy =>
      cases q.limit?.mapM rowLimit with
      | error f => exact .inr ⟨f, f, rfl, rfl, f.sameKind_refl⟩
      | ok limit =>
        exact .inl ⟨_, _, rfl, rfl, rfl, condition_alike config h orderBy limit, rfl, rfl⟩
  · rw [hq, hr]
    exact .inr ⟨f, g, rfl, rfl, hfg⟩

end Select

end TicketQuery
