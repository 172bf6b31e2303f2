import Mathlib.Data.List.Forall2
import TicketQuery.Proofs.ConditionMeaning
import TicketQuery.Proofs.ParsedQuery

/-! # Filters keep the shape of their expressions

Trees of connectives are shown as rows of marks, in which every connective opens before its operands
and closes behind them. The row of a filter is that of its expression without the leaves that are no
comparisons of a field with a literal, and a row belongs to one filter only. Expressions that come
from a text have no other leaves. -/
namespace TicketQuery

inductive Mark (α : Type) where
  | opening (k : Connective)
  | leaf (a : α)
  | closing
  deriving DecidableEq, Repr

namespace Mark

variable {α β : Type}

/-- The mark with another leaf, or without the leaf it has. -/
def mapLeaf? (f : α → Option β) : Mark α → Option (Mark β)
  | opening k => some (opening k)
  | leaf a => (f a).map leaf
  | closing => some closing

/-- The same bracket, or related leaves. -/
inductive Rel (R : α → β → Prop) : Mark α → Mark β → Prop where
  | opening (k : Connective) : Rel R (.opening k) (.opening k)
  | leaf {a : α} {b : β} (h : R a b) : Rel R (.leaf a) (.leaf b)
  | closing : Rel R .closing .closing

theorem Rel.rightUnique {R : α → β → Prop} (h : Relator.RightUnique R) :
    Relator.RightUnique (Rel R) := by
  rintro _ _ _ (_ | hb | _) (_ | hc | _)
  · rfl
  · rw [h hb hc]
  · rfl

end Mark

/-- The marks of the connectives, with whatever they do not link as leaves. -/
def Expr.marks : Expr → List (Mark Expr)
  | .node (.connective k) left right => .opening k :: (left.marks ++ right.marks ++ [.closing])
  | e => [.leaf e]

namespace Filter

mutual

def marks : Filter → List (Mark Filter)
  | combined k fs => .opening k :: (marksOfAll fs ++ [.closing])
  | stored path op v => [.leaf (stored path op v)]
  | custom collection name op v => [.leaf (custom collection name op v)]

def marksOfAll : List Filter → List (Mark Filter)
  | [] => []
  | f :: fs => f.marks ++ marksOfAll fs

end

theorem marksOfAll_eq_flatMap (fs : List Filter) : marksOfAll fs = fs.flatMap marks := by
  induction fs with
  | nil => rfl
  | cons f fs ih => rw [marksOfAll, ih, List.flatMap_cons]

theorem marks_combined (k : Connective) (fs : List Filter) :
    (combined k fs).marks = .opening k :: (fs.flatMap marks ++ [.closing]) := by
  rw [marks, marksOfAll_eq_flatMap]

/-- No filter starts with a closing bracket. -/
theorem marks_append_ne_closing (f : Filter) (r s : List (Mark Filter)) :
    f.marks ++ r ≠ .closing :: s := by
  cases f <;> simp [marks]

mutual

/-- A row at the front of a list of marks belongs to one filter only. -/
theorem eq_of_marks_append : ∀ {f g : Filter} {r s : List (Mark Filter)},
    f.marks ++ r = g.marks ++ s → f = g ∧ r = s
  | .combined k fs, .combined l gs, r, s, h => by
    simp only [marks, List.cons_append, List.append_assoc, List.nil_append, List.cons.injEq,
      Mark.opening.injEq] at h
    obtain ⟨rfl, hrow⟩ := h
    obtain ⟨rfl, hr⟩ := eq_of_marksOfAll_append hrow
    exact ⟨rfl, hr⟩
  | .stored .., .stored .., r, s, h => by
    obtain ⟨hf, hr⟩ := List.cons.inj h
    exact ⟨Mark.leaf.inj hf, hr⟩
  | .custom .., .custom .., r, s, h => by
    obtain ⟨hf, hr⟩ := List.cons.inj h
    exact ⟨Mark.leaf.inj hf, hr⟩
  | .combined .., .stored .., _, _, h | .combined .., .custom .., _, _, h
  | .stored .., .combined .., _, _, h | .custom .., .combined .., _, _, h
  | .stored .., .custom .., _, _, h | .custom .., .stored .., _, _, h => by simp [marks] at h

/-- The operands of a connective reach up to its closing bracket. -/
theorem eq_of_marksOfAll_append : ∀ {fs gs : List Filter} {r s : List (Mark Filter)},
    marksOfAll fs ++ .closing :: r = marksOfAll gs ++ .closing :: s → fs = gs ∧ r = s
  | [], [], _, _, h => ⟨rfl, (List.cons.inj h).2⟩
  | [], g :: gs, r, s, h => by
    rw [marksOfAll, marksOfAll, List.append_assoc] at h
    exact absurd h.symm (marks_append_ne_closing g _ _)
  | f :: fs, [], r, s, h => by
    rw [marksOfAll, marksOfAll, List.append_assoc] at h
    exact absurd h (marks_append_ne_closing f _ _)
  | f :: fs, g :: gs, r, s, h => by
    rw [marksOfAll, marksOfAll, List.append_assoc, List.append_assoc] at h
    obtain ⟨rfl, hrow⟩ := eq_of_marks_append h
    obtain ⟨rfl, hr⟩ := eq_of_marksOfAll_append hrow
    exact ⟨rfl, hr⟩

end

theorem marks_ne_nil (f : Filter) : f.marks ≠ [] := by cases f <;> simp [marks]

/-- A row belongs to one filter, and the empty row to none. -/
theorem eq_of_marks_toList_eq {f g : Option Filter}
    (h : f.toList.flatMap marks = g.toList.flatMap marks) : f = g := by
  cases f with
  | none =>
    cases g with
    | none => rfl
    | some g => exact absurd (by simpa using h.symm) g.marks_ne_nil
  | some f =>
    cases g with
    | none => exact absurd (by simpa using h) f.marks_ne_nil
    | some g =>
      have h : f.marks ++ [] = g.marks ++ [] := by simpa using h
      rw [(eq_of_marks_append h).1]

end Filter

/-- The comparison of a field with a literal. -/
structure FieldTest where
  field : String
  op : Comparison
  value : Literal

def Expr.fieldTest? : Expr → Option FieldTest
  | .node (.comparison op) (.field name) (.literal v) => some ⟨name, op, v⟩
  | _ => none

/-- The place where a field is looked for: a configured path comes first, then the collection of
custom fields, and built-in fields are kept under their names. -/
inductive FieldTest.IsKeptAs (config : Config) (t : FieldTest) : Filter → Prop where
  | configured {path : String} (h : config.fieldPaths[t.field]? = some path) :
      IsKeptAs config t (.stored path t.op t.value)
  | custom (h : config.fieldPaths[t.field]? = none) (hb : t.field.map asciiSmall ∉ builtInFields) :
      IsKeptAs config t (.custom config.collection t.field t.op t.value)
  | builtIn (h : config.fieldPaths[t.field]? = none)
      (hb : t.field.map asciiSmall ∈ builtInFields) :
      IsKeptAs config t (.stored t.field t.op t.value)

theorem FieldTest.isKeptAs_rightUnique (config : Config) :
    Relator.RightUnique (IsKeptAs config) := by
  rintro t _ _ (⟨h⟩ | ⟨h, hb⟩ | ⟨h, hb⟩) (⟨h'⟩ | ⟨h', hb'⟩ | ⟨h', hb'⟩) <;>
    simp_all

theorem Filter.isKeptAs_ofComparison (config : Config) (field : String) (op : Comparison)
    (v : Literal) :
    FieldTest.IsKeptAs config ⟨field, op, v⟩ (ofComparison config field op v) := by
  by_cases h : config.IsCustom field
  · rw [ofComparison_of_isCustom op v h]
    exact .custom h.1 h.2
  · rw [ofComparison_of_not_isCustom op v h]
    cases hp : config.fieldPaths[field]? with
    | some path => exact .configured hp
    | none => exact .builtIn hp (Decidable.byContradiction fun hb => h ⟨hp, hb⟩)

namespace Filter

/-- Connectives keep their brackets, and of the other marks those are left that are comparisons of a
field with a literal. -/
theorem forall₂_marks_ofExpr (config : Config) (e : Expr) :
    List.Forall₂ (Mark.Rel (FieldTest.IsKeptAs config))
      (e.marks.filterMap (Mark.mapLeaf? Expr.fieldTest?))
      ((ofExpr config e).toList.flatMap marks) := by
  induction e with
  | field | literal => exact .nil
  | node op left right ihl ihr =>
    cases op with
    | connective k =>
      have hrow := List.rel_append (List.rel_append ihl ihr) (.cons .closing .nil)
      have h := List.Forall₂.cons (Mark.Rel.opening k) hrow
      simpa [Expr.marks, ofExpr, marks_combined, Mark.mapLeaf?, List.filterMap_cons] using h
    | comparison op =>
      cases left with
      | field name =>
        cases right with
        | literal v =>
          have hleaf := Mark.Rel.leaf (isKeptAs_ofComparison config name op v)
          have hmarks : (ofComparison config name op v).marks =
              [.leaf (ofComparison config name op v)] := by
            rcases ofComparison_cases config name op v with ⟨path, h⟩ | h <;> rw [h] <;> rfl
          simpa [Expr.marks, ofExpr, hmarks, Mark.mapLeaf?, Expr.fieldTest?] using hleaf
        | field | node => exact .nil
      | literal | node => exact .nil

/-- Every connective has two operands. -/
inductive IsBinary : Filter → Prop where
  | stored (path : String) (op : Comparison) (v : Literal) : IsBinary (.stored path op v)
  | custom (collection name : String) (op : Comparison) (v : Literal) :
      IsBinary (.custom collection name op v)
  | combined (k : Connective) {f g : Filter} (hf : IsBinary f) (hg : IsBinary g) :
      IsBinary (.combined k [f, g])

theorem isBinary_ofComparison (config : Config) (field : String) (op : Comparison) (v : Literal) :
    (ofComparison config field op v).IsBinary := by
  rcases ofComparison_cases config field op v with ⟨path, h⟩ | h
  · exact h ▸ .stored path op v
  · exact h ▸ .custom config.collection field op v

theorem length_leaves_ofComparison (config : Config) (field : String) (op : Comparison)
    (v : Literal) : (ofComparison config field op v).leaves.length = 1 := by
  rcases ofComparison_cases config field op v with ⟨path, h⟩ | h <;> rw [h] <;> rfl

end Filter

namespace Expr

/-- The number of comparisons, wherever they stand. -/
def comparisonCount : Expr → Nat
  | node (.comparison _) left right => left.comparisonCount + right.comparisonCount + 1
  | node (.connective _) left right => left.comparisonCount + right.comparisonCount
  | _ => 0

/-- No leaf of a condition is left out. -/
theorem IsCondition.isSome_mapLeaf? {e : Expr} (h : e.IsCondition) :
    ∀ m ∈ e.marks, (m.mapLeaf? fieldTest?).isSome := by
  induction h with
  | comparison => simp [marks, Mark.mapLeaf?, fieldTest?]
  | connective _ _ ihl ihr =>
    simp only [marks, List.forall_mem_cons, List.forall_mem_append]
    exact ⟨rfl, ⟨ihl, ihr⟩, rfl, by simp⟩

theorem IsCondition.exists_ofExpr (config : Config) {e : Expr} (h : e.IsCondition) :
    ∃ f, Filter.ofExpr config e = some f ∧ f.IsBinary ∧ f.leaves.length = e.comparisonCount := by
  induction h with
  | @comparison c name v _ _ =>
    exact ⟨_, rfl, Filter.isBinary_ofComparison config name c v,
      Filter.length_leaves_ofComparison config name c v⟩
  | @connective k left right _ _ ihl ihr =>
    obtain ⟨f, hf, hfb, hfl⟩ := ihl
    obtain ⟨g, hg, hgb, hgl⟩ := ihr
    refine ⟨.combined k [f, g], by simp [Filter.ofExpr, hf, hg], .combined k hfb hgb, ?_⟩
    simp [Filter.leaves, Filter.leavesOfAll, comparisonCount, hfl, hgl]

end Expr

namespace Filter

theorem ofQuery_isSome_iff (config : Config) {q : Query} (h : q.IsWritable) :
    (ofQuery config q).isSome ↔ ∃ e, q.condition = some e ∧ e.isNode = true := by
  obtain ⟨_ | e, ms⟩ := q
  · simp [ofQuery]
  have hw := h.condition e rfl
  simp only [ofQuery, Option.bind_some, Option.some.injEq, exists_eq_left']
  constructor
  · cases e with
    | field | literal => rintro ⟨⟩
    | node => exact fun _ => rfl
  · intro hn
    obtain ⟨f, hf, -⟩ := (hw.isCondition hn).exists_ofExpr config
    rw [hf]
    rfl

theorem forall₂_marks_ofQuery (config : Config) : ∀ q : Query,
    List.Forall₂ (Mark.Rel (FieldTest.IsKeptAs config))
      ((q.condition.toList.flatMap Expr.marks).filterMap (Mark.mapLeaf? Expr.fieldTest?))
      ((ofQuery config q).toList.flatMap marks)
  | ⟨none, _⟩ => .nil
  | ⟨some e, _⟩ => by simpa [ofQuery] using forall₂_marks_ofExpr config e

/-- The filter of a query that can be written has all of its comparisons. -/
theorem isBinary_of_ofQuery {config : Config} {q : Query} (h : q.IsWritable) {e : Expr}
    {f : Filter} (he : q.condition = some e) (hf : ofQuery config q = some f) :
    (∀ m ∈ e.marks, (m.mapLeaf? Expr.fieldTest?).isSome) ∧ f.IsBinary ∧
      f.leaves.length = e.comparisonCount := by
  obtain ⟨e', he', hn⟩ := (ofQuery_isSome_iff config h).1 (by rw [hf]; rfl)
  cases he.symm.trans he'
  have hc := (h.condition e he).isCondition hn
  obtain ⟨g, hg, hbinary, hcount⟩ := hc.exists_ofExpr config
  rw [ofQuery, he, Option.bind_some, hg] at hf
  cases hf
  exact ⟨hc.isSome_mapLeaf?, hbinary, hcount⟩

/-- The filter of any query is the one whose marks are those of the condition without its ill-formed
leaves. Of a query that comes from a text nothing is left out: a condition that is a node has a
filter, in which every connective has two operands and every comparison is a leaf. -/
theorem ofQuery_eq_iff_marks (config : Config) :
    (∀ (q : Query) (f : Option Filter), ofQuery config q = f ↔
      List.Forall₂ (Mark.Rel (FieldTest.IsKeptAs config))
        ((q.condition.toList.flatMap Expr.marks).filterMap (Mark.mapLeaf? Expr.fieldTest?))
        (f.toList.flatMap marks)) ∧
    ∀ text, let q := (Parser.ofText text).parse.1
      ((ofQuery config q).isSome ↔ ∃ e, q.condition = some e ∧ e.isNode = true) ∧
      ∀ e f, q.condition = some e → ofQuery config q = some f →
        (∀ m ∈ e.marks, (m.mapLeaf? Expr.fieldTest?).isSome) ∧ f.IsBinary ∧
          f.leaves.length = e.comparisonCount := by
  constructor
  · intro q f
    constructor
    · rintro rfl
      exact forall₂_marks_ofQuery config q
    · intro hf
      have hunique := (Mark.Rel.rightUnique (FieldTest.isKeptAs_rightUnique config)).forall₂
      exact eq_of_marks_toList_eq (hunique (forall₂_marks_ofQuery config q) hf)
  · intro text q
    have hq : q.IsWritable := (Parser.isWritable_parse (Parser.fitsKind_ofLexer _)).1
    exact ⟨ofQuery_isSome_iff config hq, fun e f he hf => isBinary_of_ofQuery hq he hf⟩

/-- Ill-formed leaves are left out of the first condition, and nothing is of the second. -/
theorem ofQuery_eq_iff_marks_mixed :
    let key : Expr := .node (.comparison .eq) (.field "key") (.literal (.text "A"))
    let points : Expr := .node (.comparison .gt) (.field "points") (.literal (.integer 3))
    let bare : Expr := .node (.comparison .eq) (.field "summary") (.field "bare")
    let nested : Expr := .node (.comparison .ne) (.node (.connective .or) key key) points
    let kept : Filter := .combined .or [.combined .and [.stored "_id" .eq (.text "A")],
      .combined .and [.custom "fields" "points" .gt (.integer 3)]]
    let q := (Parser.ofText "key = \"A\" or (points > 3 and key = \"A\")").parse.1
    ofQuery {} { condition := some (.node (.connective .or)
      (.node (.connective .and) bare key) (.node (.connective .and) points nested)) } = some kept ∧
    ∃ e f, q.condition = some e ∧ ofQuery {} q = some f ∧ f.IsBinary ∧ f.leaves.length = 3 := by
  intro key points bare nested kept q
  have hkey : FieldTest.IsKeptAs {} ⟨"key", .eq, .text "A"⟩ (.stored "_id" .eq (.text "A")) :=
    .configured (by decide +kernel)
  have hpoints : FieldTest.IsKeptAs {} ⟨"points", .gt, .integer 3⟩
      (.custom "fields" "points" .gt (.integer 3)) :=
    .custom (by decide +kernel) (by decide +kernel)
  constructor
  · apply ((ofQuery_eq_iff_marks {}).1 _ _).2
    exact .cons (.opening .or) (.cons (.opening .and) (.cons (.leaf hkey) (.cons .closing
      (.cons (.opening .and) (.cons (.leaf hpoints) (.cons .closing (.cons .closing .nil)))))))
  · let e : Expr := .node (.connective .or) key (.node (.connective .and) points key)
    have he : q.condition = some e := by decide +kernel
    have hs : (ofQuery {} q).isSome := by
      rw [((ofQuery_eq_iff_marks {}).2 _).1]
      exact ⟨e, he, rfl⟩
    obtain ⟨f, hf⟩ := Option.isSome_iff_exists.1 hs
    obtain ⟨-, hbinary, hcount⟩ := ((ofQuery_eq_iff_marks {}).2 _).2 e f he hf
    exact ⟨e, f, he, hf, hbinary, hcount⟩

end Filter

end TicketQuery
