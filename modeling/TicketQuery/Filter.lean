import TicketQuery.Config
import TicketQuery.Query

/-! # Filters

A filter is a condition on tickets that no longer knows fields, only the places where they are kept.
It has the shape of the expression it comes from: every connective gives one node, which keeps of
its operands those that are conditions. -/
namespace TicketQuery

inductive Filter where
  | combined (connective : Connective) (operands : List Filter)
  | stored (path : String) (op : Comparison) (value : Literal)
  /-- Some custom field with this name has a value that passes. -/
  | custom (collection name : String) (op : Comparison) (value : Literal)
  deriving Repr

namespace Filter

mutual

def decEq (f g : Filter) : Decidable (f = g) :=
  match f, g with
  | combined k fs, combined l gs =>
    haveI := decEqAll fs gs
    decidable_of_iff (k = l ∧ fs = gs) (by simp)
  | stored p c v, stored q d w => decidable_of_iff (p = q ∧ c = d ∧ v = w) (by simp)
  | custom m p c v, custom n q d w =>
    decidable_of_iff (m = n ∧ p = q ∧ c = d ∧ v = w) (by simp)
  | combined .., stored .. | combined .., custom .. | stored .., combined ..
  | stored .., custom .. | custom .., combined .. | custom .., stored .. =>
    isFalse (by intro h; cases h)

def decEqAll (fs gs : List Filter) : Decidable (fs = gs) :=
  match fs, gs with
  | [], [] => isTrue rfl
  | f :: fs, g :: gs =>
    haveI := decEq f g
    haveI := decEqAll fs gs
    decidable_of_iff (f = g ∧ fs = gs) (by simp)
  | [], _ :: _ | _ :: _, [] => isFalse (by intro h; cases h)

end

instance : DecidableEq Filter := decEq

/-- The filter of a comparison of a field with a value. -/
def ofComparison (config : Config) (field : String) (op : Comparison) (value : Literal) : Filter :=
  match config.path? field with
  | some path => stored path op value
  | none =>
    if isBuiltIn field then stored field op value else custom config.collection field op value

section

variable {config : Config} {field : String} (op : Comparison) (value : Literal)

theorem ofComparison_of_isCustom (h : config.IsCustom field) :
    ofComparison config field op value = custom config.collection field op value := by
  obtain ⟨hp, hb⟩ := Config.isCustom_iff.1 h
  simp [ofComparison, hp, hb]

theorem ofComparison_of_not_isCustom (h : ¬ config.IsCustom field) :
    ofComparison config field op value =
      stored ((config.fieldPaths[field]?).getD field) op value := by
  unfold ofComparison Config.path?
  cases hp : config.fieldPaths[field]? with
  | some path => rfl
  | none => simp [Config.isBuiltIn_of_not_isCustom h hp]

end

theorem ofComparison_cases (config : Config) (field : String) (op : Comparison) (value : Literal) :
    (∃ path, ofComparison config field op value = stored path op value) ∨
      ofComparison config field op value = custom config.collection field op value := by
  by_cases h : config.IsCustom field
  · exact .inr (ofComparison_of_isCustom op value h)
  · exact .inl ⟨_, ofComparison_of_not_isCustom op value h⟩

example : ofComparison {} "Key" .eq (.integer 1) = stored "Key" .eq (.integer 1) := by
  decide +kernel

/-- Operands of a connective that are no conditions are left out, and so are comparisons of anything
else than a field with a literal. -/
def ofExpr (config : Config) : Expr → Option Filter
  | .node (.connective k) left right =>
    some (combined k ((ofExpr config left).toList ++ (ofExpr config right).toList))
  | .node (.comparison c) (.field name) (.literal v) => some (ofComparison config name c v)
  | _ => none

def ofQuery (config : Config) (q : Query) : Option Filter := q.condition.bind (ofExpr config)

end Filter

end TicketQuery
