import TicketQuery.Proofs.ConditionReading
import TicketQuery.Proofs.Truth

/-! # What filters and conditions mean

The leaves of a filter and of its SQL condition, and the truth of the whole for every assignment of
truth values to the leaves. Leaves are counted from left to right, so equal tests at two places may
get different values. -/
namespace TicketQuery

namespace Filter

mutual

def leaves : Filter → List Filter
  | combined _ fs => leavesOfAll fs
  | stored path op v => [stored path op v]
  | custom collection name op v => [custom collection name op v]

def leavesOfAll : List Filter → List Filter
  | [] => []
  | f :: fs => f.leaves ++ leavesOfAll fs

end

mutual

/-- The truth value, given those of the leaves by their number. -/
def truth : Filter → (Nat → Truth) → Truth
  | combined k fs, v => k.truthOfAll (truths fs v)
  | stored .., v => v 0
  | custom .., v => v 0

def truths : List Filter → (Nat → Truth) → List Truth
  | [], _ => []
  | f :: fs, v => f.truth v :: truths fs fun i => v (f.leaves.length + i)

end

end Filter

namespace SqlCondition

/-- The tests that look at the ticket. -/
def leaves : SqlCondition → List SqlTest
  | test .always => []
  | test t => [t]
  | combined _ left right => left.leaves ++ right.leaves

def truth : SqlCondition → (Nat → Truth) → Truth
  | test .always, _ => .yes
  | test _, v => v 0
  | combined k left right, v =>
    k.truth (left.truth v) (right.truth fun i => v (left.leaves.length + i))

def truths : List SqlCondition → (Nat → Truth) → List Truth
  | [], _ => []
  | c :: cs, v => c.truth v :: truths cs fun i => v (c.leaves.length + i)

theorem leaves_join (k : Connective) (cs : List SqlCondition) :
    (join k cs).leaves = cs.flatMap leaves := by
  have h : ∀ (cs : List SqlCondition) (c : SqlCondition),
      (cs.foldl (combined k) c).leaves = c.leaves ++ cs.flatMap leaves := by
    intro cs
    induction cs with
    | nil => simp
    | cons d cs ih =>
      intro c
      rw [List.foldl_cons, ih, leaves, List.flatMap_cons, List.append_assoc]
  cases cs with
  | nil => rfl
  | cons c cs => exact h cs c

theorem truth_foldl (k : Connective) (cs : List SqlCondition) (c : SqlCondition)
    (v : Nat → Truth) : (cs.foldl (combined k) c).truth v =
      (truths cs fun i => v (c.leaves.length + i)).foldl k.truth (c.truth v) := by
  induction cs generalizing c with
  | nil => rfl
  | cons d cs ih =>
    rw [List.foldl_cons, ih, truths, List.foldl_cons]
    simp only [truth, leaves, List.length_append, Nat.add_assoc]

/-- Operands joined from left to right are as true as all of them at once. -/
theorem truth_join (k : Connective) (cs : List SqlCondition) (v : Nat → Truth) :
    (join k cs).truth v = k.truthOfAll (truths cs v) := by
  cases cs with
  | nil => cases k <;> rfl
  | cons c cs => rw [join, truth_foldl, Connective.foldl_truth, truths]

mutual

theorem leaves_ofFilter (ignoreCase : Bool) : ∀ f : Filter,
    (ofFilter ignoreCase f).leaves.map test = f.leaves.map (ofFilter ignoreCase)
  | .combined k fs => by
    rw [ofFilter, leaves_join, Filter.leaves, leaves_ofFilters ignoreCase fs]
  | .stored .. => rfl
  | .custom .. => rfl

theorem leaves_ofFilters (ignoreCase : Bool) : ∀ fs : List Filter,
    ((ofFilters ignoreCase fs).flatMap leaves).map test =
      (Filter.leavesOfAll fs).map (ofFilter ignoreCase)
  | [] => rfl
  | f :: fs => by
    rw [ofFilters, List.flatMap_cons, List.map_append, leaves_ofFilter ignoreCase f,
      leaves_ofFilters ignoreCase fs, Filter.leavesOfAll, List.map_append]

end

theorem length_leaves_ofFilter (ignoreCase : Bool) (f : Filter) :
    (ofFilter ignoreCase f).leaves.length = f.leaves.length := by
  have h := congrArg List.length (leaves_ofFilter ignoreCase f)
  rwa [List.length_map, List.length_map] at h

mutual

theorem truth_ofFilter (ignoreCase : Bool) : ∀ (f : Filter) (v : Nat → Truth),
    (ofFilter ignoreCase f).truth v = f.truth v
  | .combined k fs, v => by
    rw [ofFilter, truth_join, Filter.truth, truths_ofFilters ignoreCase fs]
  | .stored .., _ => rfl
  | .custom .., _ => rfl

theorem truths_ofFilters (ignoreCase : Bool) : ∀ (fs : List Filter) (v : Nat → Truth),
    truths (ofFilters ignoreCase fs) v = Filter.truths fs v
  | [], _ => rfl
  | f :: fs, v => by
    rw [ofFilters, truths, Filter.truths, truth_ofFilter ignoreCase f,
      length_leaves_ofFilter, truths_ofFilters ignoreCase fs]

end

/-- What SQL reads in the written condition of a filter has the tests of the filter's leaves, in
their order, and the filter's truth value whatever theirs are. -/
theorem exists_read_pieces_ofFilter (ignoreCase : Bool) (f : Filter) :
    ∃ c, read (ofFilter ignoreCase f).pieces = some c ∧
      c.leaves.map test = f.leaves.map (ofFilter ignoreCase) ∧ ∀ v, c.truth v = f.truth v :=
  ⟨_, read_pieces _, leaves_ofFilter ignoreCase f, truth_ofFilter ignoreCase f⟩

end SqlCondition

end TicketQuery
