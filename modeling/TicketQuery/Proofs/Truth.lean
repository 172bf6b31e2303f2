import TicketQuery.Operator

/-! # Three-valued truth

The logic of SQL: where a value is missing, a comparison is neither true nor false. -/
namespace TicketQuery

inductive Truth where
  | no | unknown | yes
  deriving DecidableEq, Repr

namespace Truth

def and : Truth → Truth → Truth
  | no, _ | _, no => no
  | yes, yes => yes
  | _, _ => unknown

def or : Truth → Truth → Truth
  | yes, _ | _, yes => yes
  | no, no => no
  | _, _ => unknown

end Truth

namespace Connective

def truth : Connective → Truth → Truth → Truth
  | and => Truth.and
  | or => Truth.or

/-- All operands at once, in whatever order. No operands place no constraint. -/
def truthOfAll : Connective → List Truth → Truth
  | _, [] => .yes
  | and, ts => if .no ∈ ts then .no else if .unknown ∈ ts then .unknown else .yes
  | or, ts => if .yes ∈ ts then .yes else if .unknown ∈ ts then .unknown else .no

theorem truthOfAll_singleton (k : Connective) (t : Truth) : k.truthOfAll [t] = t := by
  cases k <;> cases t <;> rfl

/-- Two operands may be taken together first. -/
theorem truthOfAll_truth_cons (k : Connective) (s t : Truth) (ts : List Truth) :
    k.truthOfAll (k.truth s t :: ts) = k.truthOfAll (s :: t :: ts) := by
  cases k <;> cases s <;> cases t <;> simp [truthOfAll, truth, Truth.and, Truth.or]

theorem foldl_truth (k : Connective) (t : Truth) (ts : List Truth) :
    ts.foldl k.truth t = k.truthOfAll (t :: ts) := by
  induction ts generalizing t with
  | nil => exact (k.truthOfAll_singleton t).symm
  | cons s ts ih => rw [List.foldl_cons, ih, truthOfAll_truth_cons]

end Connective

end TicketQuery
