import TicketQuery.SqlCondition

/-! # Reading SQL conditions

How SQL reads a row of pieces, each test being one piece: AND binds more tightly than OR, and
both take their operands from left to right. Reading what a condition is written as gives the
condition back, so no pair of parentheses is left out that matters. -/
namespace TicketQuery

/-- What has been read since the last open parenthesis: the condition before the last OR, and the
one between it and the last AND. -/
structure ReadFrame where
  disjunct : Option SqlCondition := none
  conjunct : Option SqlCondition := none

namespace ReadFrame

/-- An operand with what AND links to it. -/
def conjoin (f : ReadFrame) (c : SqlCondition) : SqlCondition :=
  match f.conjunct with
  | none => c
  | some d => .combined .and d c

/-- All that has been read, with the last operand. -/
def close (f : ReadFrame) (c : SqlCondition) : SqlCondition :=
  match f.disjunct with
  | none => f.conjoin c
  | some d => .combined .or d (f.conjoin c)

/-- An operand and a connective behind it. -/
def link (f : ReadFrame) (c : SqlCondition) : Connective → ReadFrame
  | .and => { f with conjunct := some (f.conjoin c) }
  | .or => { disjunct := some (f.close c) }

end ReadFrame

/-- Either an operand is to come next, or one has just been read. The frames are those of the open
parentheses, the innermost first. -/
inductive ReadState where
  | start (inner : ReadFrame) (outer : List ReadFrame)
  | operand (inner : ReadFrame) (c : SqlCondition) (outer : List ReadFrame)

namespace ReadState

def step : ReadState → SqlPiece → Option ReadState
  | start f outer, .opening => some (start {} (f :: outer))
  | start f outer, .test t => some (operand f (.test t) outer)
  | operand f c outer, .connective k => some (start (f.link c k) outer)
  | operand f c (g :: outer), .closing => some (operand g (f.close c) outer)
  | _, _ => none

/-- The pieces lead from one state to the other. -/
def Runs (s : ReadState) (pieces : List SqlPiece) (s' : ReadState) : Prop :=
  pieces.foldlM step s = some s'

variable {s s' s'' : ReadState} {p : SqlPiece} {ps qs : List SqlPiece}

theorem Runs.nil (s : ReadState) : s.Runs [] s := rfl

theorem Runs.cons (h : s.step p = some s') (hr : s'.Runs ps s'') : s.Runs (p :: ps) s'' := by
  rw [Runs, List.foldlM_cons, h]
  exact hr

theorem Runs.append (h : s.Runs ps s') (hr : s'.Runs qs s'') : s.Runs (ps ++ qs) s'' := by
  have h : ps.foldlM step s = some s' := h
  rw [Runs, List.foldlM_append, h]
  exact hr

def finish : ReadState → Option SqlCondition
  | operand f c [] => some (f.close c)
  | _ => none

end ReadState

/-- The condition that a row of pieces means, if it is well-formed. -/
def SqlCondition.read (pieces : List SqlPiece) : Option SqlCondition :=
  (pieces.foldlM ReadState.step (.start {} [])).bind ReadState.finish

example : SqlCondition.read [.test .always, .connective .or, .test .always, .connective .and,
    .test .always] = some (.combined .or (.test .always)
      (.combined .and (.test .always) (.test .always))) := by decide

namespace SqlCondition

/-- The frame in which the right operand of a connective is read. -/
def frameBefore (left : SqlCondition) : Connective → ReadFrame
  | .and => { conjunct := some left }
  | .or => { disjunct := some left }

/-- Where reading a condition ends: its last operand has been read. -/
def lastRead (outer : List ReadFrame) : SqlCondition → ReadState
  | test t => .operand {} (test t) outer
  | combined k left right => .operand (left.frameBefore k) right outer

theorem close_frameBefore (left right : SqlCondition) (k : Connective) :
    (left.frameBefore k).close right = combined k left right := by
  cases k <;> rfl

theorem link_frameBefore (left right : SqlCondition) (k : Connective) :
    (left.frameBefore k).link right k = (combined k left right).frameBefore k := by
  cases k <;> rfl

theorem link_empty (c : SqlCondition) (k : Connective) :
    ({} : ReadFrame).link c k = c.frameBefore k := by
  cases k <;> rfl

/-- All of a condition is linked from the left where it needs no parentheses. -/
theorem step_lastRead {c : SqlCondition} {k : Connective} (h : c.isOpenOnLeft k = true)
    (outer : List ReadFrame) :
    (c.lastRead outer).step (.connective k) = some (.start (c.frameBefore k) outer) := by
  cases c with
  | test t => exact congrArg (fun f => some (ReadState.start f outer)) (link_empty (test t) k)
  | combined k' l r =>
    obtain rfl : k' = k := of_decide_eq_true h
    exact congrArg (fun f => some (ReadState.start f outer)) (link_frameBefore l r k')

theorem step_closing_lastRead (c : SqlCondition) (f : ReadFrame) (outer : List ReadFrame) :
    (c.lastRead (f :: outer)).step .closing = some (.operand f c outer) := by
  cases c with
  | test t => rfl
  | combined k l r =>
    exact congrArg (fun c => some (ReadState.operand f c outer)) (close_frameBefore l r k)

theorem runs_inParentheses {c : SqlCondition} {pieces : List SqlPiece}
    (h : ∀ outer, (ReadState.start {} outer).Runs pieces (c.lastRead outer)) (f : ReadFrame)
    (outer : List ReadFrame) :
    (ReadState.start f outer).Runs (inParentheses pieces) (.operand f c outer) := by
  have hc : ((c.lastRead (f :: outer)).Runs [.closing] (.operand f c outer)) :=
    .cons (step_closing_lastRead c f outer) (.nil _)
  exact .cons rfl ((h (f :: outer)).append hc)

theorem runs_left {left : SqlCondition}
    (h : ∀ outer, (ReadState.start {} outer).Runs left.pieces (left.lastRead outer))
    (k : Connective) (outer : List ReadFrame) :
    (ReadState.start {} outer).Runs
      ((if left.isOpenOnLeft k then left.pieces else inParentheses left.pieces) ++ [.connective k])
      (.start (left.frameBefore k) outer) := by
  by_cases ho : left.isOpenOnLeft k = true
  · rw [if_pos ho]
    exact (h outer).append (.cons (step_lastRead ho outer) (.nil _))
  · rw [if_neg ho]
    have hs : (ReadState.operand {} left outer).step (.connective k) =
        some (.start (left.frameBefore k) outer) := by
      rw [← link_empty]
      rfl
    exact (runs_inParentheses h {} outer).append (.cons hs (.nil _))

theorem runs_right {right : SqlCondition}
    (h : ∀ outer, (ReadState.start {} outer).Runs right.pieces (right.lastRead outer))
    (f : ReadFrame) (outer : List ReadFrame) :
    (ReadState.start f outer).Runs
      (if right.isOpenOnRight then right.pieces else inParentheses right.pieces)
      (.operand f right outer) := by
  by_cases ho : right.isOpenOnRight = true
  · rw [if_pos ho]
    cases right with
    | test t => exact .cons rfl (.nil _)
    | combined => cases ho
  · rw [if_neg ho]
    exact runs_inParentheses h f outer

theorem runs_pieces (c : SqlCondition) (outer : List ReadFrame) :
    (ReadState.start {} outer).Runs c.pieces (c.lastRead outer) := by
  induction c generalizing outer with
  | test t => exact .cons rfl (.nil _)
  | combined k left right ihl ihr =>
    have h := (runs_left ihl k outer).append (runs_right ihr (left.frameBefore k) outer)
    rwa [List.append_assoc, List.singleton_append] at h

theorem read_pieces (c : SqlCondition) : read c.pieces = some c := by
  have h : c.pieces.foldlM ReadState.step (.start {} []) = some (c.lastRead []) := runs_pieces c []
  rw [read, h, Option.bind_some]
  cases c with
  | test t => rfl
  | combined k left right => exact congrArg some (close_frameBefore left right k)

end SqlCondition

end TicketQuery
