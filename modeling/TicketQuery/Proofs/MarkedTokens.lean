import TicketQuery.Proofs.SqlScanner

/-! # What a statement names

PostgreSQL also takes a dollar sign with a number for a token, the mark of a value. With such tokens
every statement can be read, and what stands outside of `EXISTS (...)` is what the statement says of
the row itself. -/
namespace TicketQuery

namespace ScanState

/-- Between two tokens a dollar sign starts the mark of a value. -/
def stepMarked (s : ScanState) (c : Char) : Option (List SqlToken × ScanState) :=
  if s = between ∧ c = '$' then some ([], word ['$']) else s.step c

def runMarked (s : ScanState) : List Char → Option (List SqlToken × ScanState)
  | [] => some ([], s)
  | c :: cs => do
    let r ← s.stepMarked c
    let r' ← r.2.runMarked cs
    return (r.1 ++ r'.1, r'.2)

end ScanState

/-- The tokens of a text in which places of values may be marked. -/
def markedTokens (cs : List Char) : Option (List SqlToken) := do
  let r ← ScanState.between.runMarked cs
  let ts ← r.2.ended?
  return r.1 ++ ts

example : markedTokens "\"a\"= $1".toList =
    some [.name ['a'], .operator ['='], .word ['$', '1']] := by decide

namespace ScanState

/-- The characters lead from one state to the other and complete the tokens, marks among them. -/
def RunsMarked (s : ScanState) (cs : List Char) (ts : List SqlToken) (s' : ScanState) : Prop :=
  s.runMarked cs = some (ts, s')

variable {s s' s'' : ScanState} {c : Char} {cs ds : List Char} {ts us : List SqlToken}

theorem runsMarked_cons_iff : s.RunsMarked (c :: cs) ts s' ↔ ∃ us s₁ vs,
    s.stepMarked c = some (us, s₁) ∧ s₁.RunsMarked cs vs s' ∧ us ++ vs = ts := by
  simp [RunsMarked, runMarked, Option.bind_eq_some_iff]

theorem RunsMarked.append (h : s.RunsMarked cs ts s') (hr : s'.RunsMarked ds us s'') :
    s.RunsMarked (cs ++ ds) (ts ++ us) s'' := by
  induction cs generalizing s ts with
  | nil =>
    cases h
    exact hr
  | cons c cs ih =>
    obtain ⟨us, s₁, vs, hs, hcs, rfl⟩ := runsMarked_cons_iff.1 h
    exact runsMarked_cons_iff.2 ⟨us, s₁, _, hs, ih hcs, (List.append_assoc ..).symm⟩

/-- A character that starts some token starts no mark. -/
theorem stepMarked_of_step {r : List SqlToken × ScanState} (h : s.step c = some r) :
    s.stepMarked c = some r := by
  have hne : ¬ (s = between ∧ c = '$') := by
    rintro ⟨rfl, rfl⟩
    cases h
  rw [stepMarked, if_neg hne, h]

/-- Texts without marks are read as before. -/
theorem Runs.runsMarked (h : s.Runs cs ts s') : s.RunsMarked cs ts s' := by
  induction cs generalizing s ts with
  | nil => exact h
  | cons c cs ih =>
    simp only [Runs, run, Option.bind_eq_bind, Option.bind_eq_some_iff, Option.pure_def,
      Option.some.injEq, Prod.mk.injEq] at h
    obtain ⟨r, hs, r', hr, rfl, rfl⟩ := h
    exact runsMarked_cons_iff.2 ⟨_, _, _, stepMarked_of_step hs, ih hr, rfl⟩

/-- Before such a character, the token in front is as good as done. -/
theorem RunsMarked.of_ended? (h : s.ended? = some ts) (hc : c = ' ' ∨ c = ')')
    (hr : between.RunsMarked (c :: cs) us s') : s.RunsMarked (c :: cs) (ts ++ us) s' := by
  have hstep : ∀ s : ScanState, s.stepMarked c = s.step c := by
    intro s
    refine if_neg fun hs => ?_
    rcases hc with rfl | rfl <;> exact absurd hs.2 (by decide)
  obtain ⟨vs, s₁, ws, hs, hcs, rfl⟩ := runsMarked_cons_iff.1 hr
  refine runsMarked_cons_iff.2 ⟨ts ++ vs, s₁, ws, ?_, hcs, List.append_assoc ..⟩
  rw [hstep, step] at hs
  rw [hstep, step_of_ended? h hc, startNext, h, hs]
  rfl

end ScanState

open ScanState

theorem markedTokens_eq_some_iff {cs : List Char} {ts : List SqlToken} :
    markedTokens cs = some ts ↔ ∃ us s vs, between.RunsMarked cs us s ∧ s.ended? = some vs ∧
      us ++ vs = ts := by
  simp [markedTokens, Option.bind_eq_some_iff, RunsMarked]

theorem markedTokens_of_sqlTokens {cs : List Char} {ts : List SqlToken}
    (h : sqlTokens cs = some ts) : markedTokens cs = some ts := by
  obtain ⟨us, s, vs, hr, hs, rfl⟩ := sqlTokens_eq_some_iff.1 h
  exact markedTokens_eq_some_iff.2 ⟨us, s, vs, hr.runsMarked, hs, rfl⟩

theorem markedTokens_append {cs ds : List Char} {ts us : List SqlToken}
    (h : between.RunsMarked cs ts between) (h' : markedTokens ds = some us) :
    markedTokens (cs ++ ds) = some (ts ++ us) := by
  obtain ⟨vs, s, ws, hr, hs, rfl⟩ := markedTokens_eq_some_iff.1 h'
  exact markedTokens_eq_some_iff.2 ⟨_, s, ws, h.append hr, hs, List.append_assoc ..⟩

theorem markedTokens_append_of_delimited {cs ds : List Char} {ts us : List SqlToken}
    (h : markedTokens cs = some ts) (h' : markedTokens ds = some us) (hd : Delimited ds) :
    markedTokens (cs ++ ds) = some (ts ++ us) := by
  cases ds with
  | nil =>
    obtain rfl : us = [] := by
      cases h'
      rfl
    rw [List.append_nil, List.append_nil, h]
  | cons c ds =>
    obtain ⟨vs, s, ws, hr, hs, rfl⟩ := markedTokens_eq_some_iff.1 h
    obtain ⟨vs', s', ws', hr', hs', rfl⟩ := markedTokens_eq_some_iff.1 h'
    have hn : s.RunsMarked (c :: ds) (ws ++ vs') s' := .of_ended? hs (hd c ds rfl) hr'
    refine markedTokens_eq_some_iff.2 ⟨_, s', ws', hr.append hn, hs', ?_⟩
    simp only [List.append_assoc]

/-- Where a token stands: behind the word `EXISTS`, or within so many parentheses behind it. -/
inductive ExistsState where
  | outside
  | behind
  | inside (depth : Nat)
  deriving DecidableEq, Repr

namespace ExistsState

/-- The token, if it stands outside, and where the next one stands. -/
def step : ExistsState → SqlToken → List SqlToken × ExistsState
  | outside, t => if t = .word "EXISTS".toList then ([], behind) else ([t], outside)
  | behind, .sign '(' => ([], inside 0)
  | behind, t => ([t], outside)
  | inside depth, .sign '(' => ([], inside (depth + 1))
  | inside 0, .sign ')' => ([], outside)
  | inside (depth + 1), .sign ')' => ([], inside depth)
  | inside depth, _ => ([], inside depth)

/-- The tokens that stand outside. -/
def run (s : ExistsState) : List SqlToken → List SqlToken × ExistsState
  | [] => ([], s)
  | t :: ts =>
    let r := s.step t
    let r' := r.2.run ts
    (r.1 ++ r'.1, r'.2)

example : (markedTokens "\"a\" OR EXISTS (SELECT 1 FROM f(\"b\")) OR \"c\"".toList).map
    (fun ts => outside.run ts) =
      some ([.name ['a'], .word ['O', 'R'], .word ['O', 'R'], .name ['c']], outside) := by
  decide

theorem run_append (s : ExistsState) (ts us : List SqlToken) : s.run (ts ++ us) =
    ((s.run ts).1 ++ ((s.run ts).2.run us).1, ((s.run ts).2.run us).2) := by
  induction ts generalizing s with
  | nil => rfl
  | cons t ts ih => simp only [List.cons_append, run, ih, List.append_assoc]

theorem run_outside {ts : List SqlToken} (h : .word "EXISTS".toList ∉ ts) :
    outside.run ts = (ts, outside) := by
  induction ts with
  | nil => rfl
  | cons t ts ih =>
    simp only [List.mem_cons, not_or] at h
    have ht : outside.step t = ([t], outside) := if_neg fun he => h.1 he.symm
    rw [run, ht, ih h.2]
    rfl

theorem run_inside {ts : List SqlToken} (h : ∀ c, .sign c ∉ ts) (depth : Nat) :
    (inside depth).run ts = ([], inside depth) := by
  induction ts with
  | nil => rfl
  | cons t ts ih =>
    have ht : (inside depth).step t = ([], inside depth) := by
      cases t with
      | sign c => exact absurd List.mem_cons_self (h c)
      | word | operator | name | string => cases depth <;> rfl
    rw [run, ht, ih fun c hm => h c (List.mem_cons_of_mem t hm)]
    rfl

end ExistsState

end TicketQuery
