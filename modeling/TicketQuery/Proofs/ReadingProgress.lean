import TicketQuery.Proofs.ParserCompleteness

/-! # The parser goes forward

The parser is run by rules that keep a trace of the calls of `expression` and of the turns of its
two loops. A call that is made inside another one finds fewer tokens than that one did, no turn
leaves all tokens it found, and nothing is read twice: there are as many advances as tokens. One
more is made if an expression is asked for where the text has ended. -/
namespace TicketQuery

/-- No token is left. The current one is `eof` then, and so is each one after it. -/
def Cursor.AtEnd (c : Cursor) : Prop := c.unread = []

instance (c : Cursor) : Decidable c.AtEnd := inferInstanceAs (Decidable (_ = _))

/-- A call of `expression`: where it is entered, and where those are that are made before it has
ended, however deep inside each other. -/
structure Call where
  entry : Cursor
  inner : List Cursor

/-- A turn of a loop: where it starts, and where the next one would. -/
structure Turn where
  before : Cursor
  after : Cursor

structure Trace where
  calls : List Call := []
  turns : List Turn := []

namespace Trace

def followedBy (t u : Trace) : Trace := ⟨t.calls ++ u.calls, t.turns ++ u.turns⟩

/-- All that is done in a call which is entered at the cursor. -/
def inCall (c : Cursor) (t : Trace) : Trace := ⟨⟨c, t.calls.map Call.entry⟩ :: t.calls, t.turns⟩

/-- All that is done in a turn and behind it. -/
def inTurn (before after : Cursor) (t : Trace) : Trace := ⟨t.calls, ⟨before, after⟩ :: t.turns⟩

end Trace

/-- What the parser can be asked to read from a cursor on. -/
inductive Task where
  | operand (c : Cursor)
  | expression (level : Precedence) (c : Cursor)
  | operations (level : Precedence) (left : Option Expr) (c : Cursor)

namespace Task

def start : Task → Cursor
  | operand c | expression _ c | operations _ _ c => c

def outcome : Task → Outcome
  | operand c => (TicketQuery.operand c).outcome
  | expression level c => (TicketQuery.expression level c).outcome
  | operations level left c => (TicketQuery.operations level left c).outcome

/-- What is done for a task, and what comes of it. -/
inductive Runs : Task → Trace → Outcome → Prop where
  | leaf {c : Cursor} {x : Expr} (h : c.current.expr? = some x) :
      Runs (operand c) {} ⟨some x, [], c⟩
  | wrong {c : Cursor} (hx : c.current.expr? = none) (hk : c.current.kind ≠ .leftParen) :
      Runs (operand c) {} ⟨none, [c.current.operandFault], c⟩
  | group {c : Cursor} {t : Trace} {o : Outcome} (hk : c.current.kind = .leftParen)
      (h : Runs (expression .lowest c.advance) t o) : Runs (operand c) t o.closeGroup
  | expression {level : Precedence} {c : Cursor} {t t' : Trace} {o o' : Outcome}
      (h : Runs (operand c) t o) (h' : Runs (operations level o.value o.cursor) t' o') :
      Runs (expression level c) ((t.followedBy t').inCall c) (o'.after o.faults)
  | stop {level : Precedence} {left : Option Expr} {c : Cursor} (h : c.EndsAt level) :
      Runs (operations level left c) {} ⟨left, [], c⟩
  | step {level : Precedence} {left : Option Expr} {c : Cursor} {op : Operator} {t t' : Trace}
      {o o' : Outcome} {joined : Joined} (hop : c.operator? = some op)
      (hl : level.rank < op.precedence.rank)
      (h : Runs (expression op.precedence c.advance.advance) t o)
      (hj : Joined.ofOperator op c.upcoming.span o.cursor.current.span left o.value = joined)
      (h' : Runs (operations level joined.value o.cursor) t' o') :
      Runs (operations level left c) ((t.followedBy t').inTurn c o.cursor)
        (o'.after (o.faults ++ joined.faults))

/-- The rules give what the parser gives. -/
theorem Runs.outcome_eq {task : Task} {t : Trace} {o : Outcome} (h : task.Runs t o) :
    o = task.outcome := by
  induction h with
  | leaf h => exact (outcome_operand_of_expr? h).symm
  | wrong hx hk => exact (outcome_operand_of_expr?_eq_none hx hk).symm
  | group hk _ ih => rw [ih, outcome, outcome, outcome_operand_group hk]
  | @expression level c t t' o o' _ _ ih ih' =>
    subst ih ih'
    exact (outcome_expression level c).symm
  | stop h => exact (outcome_operations_of_endsAt _ h).symm
  | @step level left c op t t' o o' joined hop hl _ hj _ ih ih' =>
    subst hj ih ih'
    exact (outcome_operations_of_operator left hop hl).symm

theorem exists_runs (task : Task) : ∃ t, task.Runs t task.outcome := by
  obtain ⟨hoperand, hexpression, hoperations⟩ := outcome_induction
    (P := fun c o => ∃ t, (operand c).Runs t o)
    (Q := fun level c o => ∃ t, (expression level c).Runs t o)
    (R := fun level left c o => ∃ t, (operations level left c).Runs t o)
    (fun _ _ hx => ⟨_, .leaf hx⟩)
    (fun _ hx hk => ⟨_, .wrong hx hk⟩)
    (fun _ _ hk ⟨_, h⟩ => ⟨_, .group hk h⟩)
    (fun _ _ _ _ ⟨_, h⟩ ⟨_, h'⟩ => ⟨_, .expression h h'⟩)
    (fun _ _ _ h => ⟨_, .stop h⟩)
    (fun _ _ _ _ _ _ hop hl ⟨_, h⟩ ⟨_, h'⟩ => ⟨_, .step hop hl h rfl h'⟩)
  cases task with
  | operand c => exact hoperand c
  | expression level c => exact hexpression level c
  | operations level left c => exact hoperations level left c

end Task

namespace Trace

/-- Calls find fewer tokens than the calls around them did, and turns leave fewer than they
found. -/
structure Descends (t : Trace) : Prop where
  calls : ∀ call ∈ t.calls, ∀ c ∈ call.inner, c.unread.length < call.entry.unread.length
  turns : ∀ turn ∈ t.turns, turn.after.unread.length < turn.before.unread.length

theorem Descends.nil : Descends {} := ⟨List.forall_mem_nil _, List.forall_mem_nil _⟩

theorem Descends.followedBy {t u : Trace} (ht : t.Descends) (hu : u.Descends) :
    (t.followedBy u).Descends :=
  ⟨List.forall_mem_append.2 ⟨ht.calls, hu.calls⟩, List.forall_mem_append.2 ⟨ht.turns, hu.turns⟩⟩

theorem Descends.inCall {t : Trace} (h : t.Descends) {c : Cursor}
    (hc : ∀ call ∈ t.calls, call.entry.unread.length < c.unread.length) :
    (t.inCall c).Descends := by
  refine ⟨List.forall_mem_cons.2 ⟨fun d hd => ?_, h.calls⟩, h.turns⟩
  obtain ⟨call, hcall, rfl⟩ := List.mem_map.1 hd
  exact hc call hcall

theorem Descends.inTurn {t : Trace} (h : t.Descends) {before after : Cursor}
    (hlt : after.unread.length < before.unread.length) : (t.inTurn before after).Descends :=
  ⟨h.calls, List.forall_mem_cons.2 ⟨hlt, h.turns⟩⟩

/-- An expression is asked for where the text has ended. -/
def MeetsEnd (t : Trace) : Prop := ∃ call ∈ t.calls, call.entry.AtEnd

instance (t : Trace) : Decidable t.MeetsEnd :=
  inferInstanceAs (Decidable (∃ call ∈ t.calls, call.entry.AtEnd))

theorem not_meetsEnd_nil : ¬ MeetsEnd {} := by
  rintro ⟨call, hcall, -⟩
  cases hcall

theorem meetsEnd_followedBy_iff {t u : Trace} :
    (t.followedBy u).MeetsEnd ↔ t.MeetsEnd ∨ u.MeetsEnd := by
  simp only [MeetsEnd, followedBy, List.mem_append, or_and_right, exists_or]

theorem meetsEnd_inCall_iff {t : Trace} {c : Cursor} :
    (t.inCall c).MeetsEnd ↔ c.AtEnd ∨ t.MeetsEnd := by
  simp only [MeetsEnd, inCall, List.mem_cons, or_and_right, exists_or, exists_eq_left]

end Trace

namespace Cursor

theorem not_atEnd_of_current {c : Cursor} (h : c.current.kind ≠ .eof) : ¬ c.AtEnd := by
  intro he
  have := length_unread_pos h
  rw [he] at this
  exact absurd this (Nat.lt_irrefl 0)

/-- The advances that led here and the tokens that are left, as many as there are tokens in all. -/
def tokenCount (c : Cursor) : ℕ := c.advances + c.unread.length

theorem tokenCount_advance {c : Cursor} (h : ¬ c.AtEnd) : c.advance.tokenCount = c.tokenCount := by
  have hpos := List.length_pos_iff.2 h
  have hadvance := c.length_unread_advance
  have hadvances : c.advance.advances = c.advances + 1 := rfl
  simp only [tokenCount]
  omega

theorem length_unread_advance_lt {c : Cursor} (h : ¬ c.AtEnd) :
    c.advance.unread.length < c.unread.length := by
  have hpos := List.length_pos_iff.2 h
  have hadvance := c.length_unread_advance
  omega

theorem not_atEnd_of_advance {c : Cursor} (h : ¬ c.advance.AtEnd) : ¬ c.AtEnd := by
  intro he
  refine h ?_
  rw [AtEnd, unread_advance, he]
  rfl

end Cursor

theorem Outcome.cursor_closeGroup (o : Outcome) : o.closeGroup.cursor = o.cursor ∨
    o.closeGroup.cursor = o.cursor.advance ∧ ¬ o.cursor.advance.AtEnd := by
  unfold closeGroup
  split
  · next hclose =>
    have hclose : o.cursor.advance.current.kind = .rightParen := hclose
    exact .inr ⟨rfl, Cursor.not_atEnd_of_current (by rw [hclose]; exact nofun)⟩
  · exact .inl rfl

namespace Task

/-- The calls that are made for a task find fewer tokens than this. Only an expression is a call
itself. -/
def bound : Task → ℕ
  | operand c => c.unread.length
  | expression _ c => c.unread.length + 1
  | operations _ _ c => c.unread.length

/-- From where a task starts to where it ends. -/
structure GoesForward (task : Task) (t : Trace) (o : Outcome) : Prop where
  descends : t.Descends
  entries : ∀ call ∈ t.calls, call.entry.unread.length < task.bound
  unread : o.cursor.unread.length ≤ task.start.unread.length
  tokenCount : o.cursor.tokenCount = task.start.tokenCount
  atEnd : o.cursor.AtEnd ↔ task.start.AtEnd ∨ t.MeetsEnd

namespace GoesForward

/-- Nothing is taken for the task. -/
theorem of_start {task : Task} {value : Option Expr} {faults : List Fault} :
    task.GoesForward {} ⟨value, faults, task.start⟩ :=
  ⟨.nil, List.forall_mem_nil _, Nat.le_refl _, rfl, by simp [Trace.not_meetsEnd_nil]⟩

theorem closeGroup {c : Cursor} {t : Trace} {o : Outcome} (hk : c.current.kind = .leftParen)
    (h : (expression .lowest c.advance).GoesForward t o) (hcall : c.advance.AtEnd → t.MeetsEnd) :
    (operand c).GoesForward t o.closeGroup := by
  have hc : ¬ c.AtEnd := Cursor.not_atEnd_of_current (by rw [hk]; exact nofun)
  have hadvance := Cursor.length_unread_advance_lt hc
  have hentries : ∀ call ∈ t.calls, call.entry.unread.length < c.unread.length :=
    fun call hm => Nat.lt_of_lt_of_le (h.entries call hm) hadvance
  have hunread : o.cursor.unread.length ≤ c.unread.length :=
    Nat.le_trans h.unread (Nat.le_of_lt hadvance)
  have hcount : o.cursor.tokenCount = c.tokenCount :=
    h.tokenCount.trans (Cursor.tokenCount_advance hc)
  have hend : o.cursor.AtEnd ↔ c.AtEnd ∨ t.MeetsEnd := by
    rw [h.atEnd, start, or_iff_right_of_imp hcall, or_iff_right hc]
  refine ⟨h.descends, hentries, ?_, ?_, ?_⟩
  all_goals
    rcases o.cursor_closeGroup with hcursor | ⟨hcursor, hlast⟩
    · rwa [hcursor]
    rw [hcursor]
  · exact Nat.le_trans (Cursor.length_unread_advance_le _) hunread
  · exact (Cursor.tokenCount_advance (Cursor.not_atEnd_of_advance hlast)).trans hcount
  · rw [start, ← hend]
    exact iff_of_false hlast (Cursor.not_atEnd_of_advance hlast)

theorem expression {level : Precedence} {c : Cursor} {t t' : Trace} {o o' : Outcome}
    (h : (operand c).GoesForward t o)
    (h' : (operations level o.value o.cursor).GoesForward t' o') :
    (Task.expression level c).GoesForward ((t.followedBy t').inCall c) (o'.after o.faults) := by
  have hunread : o.cursor.unread.length ≤ c.unread.length := h.unread
  have hentries : ∀ call ∈ (t.followedBy t').calls, call.entry.unread.length < c.unread.length :=
    List.forall_mem_append.2 ⟨h.entries, fun call hm =>
      Nat.lt_of_lt_of_le (h'.entries call hm) hunread⟩
  refine ⟨(h.descends.followedBy h'.descends).inCall hentries, ?_, ?_, ?_, ?_⟩
  · exact List.forall_mem_cons.2 ⟨Nat.lt_succ_self _, fun call hm =>
      Nat.lt_succ_of_lt (hentries call hm)⟩
  · exact Nat.le_trans h'.unread hunread
  · exact h'.tokenCount.trans h.tokenCount
  · have hfirst : o.cursor.AtEnd ↔ c.AtEnd ∨ t.MeetsEnd := h.atEnd
    rw [Outcome.cursor_after, h'.atEnd, Trace.meetsEnd_inCall_iff, Trace.meetsEnd_followedBy_iff]
    simp only [start, hfirst, or_assoc, or_self_left]

theorem step {level : Precedence} {left value : Option Expr} {c : Cursor} {op : Operator}
    {t t' : Trace} {o o' : Outcome} {faults : List Fault} (hop : c.operator? = some op)
    (h : (Task.expression op.precedence c.advance.advance).GoesForward t o)
    (hcall : c.advance.advance.AtEnd → t.MeetsEnd)
    (h' : (operations level value o.cursor).GoesForward t' o') :
    (operations level left c).GoesForward ((t.followedBy t').inTurn c o.cursor)
      (o'.after faults) := by
  have hk : c.advance.current.kind = .operator op := TokenKind.operator?_eq_some_iff.1 hop
  have hadvance : ¬ c.advance.AtEnd := Cursor.not_atEnd_of_current (by rw [hk]; exact nofun)
  have hc : ¬ c.AtEnd := Cursor.not_atEnd_of_advance hadvance
  have hoperand : c.advance.advance.unread.length + 1 < c.unread.length :=
    Nat.lt_of_le_of_lt (Cursor.length_unread_advance_lt hadvance)
      (Cursor.length_unread_advance_lt hc)
  have hright : o.cursor.unread.length ≤ c.advance.advance.unread.length := h.unread
  have hend : o.cursor.AtEnd ↔ t.MeetsEnd := by
    rw [h.atEnd, start, or_iff_right_of_imp hcall]
  refine ⟨(h.descends.followedBy h'.descends).inTurn (by omega), ?_, ?_, ?_, ?_⟩
  · refine List.forall_mem_append.2 ⟨fun call hm => ?_, fun call hm => ?_⟩
    · exact Nat.lt_trans (h.entries call hm) hoperand
    · have := h'.entries call hm
      simp only [bound] at this ⊢
      omega
  · have := h'.unread
    simp only [start, Outcome.cursor_after] at this ⊢
    omega
  · rw [Outcome.cursor_after, h'.tokenCount, start, h.tokenCount, start,
      Cursor.tokenCount_advance hadvance, Cursor.tokenCount_advance hc, start]
  · rw [Outcome.cursor_after, h'.atEnd, start, hend, start, or_iff_right hc]
    exact Trace.meetsEnd_followedBy_iff.symm

end GoesForward

theorem Runs.meetsEnd_of_atEnd {level : Precedence} {c : Cursor} {t : Trace} {o : Outcome}
    (h : (Task.expression level c).Runs t o) (hc : c.AtEnd) : t.MeetsEnd := by
  cases h with
  | expression => exact Trace.meetsEnd_inCall_iff.2 (.inl hc)

theorem Runs.goesForward {task : Task} {t : Trace} {o : Outcome} (h : task.Runs t o) :
    task.GoesForward t o := by
  induction h with
  | leaf | wrong | stop => exact .of_start
  | group hk h ih => exact .closeGroup hk ih h.meetsEnd_of_atEnd
  | expression _ _ ih ih' => exact .expression ih ih'
  | step hop _ h _ _ ih ih' => exact .step hop ih h.meetsEnd_of_atEnd ih'

end Task

namespace Cursor

theorem AtEnd.current_kind {c : Cursor} (h : c.AtEnd) : c.current.kind = .eof := by
  rw [current, h]
  rfl

theorem AtEnd.advance {c : Cursor} (h : c.AtEnd) : c.advance.AtEnd := by
  rw [AtEnd, unread_advance, h]
  rfl

/-- What is done for the statements from a cursor on, and what comes of it. -/
inductive RunsStatements : Cursor → Trace → Statements → Prop where
  | done {c : Cursor} (h : c.AtEnd) : RunsStatements c {} ⟨[], [], c⟩
  | modifier {c : Cursor} {kind : ModifierKind} {r : Statement c} {t : Trace} {s : Statements}
      (hk : c.current.kind = kind.keywordKind) (hr : Statement.modifier kind c = r)
      (h : RunsStatements r.cursor.advance t s) :
      RunsStatements c (t.inTurn c r.cursor.advance)
        ⟨r.result :: s.results, r.faults ++ s.faults, s.cursor⟩
  | condition {c : Cursor} {t t' : Trace} {o : Outcome} {s : Statements} (hc : ¬ c.AtEnd)
      (hk : ∀ kind : ModifierKind, c.current.kind ≠ kind.keywordKind)
      (h : (Task.expression .lowest c).Runs t o) (h' : RunsStatements o.cursor.advance t' s) :
      RunsStatements c ((t.followedBy t').inTurn c o.cursor.advance)
        ⟨.condition o.value :: s.results, o.faults ++ s.faults, s.cursor⟩

theorem not_atEnd_of_keyword {c : Cursor} {kind : ModifierKind}
    (h : c.current.kind = kind.keywordKind) : ¬ c.AtEnd := by
  refine not_atEnd_of_current ?_
  rw [h]
  cases kind <;> exact nofun

theorem statements_of_atEnd {c : Cursor} (h : c.AtEnd) : statements c = ⟨[], [], c⟩ := by
  have hu : c.unread = [] := h
  rw [statements, dif_pos hu]

theorem statements_of_not_atEnd {c : Cursor} (h : ¬ c.AtEnd) :
    statements c = ⟨(Statement.read c).result ::
        (statements (Statement.read c).cursor.advance).results,
      (Statement.read c).faults ++ (statements (Statement.read c).cursor.advance).faults,
      (statements (Statement.read c).cursor.advance).cursor⟩ := by
  have hu : c.unread ≠ [] := h
  rw [statements, dif_neg hu]

theorem statements_of_not_keyword {c : Cursor} (hc : ¬ c.AtEnd)
    (hk : ∀ kind : ModifierKind, c.current.kind ≠ kind.keywordKind) :
    statements c = ⟨.condition (expression .lowest c).value ::
        (statements (expression .lowest c).cursor.advance).results,
      (expression .lowest c).faults ++ (statements (expression .lowest c).cursor.advance).faults,
      (statements (expression .lowest c).cursor.advance).cursor⟩ := by
  obtain ⟨hresult, hfaults, hcursor⟩ := Statement.read_of_not_keyword (hk .orderBy) (hk .limit)
  rw [statements_of_not_atEnd hc, hresult, hfaults, hcursor]

theorem RunsStatements.eq_statements {c : Cursor} {t : Trace} {s : Statements}
    (h : c.RunsStatements t s) : s = statements c := by
  induction h with
  | done h => exact (statements_of_atEnd h).symm
  | modifier hk hr _ ih =>
    subst hr ih
    rw [statements_of_not_atEnd (not_atEnd_of_keyword hk), Statement.read_of_keyword hk]
  | condition hc hk h _ ih =>
    cases h.outcome_eq
    subst ih
    exact (statements_of_not_keyword hc hk).symm

theorem exists_runsStatements (c : Cursor) : ∃ t, c.RunsStatements t (statements c) := by
  induction c using statements.induct with
  | case1 c hu =>
    rw [statements_of_atEnd hu]
    exact ⟨_, .done hu⟩
  | case2 c hu r ih =>
    obtain ⟨t', h'⟩ := ih
    by_cases hk : ∃ kind : ModifierKind, c.current.kind = kind.keywordKind
    · obtain ⟨kind, hk⟩ := hk
      rw [statements_of_not_atEnd hu]
      exact ⟨_, .modifier hk (Statement.read_of_keyword hk).symm h'⟩
    have hk : ∀ kind : ModifierKind, c.current.kind ≠ kind.keywordKind := not_exists.1 hk
    have hcursor : r.cursor = (expression .lowest c).cursor :=
      (Statement.read_of_not_keyword (hk .orderBy) (hk .limit)).2.2
    rw [hcursor] at h'
    obtain ⟨t, h⟩ := Task.exists_runs (.expression .lowest c)
    rw [statements_of_not_keyword hu hk]
    exact ⟨_, .condition hu hk h h'⟩

/-- A modifier ends on its keyword or on the token behind that. -/
theorem cursor_modifier (kind : ModifierKind) (c : Cursor) :
    (Statement.modifier kind c).cursor = c ∨
      (Statement.modifier kind c).cursor = c.advance ∧ ¬ c.advance.AtEnd := by
  have hadvance (h : c.upcoming.kind ≠ .eof) : ¬ c.advance.AtEnd := not_atEnd_of_current h
  unfold Statement.modifier
  split
  · next hoperand =>
    refine .inr ⟨?_, hadvance (by rw [hoperand]; cases kind <;> decide)⟩
    cases kind with
    | orderBy => rfl
    | limit =>
      dsimp only
      unfold Parsed.integer
      split <;> rfl
  · dsimp only
    split
    · exact .inl rfl
    · next hends =>
      exact .inr ⟨rfl, hadvance fun he => hends (by rw [he]; rfl)⟩

/-- From a cursor to the end. -/
structure GoesToEnd (c : Cursor) (t : Trace) (s : Statements) : Prop where
  descends : t.Descends
  atEnd : s.cursor.AtEnd
  advances : s.cursor.advances = c.tokenCount + if t.MeetsEnd then 1 else 0

theorem GoesToEnd.of_atEnd {c : Cursor} (h : c.AtEnd) : c.GoesToEnd {} ⟨[], [], c⟩ := by
  refine ⟨.nil, h, ?_⟩
  rw [if_neg Trace.not_meetsEnd_nil, tokenCount, h]
  rfl

theorem GoesToEnd.modifier {c : Cursor} {kind : ModifierKind} {t : Trace} {s : Statements}
    {results : List StatementResult} {faults : List Fault} (hc : ¬ c.AtEnd)
    (h : (Statement.modifier kind c).cursor.advance.GoesToEnd t s) :
    c.GoesToEnd (t.inTurn c (Statement.modifier kind c).cursor.advance)
      ⟨results, faults, s.cursor⟩ := by
  have hlast : ¬ (Statement.modifier kind c).cursor.AtEnd ∧
      (Statement.modifier kind c).cursor.tokenCount = c.tokenCount := by
    rcases c.cursor_modifier kind with hcursor | ⟨hcursor, hadvance⟩
    · rw [hcursor]
      exact ⟨hc, rfl⟩
    · rw [hcursor]
      exact ⟨hadvance, tokenCount_advance hc⟩
  have hlt : (Statement.modifier kind c).cursor.advance.unread.length < c.unread.length :=
    Nat.lt_of_lt_of_le (length_unread_advance_lt hlast.1) (Statement.length_unread_le _)
  refine ⟨h.descends.inTurn hlt, h.atEnd, ?_⟩
  rw [h.advances, tokenCount_advance hlast.1, hlast.2]
  rfl

/-- If an expression has met the end, then one advance is too many, and nothing is left to do. -/
theorem GoesToEnd.condition {c : Cursor} {t t' : Trace} {o : Outcome} {s : Statements}
    {results : List StatementResult} {faults : List Fault} (hc : ¬ c.AtEnd)
    (h : (Task.expression .lowest c).GoesForward t o) (h' : o.cursor.advance.GoesToEnd t' s)
    (hlast : o.cursor.advance.AtEnd → t' = {}) :
    c.GoesToEnd ((t.followedBy t').inTurn c o.cursor.advance) ⟨results, faults, s.cursor⟩ := by
  have hpos : 0 < c.unread.length := List.length_pos_iff.2 hc
  have hunread : o.cursor.unread.length ≤ c.unread.length := h.unread
  have hcount : o.cursor.tokenCount = c.tokenCount := h.tokenCount
  have hend : o.cursor.AtEnd ↔ t.MeetsEnd := h.atEnd.trans (or_iff_right hc)
  have hlt : o.cursor.advance.unread.length < c.unread.length := by
    rw [length_unread_advance]
    omega
  have hmeets : ((t.followedBy t').inTurn c o.cursor.advance).MeetsEnd ↔ t.MeetsEnd ∨ t'.MeetsEnd :=
    Trace.meetsEnd_followedBy_iff
  refine ⟨(h.descends.followedBy h'.descends).inTurn hlt, h'.atEnd, ?_⟩
  rw [h'.advances]
  by_cases ho : o.cursor.AtEnd
  · have hnone : ¬ t'.MeetsEnd := by
      rw [hlast ho.advance]
      exact Trace.not_meetsEnd_nil
    have hunread : o.cursor.unread.length = 0 := congrArg List.length ho
    have hadvance : o.cursor.advance.unread.length = 0 := congrArg List.length ho.advance
    have hadvances : o.cursor.advance.advances = o.cursor.advances + 1 := rfl
    rw [if_neg hnone, if_pos (hmeets.2 (.inl (hend.1 ho)))]
    simp only [tokenCount] at hcount ⊢
    omega
  · have hiff : ((t.followedBy t').inTurn c o.cursor.advance).MeetsEnd ↔ t'.MeetsEnd :=
      hmeets.trans (or_iff_right (mt hend.2 ho))
    rw [tokenCount_advance ho, hcount]
    simp only [hiff]

theorem RunsStatements.eq_nil_of_atEnd {c : Cursor} {t : Trace} {s : Statements}
    (h : c.RunsStatements t s) (hc : c.AtEnd) : t = {} := by
  cases h with
  | done => rfl
  | modifier hk => exact absurd hc (not_atEnd_of_keyword hk)
  | condition hnot => exact absurd hc hnot

theorem RunsStatements.goesToEnd {c : Cursor} {t : Trace} {s : Statements}
    (h : c.RunsStatements t s) : c.GoesToEnd t s := by
  induction h with
  | done h => exact .of_atEnd h
  | modifier hk hr _ ih =>
    subst hr
    exact .modifier (not_atEnd_of_keyword hk) ih
  | condition hc _ h h' ih => exact .condition hc h.goesForward ih h'.eq_nil_of_atEnd

end Cursor

/-- Each text is parsed by a run, and every run for it has the outcome of the parser, descends, ends
at `eof` and advances once for each token. It advances once more just if a call of `expression` is
entered at the end. -/
theorem Parser.advances_parse (text : String) :
    (∃ t s, (ofText text).cursor.RunsStatements t s) ∧
      ∀ t s, (ofText text).cursor.RunsStatements t s →
        (ofText text).parse = (Query.ofStatements s.results, ⟨s.cursor, s.faults⟩) ∧
          t.Descends ∧ s.cursor.current.kind = .eof ∧
            s.cursor.advances =
              (Lexer.ofText text).tokens.length + if t.MeetsEnd then 1 else 0 := by
  refine ⟨?_, fun t s h => ?_⟩
  · obtain ⟨t, h⟩ := (ofText text).cursor.exists_runsStatements
    exact ⟨t, _, h⟩
  have hgoes := h.goesToEnd
  have hcount : (ofText text).cursor.tokenCount = (Lexer.ofText text).tokens.length :=
    Nat.zero_add _
  refine ⟨?_, hgoes.descends, hgoes.atEnd.current_kind, ?_⟩
  · rw [h.eq_statements]
    rfl
  · rw [hgoes.advances, hcount]

/-- The group has no content, so the end is met and one advance is made from there. -/
theorem Parser.advances_parse_open : (Lexer.ofText "a = (").tokens.length = 3 ∧
    ∃ t s, (ofText "a = (").cursor.RunsStatements t s ∧ t.MeetsEnd ∧ t.Descends ∧
      s.cursor.current.kind = .eof ∧ s.cursor.advances = 4 := by
  have hlength : (Lexer.ofText "a = (").tokens.length = 3 := by decide +kernel
  have hfour : (ofText "a = (").parse.2.cursor.advances = 4 := by decide +kernel
  obtain ⟨⟨t, s, h⟩, hall⟩ := advances_parse "a = ("
  obtain ⟨hparse, hdescends, heof, hadvances⟩ := hall t s h
  rw [hparse] at hfour
  have hmeets : t.MeetsEnd := by
    by_contra hnot
    rw [if_neg hnot, hlength] at hadvances
    exact absurd (hfour.symm.trans hadvances) (by decide)
  exact ⟨hlength, t, s, h, hmeets, hdescends, heof, hfour⟩

end TicketQuery
