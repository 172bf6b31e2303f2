import TicketQuery.Proofs.Delimiters
import TicketQuery.Proofs.SqlQuotes

/-! # Tokens of SQL

How PostgreSQL divides a text into tokens. In a quoted name two quotes stand for one. A string ends
at a quote that is not doubled; after an `E` directly before its first quote a backslash takes the
next character with it. Texts with comments, dollar quotes and other rarely used forms are refused,
and so are all characters that could start one. -/
namespace TicketQuery

inductive SqlToken where
  /-- A keyword, a plain name or a number. -/
  | word (text : List Char)
  | operator (text : List Char)
  | sign (c : Char)
  | name (content : List Char)
  /-- The content is kept as it is written. -/
  | string (escapes : Bool) (content : List Char)
  deriving DecidableEq, Repr

def isSqlWordChar (c : Char) : Bool := c.isAlphanum || c == '_' || 0x80 ≤ c.toNat

def isSqlOperatorChar (c : Char) : Bool :=
  c == '*' || c == '<' || c == '>' || c == '=' || c == '-'

inductive ScanState where
  | between
  | word (text : List Char)
  | operator (text : List Char)
  | name (content : List Char)
  /-- After a quote in a name, which ends the name if no other follows. -/
  | nameQuote (content : List Char)
  | string (escapes : Bool) (content : List Char)
  | backslash (content : List Char)
  | stringQuote (escapes : Bool) (content : List Char)
  deriving DecidableEq, Repr

namespace ScanState

/-- The tokens that are complete if the current one ends here. -/
def ended? : ScanState → Option (List SqlToken)
  | between => some []
  | word text => some [.word text]
  | operator text => some [.operator text]
  | nameQuote content => some [.name content]
  | stringQuote escapes content => some [.string escapes content]
  | name _ | string .. | backslash _ => none

/-- The first character of a token, or a blank. -/
def start (c : Char) : Option (List SqlToken × ScanState) :=
  if c = ' ' then some ([], between)
  else if c = '(' ∨ c = ')' ∨ c = ',' then some ([.sign c], between)
  else if c = '"' then some ([], name [])
  else if c = '\x27' then some ([], string false [])
  else if isSqlOperatorChar c then some ([], operator [c])
  else if isSqlWordChar c then some ([], word [c])
  else none

/-- Whatever the current token is, it ends before the character. -/
def startNext (s : ScanState) (c : Char) : Option (List SqlToken × ScanState) := do
  let ts ← s.ended?
  let r ← start c
  return (ts ++ r.1, r.2)

/-- The tokens completed by a character. A minus sign stands first in an operator: behind another
sign it might start a comment. -/
def step (s : ScanState) (c : Char) : Option (List SqlToken × ScanState) :=
  match s with
  | between => start c
  | word text =>
    if isSqlWordChar c then some ([], word (text ++ [c]))
    else if c = '\x27' then
      if text = ['E'] ∨ text = ['e'] then some ([], string true []) else none
    else startNext s c
  | operator text =>
    if c = '-' then none
    else if isSqlOperatorChar c then some ([], operator (text ++ [c]))
    else startNext s c
  | name content => some ([], if c = '"' then nameQuote content else name (content ++ [c]))
  | nameQuote content => if c = '"' then some ([], name (content ++ [c])) else startNext s c
  | string escapes content =>
    if c = '\x27' then some ([], stringQuote escapes content)
    else if escapes ∧ c = '\\' then some ([], backslash content)
    else some ([], string escapes (content ++ [c]))
  | backslash content => some ([], string true (content ++ ['\\', c]))
  | stringQuote escapes content =>
    if c = '\x27' then some ([], string escapes (content ++ [c, c])) else startNext s c

def run (s : ScanState) : List Char → Option (List SqlToken × ScanState)
  | [] => some ([], s)
  | c :: cs => do
    let r ← s.step c
    let r' ← r.2.run cs
    return (r.1 ++ r'.1, r'.2)

end ScanState

/-- The tokens of a text, if it is well-formed. -/
def sqlTokens (cs : List Char) : Option (List SqlToken) := do
  let r ← ScanState.between.run cs
  let ts ← r.2.ended?
  return r.1 ++ ts

example : sqlTokens "\"a\"\"b\"<>E'it\\'s' 'it''s'".toList = some [.name "a\"b".toList,
    .operator ['<', '>'], .string true "it\\'s".toList, .string false "it''s".toList] := by
  decide
example : sqlTokens "'it\\'s'".toList = none := by decide

namespace ScanState

/-- The characters lead from one state to the other and complete the tokens. -/
def Runs (s : ScanState) (cs : List Char) (ts : List SqlToken) (s' : ScanState) : Prop :=
  s.run cs = some (ts, s')

variable {s s' s'' : ScanState} {c : Char} {cs ds : List Char} {ts us : List SqlToken}

theorem Runs.nil (s : ScanState) : s.Runs [] [] s := rfl

theorem Runs.cons (h : s.step c = some (ts, s')) (hr : s'.Runs cs us s'') :
    s.Runs (c :: cs) (ts ++ us) s'' := by
  have hr : s'.run cs = some (us, s'') := hr
  simp [Runs, run, h, hr]

/-- A character that completes no token. -/
theorem Runs.silent (h : s.step c = some ([], s')) (hr : s'.Runs cs us s'') :
    s.Runs (c :: cs) us s'' := Runs.cons h hr

theorem Runs.append (h : s.Runs cs ts s') (hr : s'.Runs ds us s'') :
    s.Runs (cs ++ ds) (ts ++ us) s'' := by
  induction cs generalizing s ts with
  | nil =>
    cases h
    exact hr
  | cons c cs ih =>
    simp only [Runs, run, Option.bind_eq_bind, Option.bind_eq_some_iff, Option.pure_def,
      Option.some.injEq, Prod.mk.injEq] at h
    obtain ⟨r, hs, r', hr', rfl, rfl⟩ := h
    have := Runs.cons hs (ih hr')
    rwa [← List.append_assoc] at this

theorem step_between (c : Char) : between.step c = between.startNext c := by
  cases h : start c <;> simp [step, startNext, ended?, h]

/-- A blank or a closing parenthesis goes on with no token. -/
theorem step_of_ended? (h : s.ended? = some ts) (hc : c = ' ' ∨ c = ')') :
    s.step c = s.startNext c := by
  cases s with
  | between => exact step_between c
  | word text => rcases hc with rfl | rfl <;> rfl
  | operator text => rcases hc with rfl | rfl <;> rfl
  | nameQuote content => rcases hc with rfl | rfl <;> rfl
  | stringQuote escapes content => rcases hc with rfl | rfl <;> rfl
  | name content => cases h
  | string escapes content => cases h
  | backslash content => cases h

/-- Before such a character, the token in front is as good as done. -/
theorem run_of_ended? (h : s.ended? = some ts) (hc : c = ' ' ∨ c = ')') (cs : List Char) :
    s.run (c :: cs) = (between.run (c :: cs)).map fun r => (ts ++ r.1, r.2) := by
  rw [run, run, step_of_ended? h hc, startNext, h]
  cases hs : start c with
  | none => simp [step, hs]
  | some r => cases hr : r.2.run cs <;> simp [step, hs, hr]

end ScanState

open ScanState

theorem sqlTokens_eq_some_iff {cs : List Char} {ts : List SqlToken} :
    sqlTokens cs = some ts ↔ ∃ us s vs, between.Runs cs us s ∧ s.ended? = some vs ∧
      us ++ vs = ts := by
  simp [sqlTokens, Option.bind_eq_some_iff, Runs]

/-- Tokens of a text that ends between two of them. -/
theorem sqlTokens_append {cs ds : List Char} {ts us : List SqlToken}
    (h : between.Runs cs ts between) (h' : sqlTokens ds = some us) :
    sqlTokens (cs ++ ds) = some (ts ++ us) := by
  obtain ⟨vs, s, ws, hr, hs, rfl⟩ := sqlTokens_eq_some_iff.1 h'
  exact sqlTokens_eq_some_iff.2 ⟨_, s, ws, h.append hr, hs, List.append_assoc ..⟩

theorem sqlTokens_append_of_delimited {cs ds : List Char} {ts us : List SqlToken}
    (h : sqlTokens cs = some ts) (h' : sqlTokens ds = some us) (hd : Delimited ds) :
    sqlTokens (cs ++ ds) = some (ts ++ us) := by
  cases ds with
  | nil =>
    obtain rfl : us = [] := by
      cases h'
      rfl
    rw [List.append_nil, List.append_nil, h]
  | cons c ds =>
    obtain ⟨vs, s, ws, hr, hs, rfl⟩ := sqlTokens_eq_some_iff.1 h
    obtain ⟨vs', s', ws', hr', hs', rfl⟩ := sqlTokens_eq_some_iff.1 h'
    have hr' : between.run (c :: ds) = some (vs', s') := hr'
    have hn : s.Runs (c :: ds) (ws ++ vs') s' := by
      rw [Runs, run_of_ended? hs (hd c ds rfl), hr']
      rfl
    refine sqlTokens_eq_some_iff.2 ⟨_, s', ws', hr.append hn, hs', ?_⟩
    simp only [List.append_assoc]

namespace ScanState

/-- A token that each of the characters, as it is written, goes on with. -/
theorem runs_flatMap {f : List Char → ScanState} {written kept : Char → List Char} {cs : List Char}
    (h : ∀ c ∈ cs, ∀ w, (f w).Runs (written c) [] (f (w ++ kept c))) (w : List Char) :
    (f w).Runs (cs.flatMap written) [] (f (w ++ cs.flatMap kept)) := by
  induction cs generalizing w with
  | nil =>
    rw [List.flatMap_nil, List.flatMap_nil, List.append_nil]
    exact .nil _
  | cons c cs ih =>
    have hc := h c List.mem_cons_self w
    have hcs := ih (fun d hd => h d (List.mem_cons_of_mem c hd)) (w ++ kept c)
    have := hc.append hcs
    rwa [List.append_assoc] at this

theorem ne_of_isSqlWordChar {c d : Char} (h : isSqlWordChar c = true)
    (hd : isSqlWordChar d = false) : c ≠ d := by
  rintro rfl
  cases h.symm.trans hd

theorem isSqlOperatorChar_eq_false {c : Char} (h : isSqlWordChar c = true) :
    isSqlOperatorChar c = false := by
  have hne : ∀ {d}, isSqlWordChar d = false → (c == d) = false := fun hd =>
    beq_false_of_ne (ne_of_isSqlWordChar h hd)
  rw [isSqlOperatorChar, hne (by decide), hne (by decide), hne (by decide), hne (by decide),
    hne (by decide)]
  rfl

theorem start_of_isSqlWordChar {c : Char} (h : isSqlWordChar c = true) :
    start c = some ([], word [c]) := by
  have hne : ∀ {d}, isSqlWordChar d = false → c ≠ d := ne_of_isSqlWordChar h
  have hsign : ¬ (c = '(' ∨ c = ')' ∨ c = ',') := by
    rintro (hc | hc | hc)
    · exact hne (by decide) hc
    · exact hne (by decide) hc
    · exact hne (by decide) hc
  rw [start, if_neg (hne (by decide)), if_neg hsign, if_neg (hne (by decide)),
    if_neg (hne (by decide)), isSqlOperatorChar_eq_false h, h]
  rfl

theorem runs_word {cs : List Char} (h : ∀ c ∈ cs, isSqlWordChar c = true) (w : List Char) :
    (word w).Runs cs [] (word (w ++ cs)) := by
  have hc : ∀ c ∈ cs, ∀ w, (word w).Runs [c] [] (word (w ++ [c])) := by
    intro c hc w
    have hs : (word w).step c = some ([], word (w ++ [c])) := by
      simp only [step, h c hc, if_true]
    exact .silent hs (.nil _)
  simpa using runs_flatMap hc w

theorem runs_name (cs w : List Char) :
    (name w).Runs (doubledQuotes cs) [] (name (w ++ cs)) := by
  have hc : ∀ c ∈ cs, ∀ w, (name w).Runs (if c = '"' then ['"', '"'] else [c]) []
      (name (w ++ [c])) := by
    intro c _ w
    by_cases hq : c = '"'
    · subst hq
      exact .silent rfl (.silent rfl (.nil _))
    · have hs : (name w).step c = some ([], name (w ++ [c])) := by
        simp only [step, if_neg hq]
      rw [if_neg hq]
      exact .silent hs (.nil _)
  simpa [doubledQuotes] using runs_flatMap hc w

end ScanState

/-- The token of a string value. -/
def SqlToken.ofString (s : String) : SqlToken :=
  .string (decide ('\\' ∈ sqlEscaped s)) (sqlEscaped s)

theorem ScanState.runs_string {escapes : Bool} {cs : List Char}
    (h : '\\' ∈ cs.flatMap sqlEscapedChar → escapes = true) (w : List Char) :
    (string escapes w).Runs (cs.flatMap sqlEscapedChar) []
      (string escapes (w ++ cs.flatMap sqlEscapedChar)) := by
  refine runs_flatMap (f := string escapes) ?_ w
  intro c hc w
  rcases sqlEscapedChar_cases c with ⟨he, hq, hb⟩ | ⟨d, he⟩
  · have hs : (string escapes w).step c = some ([], string escapes (w ++ [c])) := by
      simp [step, hq, hb]
    rw [he]
    exact .silent hs (.nil _)
  · obtain rfl : escapes = true := by
      apply h
      exact List.mem_flatMap.2 ⟨c, hc, by simp [he]⟩
    rw [he]
    exact .silent rfl (.silent rfl (.nil _))

theorem sqlTokens_sqlName (s : String) : sqlTokens (sqlName s).toList = some [.name s.toList] := by
  have h : between.Runs (sqlName s).toList [] (nameQuote s.toList) := by
    rw [toList_sqlName]
    exact .silent rfl ((runs_name s.toList []).append (.silent rfl (.nil _)))
  exact sqlTokens_eq_some_iff.2 ⟨_, _, _, h, rfl, rfl⟩

theorem sqlTokens_sqlString (s : String) : sqlTokens (sqlString s).toList = some [.ofString s] := by
  have hq : ∀ e, (string e (sqlEscaped s)).Runs ['\x27'] [] (stringQuote e (sqlEscaped s)) :=
    fun e => .silent rfl (.nil _)
  have h : between.Runs (sqlString s).toList []
      (stringQuote (decide ('\\' ∈ sqlEscaped s)) (sqlEscaped s)) := by
    rw [toList_sqlString]
    by_cases hb : '\\' ∈ sqlEscaped s
    · rw [if_pos hb, decide_eq_true hb]
      exact .silent rfl (.silent rfl ((runs_string (fun _ => rfl) []).append (hq true)))
    · rw [if_neg hb, decide_eq_false hb]
      exact .silent rfl ((runs_string (fun h => absurd h hb) []).append (hq false))
  exact sqlTokens_eq_some_iff.2 ⟨_, _, _, h, rfl, rfl⟩

/-- A number, where the token before it goes on with no digit. -/
theorem ScanState.runs_digits {s : ScanState} {ts : List SqlToken} (h : s.ended? = some ts)
    (hs : ∀ c, isSqlWordChar c = true → s.step c = s.startNext c) (n : Nat) :
    s.Runs n.repr.toList ts (word n.repr.toList) := by
  have hd : ∀ c ∈ n.repr.toList, isSqlWordChar c = true := by
    intro c hc
    simp [isSqlWordChar, Char.isAlphanum, isDigit_of_mem_repr hc]
  have hne : n.repr.toList ≠ [] := by
    rw [Nat.toList_repr]
    exact Nat.toDigits_ne_nil
  cases hn : n.repr.toList with
  | nil => exact absurd hn hne
  | cons c cs =>
    rw [hn] at hd
    have hc : isSqlWordChar c = true := hd c List.mem_cons_self
    have hstep : s.step c = some (ts, word [c]) := by
      rw [hs c hc, startNext, h, start_of_isSqlWordChar hc]
      simp
    have hcs := runs_word (fun d hm => hd d (List.mem_cons_of_mem c hm)) [c]
    have := Runs.cons hstep hcs
    rwa [List.append_nil] at this

theorem sqlTokens_repr (n : Nat) : sqlTokens n.repr.toList = some [.word n.repr.toList] := by
  have h : between.Runs n.repr.toList [] (word n.repr.toList) :=
    runs_digits rfl (fun c _ => step_between c) n
  exact sqlTokens_eq_some_iff.2 ⟨_, _, _, h, rfl, rfl⟩

theorem sqlTokens_negSucc (n : Nat) : sqlTokens (toString (Int.negSucc n)).toList =
    some [.operator ['-'], .word (n + 1).repr.toList] := by
  have hs : (toString (Int.negSucc n)).toList = '-' :: (n + 1).repr.toList := toList_repr_negSucc n
  have hop : ∀ c, isSqlWordChar c = true →
      (operator ['-']).step c = (operator ['-']).startNext c := by
    intro c hc
    have hm : c ≠ '-' := ne_of_isSqlWordChar hc (by decide)
    simp [step, hm, isSqlOperatorChar_eq_false hc]
  have h : between.Runs ('-' :: (n + 1).repr.toList) [.operator ['-']]
      (word (n + 1).repr.toList) := .silent rfl (runs_digits rfl hop (n + 1))
  rw [hs]
  exact sqlTokens_eq_some_iff.2 ⟨_, _, _, h, rfl, rfl⟩

theorem exists_sqlTokens_integer (n : Int) : ∃ ts, sqlTokens (toString n).toList = some ts := by
  cases n with
  | ofNat n => exact ⟨_, sqlTokens_repr n⟩
  | negSucc n => exact ⟨_, sqlTokens_negSucc n⟩

end TicketQuery
