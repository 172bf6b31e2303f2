import Mathlib.Logic.Function.Iterate
import TicketQuery.Proofs.LexedTokens
import TicketQuery.Proofs.ParserCompleteness

/-! # Whatever the parser gives can be written

Faults do not let ill-formed trees through: whatever the parser makes of a text, with or without
faults, is a query of the language. The invariant is that all unread tokens come from a text and
that the value on the left of the next operator can be written. -/
namespace TicketQuery

theorem integerOf?_eq_some {digits : String} {n : Int} (h : integerOf? digits = some n) :
    n = (Nat.ofDigitChars 10 digits.toList 0 : ℕ) ∧ n ≤ maxInteger := by
  unfold integerOf? at h
  dsimp only at h
  split at h
  · next hn =>
    cases h
    exact ⟨rfl, Int.ofNat_le.2 hn⟩
  · cases h

theorem integerOf?_isWritable {digits : String} {n : Int} (h : integerOf? digits = some n) :
    (Literal.integer n).IsWritable := by
  obtain ⟨rfl, hn⟩ := integerOf?_eq_some h
  exact ⟨Int.natCast_nonneg _, hn⟩

theorem Token.FitsKind.isWritable {t : Token} (h : t.FitsKind) {x : Expr}
    (hx : t.expr? = some x) : x.IsWritable := by
  unfold expr? at hx
  split at hx
  · next hk =>
    cases hx
    exact .field (h.ident hk)
  · next hk =>
    cases hx
    exact .literal (h.string hk)
  · obtain ⟨n, hn, rfl⟩ := Option.map_eq_some_iff.1 hx
    exact .literal (integerOf?_isWritable hn)
  · cases hx

namespace Expr.IsWritable

theorem isFieldName {name : String} (h : (Expr.field name).IsWritable) : IsFieldName name := by
  cases h with
  | field hn => exact hn
  | condition he => cases he

theorem isWritable_literal {v : Literal} (h : (Expr.literal v).IsWritable) : v.IsWritable := by
  cases h with
  | literal hv => exact hv
  | condition he => cases he

theorem isCondition {e : Expr} (h : e.IsWritable) (hn : e.isNode = true) : e.IsCondition := by
  cases h with
  | condition he => exact he
  | field | literal => cases hn

end Expr.IsWritable

/-- A value that can be written, or none. -/
def IsWritableValue (value : Option Expr) : Prop := ∀ x, value = some x → x.IsWritable

theorem IsWritableValue.none : IsWritableValue none := by rintro x ⟨⟩

theorem IsWritableValue.some {x : Expr} (h : x.IsWritable) : IsWritableValue (some x) := by
  rintro _ ⟨⟩
  exact h

namespace Joined

theorem isWritableValue_comparison {op : Comparison} {place last : Span} {left right : Option Expr}
    (hl : IsWritableValue left) (hr : IsWritableValue right) :
    IsWritableValue (comparison op place last left right).value := by
  unfold comparison fault
  split
  · exact .none
  · exact .none
  · exact .none
  · next v =>
    split
    · exact .none
    · next name =>
      exact .some (.condition (.comparison (hl _ rfl).isFieldName (hr _ rfl).isWritable_literal))
    · exact .none

theorem isWritableValue_connective {k : Connective} {place : Span} {left right : Option Expr}
    (hl : IsWritableValue left) (hr : IsWritableValue right) :
    IsWritableValue (connective k place left right).value := by
  intro x hx
  obtain ⟨l, rfl, hx'⟩ := Option.bind_eq_some_iff.1 hx
  obtain ⟨r, rfl, hx''⟩ := Option.bind_eq_some_iff.1 hx'
  split at hx''
  · next hn =>
    cases hx''
    obtain ⟨hln, hrn⟩ := Bool.and_eq_true_iff.1 hn
    exact .condition (.connective ((hl l rfl).isCondition hln) ((hr r rfl).isCondition hrn))
  · cases hx''

theorem isWritableValue_ofOperator {op : Operator} {place last : Span} {left right : Option Expr}
    (hl : IsWritableValue left) (hr : IsWritableValue right) :
    IsWritableValue (ofOperator op place last left right).value := by
  cases op with
  | comparison => exact isWritableValue_comparison hl hr
  | connective => exact isWritableValue_connective hl hr

end Joined

/-- All unread tokens are such as a text can hold. -/
def Cursor.FitsKind (c : Cursor) : Prop := ∀ t ∈ c.unread, t.FitsKind

theorem Cursor.FitsKind.advance {c : Cursor} (h : c.FitsKind) : c.advance.FitsKind :=
  fun t ht => h t (List.mem_of_mem_tail ht)

theorem Token.fitsKind_eof (stop : Nat) : (Token.eof stop).FitsKind :=
  ⟨by rintro ⟨⟩, by rintro ⟨⟩⟩

theorem Cursor.FitsKind.current {c : Cursor} (h : c.FitsKind) : c.current.FitsKind := by
  unfold Cursor.current
  cases hu : c.unread with
  | nil => exact Token.fitsKind_eof _
  | cons t ts => exact h t (by simp [hu])

/-- The upcoming token is the current one after an advance. -/
theorem Cursor.FitsKind.upcoming {c : Cursor} (h : c.FitsKind) : c.upcoming.FitsKind :=
  h.advance.current

/-- The value can be written, and so can what is read behind it. -/
structure Outcome.IsWritable (o : Outcome) : Prop where
  value : IsWritableValue o.value
  cursor : o.cursor.FitsKind

theorem Outcome.IsWritable.closeGroup {o : Outcome} (h : o.IsWritable) :
    o.closeGroup.IsWritable := by
  unfold Outcome.closeGroup
  split
  · exact ⟨h.value, h.cursor.advance⟩
  · exact ⟨.none, h.cursor⟩

theorem isWritable_expression (level : Precedence) {c : Cursor} (h : c.FitsKind) :
    (expression level c).outcome.IsWritable := by
  refine (outcome_induction (P := fun c o => c.FitsKind → o.IsWritable)
    (Q := fun _ c o => c.FitsKind → o.IsWritable)
    (R := fun _ left c o => IsWritableValue left → c.FitsKind → o.IsWritable)
    ?_ ?_ ?_ ?_ ?_ ?_).2.1 level c h
  · intro c x hx hc
    exact ⟨.some (hc.current.isWritable hx), hc⟩
  · intro c _ _ hc
    exact ⟨.none, hc⟩
  · intro c o _ ih hc
    exact (ih hc.advance).closeGroup
  · intro level c o o' ihp ihr hc
    have ho' := ihr (ihp hc).value (ihp hc).cursor
    exact ⟨ho'.value, ho'.cursor⟩
  · intro level left c _ hleft hc
    exact ⟨hleft, hc⟩
  · intro level left c op o o' _ _ ihq ihr hleft hc
    have ho := ihq hc.advance.advance
    have ho' := ihr (Joined.isWritableValue_ofOperator hleft ho.value) ho.cursor
    exact ⟨ho'.value, ho'.cursor⟩

/-- The value of a statement, if it has one, can be written. -/
def StatementResult.IsWritable : StatementResult → Prop
  | modifier m => ∀ m', m = some m' → m'.IsWritable
  | condition e => IsWritableValue e

theorem Statement.isWritable_modifier (kind : ModifierKind) {c : Cursor} (h : c.FitsKind) :
    (modifier kind c).result.IsWritable ∧ (modifier kind c).cursor.FitsKind := by
  unfold modifier
  split
  · next hk =>
    cases kind with
    | orderBy =>
      refine ⟨?_, h.advance⟩
      rintro _ ⟨⟩
      exact .orderBy (h.upcoming.ident hk)
    | limit =>
      dsimp only
      unfold Parsed.integer
      split
      · next n hn =>
        refine ⟨?_, h.advance⟩
        rintro _ ⟨⟩
        exact .limit (integerOf?_isWritable hn)
      · exact ⟨by rintro _ ⟨⟩, h.advance⟩
  · dsimp only
    split
    · exact ⟨by rintro _ ⟨⟩, h⟩
    · exact ⟨by rintro _ ⟨⟩, h.advance⟩

theorem Statement.isWritable_read {c : Cursor} (h : c.FitsKind) :
    (read c).result.IsWritable ∧ (read c).cursor.FitsKind := by
  unfold read
  split
  · exact isWritable_modifier .orderBy h
  · exact isWritable_modifier .limit h
  · have he := isWritable_expression .lowest h
    exact ⟨he.value, he.cursor⟩

theorem isWritable_statements {c : Cursor} (h : c.FitsKind) :
    (∀ r ∈ (statements c).results, r.IsWritable) ∧ (statements c).cursor.FitsKind := by
  induction c using statements.induct with
  | case1 c hu =>
    rw [statements, dif_pos hu]
    exact ⟨by rintro r ⟨⟩, h⟩
  | case2 c hu s ih =>
    obtain ⟨hs, hc⟩ := Statement.isWritable_read h
    obtain ⟨hresults, hcursor⟩ := ih hc.advance
    rw [statements, dif_neg hu]
    exact ⟨List.forall_mem_cons.2 ⟨hs, hresults⟩, hcursor⟩

theorem Query.isWritable_ofStatements {results : List StatementResult}
    (h : ∀ r ∈ results, r.IsWritable) : (Query.ofStatements results).IsWritable := by
  rw [Query.ofStatements_eq]
  constructor
  · intro e he
    have hm := List.mem_of_getLast? (Option.join_eq_some_iff.1 he)
    obtain ⟨r, hr, hc⟩ := List.mem_filterMap.1 hm
    cases r with
    | condition e' =>
      cases hc
      exact h _ hr e rfl
    | modifier => cases hc
  · intro m hm
    obtain ⟨r, hr, hc⟩ := List.mem_filterMap.1 hm
    cases r with
    | condition => cases hc
    | modifier m' => exact h _ hr m hc

namespace Parser

/-- Both the answer and the next one. -/
theorem isWritable_parse {p : Parser} (h : p.cursor.FitsKind) :
    p.parse.1.IsWritable ∧ p.parse.2.cursor.FitsKind :=
  ⟨Query.isWritable_ofStatements (isWritable_statements h).1, (isWritable_statements h).2⟩

theorem fitsKind_ofLexer (l : Lexer) : (ofLexer l).cursor.FitsKind := l.fitsKind_of_mem_tokens

/-- Every answer of every parser is a query of the language: wherever in a text the parser starts,
whatever faults it finds and however often it has been asked before. -/
theorem isWritable_parse_iterate (l : Lexer) (n : ℕ) :
    ((fun p => p.parse.2)^[n] (ofLexer l)).parse.1.IsWritable := by
  have h : ((fun p => p.parse.2)^[n] (ofLexer l)).cursor.FitsKind := by
    induction n with
    | zero => exact fitsKind_ofLexer l
    | succ n ih =>
      rw [Function.iterate_succ_apply']
      exact (isWritable_parse ih).2
  exact (isWritable_parse h).1

end Parser

end TicketQuery
