import Mathlib.Data.List.TakeWhile
import Mathlib.Logic.Function.Iterate
import TicketQuery.Proofs.TokenShapes

/-! # Places of tokens

The tokens of a text lie in it one behind the other, each with the shape of its kind, and white
space lies between them. There is one such row of tokens only, so nothing is left open by this. -/
namespace TicketQuery

def IsBlank (cs : List Char) : Prop := ∀ c ∈ cs, isWhiteSpace c = true

instance (cs : List Char) : Decidable (IsBlank cs) :=
  decidable_of_iff (cs.all isWhiteSpace = true) List.all_eq_true

/-- The tokens lie in the characters, the first of which has the given offset. -/
inductive Tiles : Nat → List Char → List Token → Prop where
  | blank {offset : Nat} {gap : List Char} (hg : IsBlank gap) : Tiles offset gap []
  | token {offset : Nat} {gap source rest : List Char} {t : Token} {ts : List Token}
      (hg : IsBlank gap) (ht : IsLexeme t.kind t.text.toList source rest)
      (hs : t.span = ⟨offset + utf8Length gap, offset + utf8Length (gap ++ source)⟩)
      (h : Tiles t.span.stop rest ts) : Tiles offset (gap ++ (source ++ rest)) (t :: ts)

namespace Lexer

theorem tokens_eq_nil {l : Lexer} (h : l.next? = none) : l.tokens = [] := by
  rw [tokens, h]

theorem tokens_eq_cons {l : Lexer} {r : Token × Lexer} (h : l.next? = some r) :
    l.tokens = r.1 :: r.2.tokens := by
  rw [tokens, h]

theorem next?_eq_none {l : Lexer} (h : l.next? = none) : l.skipWhiteSpace.rest = [] := by
  unfold next? at h
  split at h
  · assumption
  · cases h

theorem tokens_of_isBlank {gap : List Char} (hg : IsBlank gap) (offset : Nat) :
    (⟨gap, offset⟩ : Lexer).tokens = [] := by
  apply tokens_eq_nil
  simp only [next?, skipWhiteSpace, List.dropWhile_eq_nil_iff.2 hg]

/-- White space in front is skipped. -/
theorem tokens_append_of_isBlank {gap : List Char} (hg : IsBlank gap) (cs : List Char)
    (offset : Nat) :
    (⟨gap ++ cs, offset⟩ : Lexer).tokens = (⟨cs, offset + utf8Length gap⟩ : Lexer).tokens := by
  apply tokens_congr
  simp only [skipWhiteSpace, List.dropWhile_append_of_pos hg, List.takeWhile_append_of_pos hg,
    utf8Length_append, Nat.add_assoc]

theorem tiles_tokens (l : Lexer) : Tiles l.offset l.rest l.tokens := by
  induction l using tokens.induct with
  | case1 l hn =>
    rw [tokens_eq_nil hn]
    exact .blank (List.dropWhile_eq_nil_iff.1 (next?_eq_none hn))
  | case2 l r hr ih =>
    obtain ⟨c, cs, hc, rfl⟩ := next?_eq_some hr
    have hgap : IsBlank (l.rest.takeWhile isWhiteSpace) :=
      List.all_eq_true.1 List.all_takeWhile
    have hw : isWhiteSpace c = false :=
      startsOutside_dropWhile isWhiteSpace l.rest c cs hc
    have hrest : l.rest = l.rest.takeWhile isWhiteSpace ++ (c :: cs) := by
      rw [← hc]
      exact List.takeWhile_append_dropWhile.symm
    rw [← Lexeme.source_append_rest c cs] at hrest
    rw [tokens_eq_cons hr, hrest]
    refine .token hgap ?_ ?_ ih
    · rw [take, String.toList_ofList]
      exact Lexeme.hasShape_read hw cs
    · simp only [take, skipWhiteSpace, utf8Length_append, Nat.add_assoc]

end Lexer

namespace Tiles

variable {offset : Nat} {cs : List Char} {ts : List Token}

/-- A row of tokens that lies in a text is the row of its tokens. -/
theorem tokens_eq (h : Tiles offset cs ts) : (⟨cs, offset⟩ : Lexer).tokens = ts := by
  induction h with
  | blank hg => exact Lexer.tokens_of_isBlank hg _
  | @token offset gap source rest t ts hg ht hs _ ih =>
    obtain ⟨c, cs, rfl, hw, hread⟩ := ht.exists_read_eq
    obtain ⟨kind, text, span⟩ := t
    cases hs
    rw [Lexer.tokens_append_of_isBlank hg, Lexer.tokens_of_read _ hw hread, String.ofList_toList]
    simp only [utf8Length_append, ← Nat.add_assoc] at ih ⊢
    rw [ih]

end Tiles

theorem Lexer.tokens_eq_iff_tiles {offset : Nat} {cs : List Char} {ts : List Token} :
    (⟨cs, offset⟩ : Lexer).tokens = ts ↔ Tiles offset cs ts :=
  ⟨fun h => h ▸ tiles_tokens ⟨cs, offset⟩, Tiles.tokens_eq⟩

/-- The span is that of the source, with what comes before and after it in the text. -/
structure IsExcerpt (cs : List Char) (s : Span) (before source after : List Char) : Prop where
  append_eq : before ++ (source ++ after) = cs
  span_eq : s = ⟨utf8Length before, utf8Length (before ++ source)⟩

/-- The characters in a span, if it ends between characters of the text. -/
def textAt? (cs : List Char) (s : Span) : Option (List Char) := do
  let (_, rest) ← splitAtByte s.start cs
  let (source, _) ← splitAtByte (s.stop - s.start) rest
  return source

theorem IsExcerpt.textAt?_eq {cs : List Char} {s : Span} {before source after : List Char}
    (h : IsExcerpt cs s before source after) : textAt? cs s = some source := by
  obtain ⟨rfl, rfl⟩ := h
  have hlength : utf8Length (before ++ source) - utf8Length before = utf8Length source := by
    rw [utf8Length_append, Nat.add_sub_cancel_left]
  simp only [textAt?, splitAtByte_append, hlength, Option.bind_eq_bind, Option.bind_some,
    Option.pure_def]

/-- Places outside of a span. -/
def Span.Excludes (s : Span) (offset : Nat) : Prop := offset < s.start ∨ s.stop ≤ offset

namespace Tiles

variable {offset : Nat} {cs : List Char} {ts : List Token}

theorem forall_offset_le (h : Tiles offset cs ts) : ∀ t ∈ ts, offset ≤ t.span.start := by
  induction h with
  | blank => exact nofun
  | token hg ht hs _ ih =>
    rw [List.forall_mem_cons]
    simp only [hs, utf8Length_append] at ih ⊢
    exact ⟨by omega, fun u hu => by have := ih u hu; omega⟩

theorem start_lt_stop (h : Tiles offset cs ts) : ∀ t ∈ ts, t.span.start < t.span.stop := by
  induction h with
  | blank => exact nofun
  | token hg ht hs _ ih =>
    have := ht.utf8Length_source_pos
    refine List.forall_mem_cons.2 ⟨?_, ih⟩
    simp only [hs, utf8Length_append]
    omega

theorem pairwise (h : Tiles offset cs ts) :
    ts.Pairwise fun t u => t.span.stop ≤ u.span.start := by
  induction h with
  | blank => exact .nil
  | token _ _ _ h ih => exact .cons h.forall_offset_le ih

/-- Where the tokens lie in a text whose end the characters are. -/
theorem exists_isExcerpt (h : Tiles offset cs ts) {front : List Char}
    (hf : utf8Length front = offset) : ∀ t ∈ ts, ∃ before source after,
      IsExcerpt (front ++ cs) t.span before source after ∧
        IsLexeme t.kind t.text.toList source after ∧
        (IsOpenString source → after = [] ∧ ts.getLast? = some t) := by
  induction h generalizing front with
  | blank => exact nofun
  | @token offset gap source rest t ts hg ht hs h ih =>
    have hspan : t.span = ⟨utf8Length (front ++ gap), utf8Length (front ++ gap ++ source)⟩ := by
      rw [hs, ← hf]
      simp only [utf8Length_append, Nat.add_assoc]
    refine List.forall_mem_cons.2 ⟨⟨front ++ gap, source, rest, ⟨?_, hspan⟩, ht, ?_⟩, ?_⟩
    · simp only [List.append_assoc]
    · intro ho
      obtain rfl := ht.rest_eq_nil_of_isOpenString ho
      obtain rfl : ts = [] :=
        h.tokens_eq.symm.trans (Lexer.tokens_of_isBlank (List.forall_mem_nil _) _)
      exact ⟨rfl, rfl⟩
    · intro u hu
      obtain ⟨before, source', after, hu, hx, hlast⟩ := ih (congrArg Span.stop hspan).symm u hu
      refine ⟨before, source', after, ⟨?_, hu.span_eq⟩, hx, fun ho => ⟨(hlast ho).1, ?_⟩⟩
      · rw [hu.append_eq]
        simp only [List.append_assoc]
      · rw [List.getLast?_cons, (hlast ho).2]
        rfl

/-- What no token covers is white space. -/
theorem isWhiteSpace_of_excludes (h : Tiles offset cs ts) {before after : List Char} {c : Char}
    (hc : before ++ c :: after = cs)
    (he : ∀ t ∈ ts, t.span.Excludes (offset + utf8Length before)) : isWhiteSpace c = true := by
  induction h generalizing before with
  | blank hg => exact hg c (by simp [← hc])
  | @token offset gap source rest t ts hg ht hs h ih =>
    obtain ⟨hcovered, hts⟩ := List.forall_mem_cons.1 he
    have hstop : t.span.stop = offset + utf8Length (gap ++ source) := congrArg Span.stop hs
    simp only [Span.Excludes, hs] at hcovered
    have hbehind : ∀ skipped, before = gap ++ (source ++ skipped) →
        skipped ++ c :: after = rest → isWhiteSpace c = true := by
      rintro skipped rfl hrest
      refine ih hrest fun u hu => ?_
      rw [hstop, Nat.add_assoc, ← utf8Length_append, List.append_assoc]
      exact hts u hu
    -- The character stands in the gap, in the source of the first token or behind it.
    rcases List.append_eq_append_iff.1 hc with ⟨as, rfl, has⟩ | ⟨bs, rfl, hbs⟩
    · cases as with
      | nil =>
        have := ht.utf8Length_source_pos
        simp only [utf8Length_append, utf8Length_nil] at hcovered
        omega
      | cons d as =>
        obtain ⟨rfl, -⟩ := List.cons.inj has
        exact hg c (by simp)
    · rcases List.append_eq_append_iff.1 hbs with ⟨skipped, rfl, hrest⟩ | ⟨left, rfl, hleft⟩
      · exact hbehind skipped rfl hrest.symm
      · cases left with
        | nil => exact hbehind [] (by simp) hleft
        | cons d left =>
          have := d.utf8Size_pos
          simp only [utf8Length_append, utf8Length_cons] at hcovered
          omega

end Tiles

theorem Lexer.exists_isExcerpt_of_mem_tokens (text : String) : ∀ t ∈ (ofText text).tokens,
    ∃ before source after, IsExcerpt text.toList t.span before source after ∧
      IsLexeme t.kind t.text.toList source after ∧
      (IsOpenString source → after = [] ∧ (ofText text).tokens.getLast? = some t) :=
  (ofText text).tiles_tokens.exists_isExcerpt utf8Length_nil

/-- The tokens are parts of the text in order, none of them empty, each has the shape of its kind
and ends where no longer token of the kind is possible, and what they leave is white space. A string
that is never closed is the last of them. -/
structure IsTokenized (cs : List Char) (ts : List Token) : Prop where
  nonempty : ∀ t ∈ ts, t.span.start < t.span.stop
  ordered : ts.Pairwise fun t u => t.span.stop ≤ u.span.start
  shape : ∀ t ∈ ts, t.kind ≠ .eof ∧ ∃ before source after,
    IsExcerpt cs t.span before source after ∧ IsLexeme t.kind t.text.toList source after ∧
      (IsOpenString source → after = [] ∧ ts.getLast? = some t)
  gaps : ∀ before c after, before ++ c :: after = cs →
    (∀ t ∈ ts, t.span.Excludes (utf8Length before)) → isWhiteSpace c = true

namespace Lexer

theorem next_eq (l : Lexer) : l.next.1 = l.tokens.headD (.eof l.stop) ∧
    l.next.2.tokens = l.tokens.tail ∧ l.next.2.stop = l.stop := by
  unfold next
  cases h : l.next? with
  | some r =>
    rw [tokens_eq_cons h]
    exact ⟨rfl, rfl, stop_of_next? h⟩
  | none =>
    have hstop := l.stop_skipWhiteSpace
    have hoffset : l.skipWhiteSpace.offset = l.stop := by
      rw [← hstop, stop, next?_eq_none h, utf8Length_nil, Nat.add_zero]
    have hblank : IsBlank l.skipWhiteSpace.rest := by
      rw [next?_eq_none h]
      exact List.forall_mem_nil _
    rw [tokens_eq_nil h]
    exact ⟨congrArg Token.eof hoffset, tokens_of_isBlank hblank _, hstop⟩

/-- The tokens come one by one, and then `eof` at the end of the text for ever. -/
theorem next_iterate (l : Lexer) (n : ℕ) :
    ((fun l => l.next.2)^[n] l).next.1 = l.tokens[n]?.getD (.eof l.stop) := by
  induction n generalizing l with
  | zero =>
    rw [Function.iterate_zero_apply, l.next_eq.1]
    cases l.tokens <;> rfl
  | succ n ih =>
    rw [Function.iterate_succ_apply, ih, l.next_eq.2.1, l.next_eq.2.2, List.getElem?_tail]

/-- Nothing of a text is lost and nothing invented. -/
theorem isTokenized_ofText (text : String) :
    IsTokenized text.toList (ofText text).tokens ∧
      ∀ n, ((fun l => l.next.2)^[n] (ofText text)).next.1 =
        (ofText text).tokens[n]?.getD (.eof text.utf8ByteSize) := by
  have h := (ofText text).tiles_tokens
  refine ⟨⟨h.start_lt_stop, h.pairwise, fun t ht => ?_, ?_⟩, fun n => ?_⟩
  · obtain ⟨before, source, after, hx, hlexeme, hlast⟩ := exists_isExcerpt_of_mem_tokens text t ht
    exact ⟨hlexeme.kind_ne_eof, before, source, after, hx, hlexeme, hlast⟩
  · intro before c after hc he
    refine h.isWhiteSpace_of_excludes hc ?_
    simpa [ofText] using he
  · have hstop : (ofText text).stop = text.utf8ByteSize := by
      simp [stop, ofText]
    rw [next_iterate, hstop]

end Lexer

end TicketQuery
