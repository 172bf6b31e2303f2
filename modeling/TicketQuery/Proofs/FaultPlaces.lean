import TicketQuery.Shell
import TicketQuery.Proofs.Layout

/-! # Places of faults

Every fault that the parser reports is at a token of the text or at its end. So the shell always
finds the characters that its mark is to stand under, and the mark reaches at most one place beyond
the end of the line. -/
namespace TicketQuery

/-- However often a parser is asked, its faults are those of tokens. -/
theorem exists_tokenAt_of_mem_faults (text : String) (n : ℕ) :
    ∀ f ∈ ((fun p => p.parse.2)^[n] (Parser.ofText text)).faults,
      ∃ k, f.span = (tokenAt text k).span := by
  let R (t u : Token) : Prop := t = u ∧ ∃ k, t = tokenAt text k ∧ u = tokenAt text k
  have hrun : ((fun p => p.parse.2)^[n] (Parser.ofText text)).Parallel R
      ((fun p => p.parse.2)^[n] (Parser.ofText text)) := by
    induction n with
    | zero => exact Parser.parallel_ofText (List.forall₂_same.2 fun _ _ => rfl) rfl
    | succ n ih =>
      rw [Function.iterate_succ_apply']
      exact (ih.parse fun h => ⟨congrArg _ h.1, fun _ => congrArg _ h.1⟩).2
  intro f hf
  obtain ⟨-, t, -, ⟨-, k, rfl, -⟩, hspan, -⟩ := List.forall₂_same.1 hrun.faults f hf
  exact ⟨k, hspan⟩

/-- A token has characters, and the end of the text has none. -/
theorem exists_isExcerpt_tokenAt (text : String) (k : ℕ) : ∃ before source after,
    IsExcerpt text.toList (tokenAt text k).span before source after ∧
      ((tokenAt text k ∈ (Lexer.ofText text).tokens ∧ source ≠ []) ∨
        (tokenAt text k = .eof text.utf8ByteSize ∧ source = [])) := by
  by_cases hk : k < (Lexer.ofText text).tokens.length
  · have hm := List.getElem_mem hk
    rw [tokenAt_of_lt hk]
    obtain ⟨before, source, after, hx, hlexeme, -⟩ :=
      Lexer.exists_isExcerpt_of_mem_tokens text _ hm
    exact ⟨before, source, after, hx, .inl ⟨hm, hlexeme.source_ne_nil⟩⟩
  · have heof : tokenAt text k = .eof text.utf8ByteSize := by
      rw [tokenAt, List.getElem?_eq_none (Nat.not_lt.1 hk), Option.getD_none]
    refine ⟨text.toList, [], [], ⟨by simp, ?_⟩, .inr ⟨heof, rfl⟩⟩
    rw [heof, List.append_nil, utf8Length_toList]
    rfl

namespace Shell

theorem charactersBetween_eq (s : Span) (cs : List Char) :
    charactersBetween s.start s.stop cs = ((textAt? cs s).map List.length).getD 0 := by
  unfold charactersBetween textAt?
  cases splitAtByte s.start cs with
  | none => rfl
  | some p =>
    simp only [Option.bind_eq_bind, Option.bind_some]
    cases splitAtByte (s.stop - s.start) p.2 <;> rfl

theorem charactersBetween_of_isExcerpt {cs : List Char} {s : Span}
    {before source after : List Char} (h : IsExcerpt cs s before source after) :
    charactersBetween s.start s.stop cs = source.length := by
  rw [charactersBetween_eq, h.textAt?_eq]
  rfl

/-- The mark under a part of a line: where it starts and how wide it is, at least one character. -/
theorem caretPosition_of_isExcerpt {line : String} {s : Span} {before source after : List Char}
    (h : IsExcerpt line.toList s before source after) :
    caretPosition line s = (before.length, max 1 source.length) := by
  have hbefore : IsExcerpt line.toList ⟨0, s.start⟩ [] before (source ++ after) :=
    ⟨h.append_eq, by rw [h.span_eq]; rfl⟩
  rw [caretPosition, charactersBetween_of_isExcerpt h,
    charactersBetween_of_isExcerpt hbefore]

/-- Every fault is at a token or at the end of the text. The mark under it starts behind the
characters before the token and is as wide as the token. At the end of the text it is one character
wide. -/
theorem caretPosition_of_mem_faults (text : String) (n : ℕ) :
    ∀ f ∈ ((fun p => p.parse.2)^[n] (Parser.ofText text)).faults,
      ((∃ t ∈ (Lexer.ofText text).tokens, f.span = t.span) ∨
        f.span = ⟨text.utf8ByteSize, text.utf8ByteSize⟩) ∧
      ∃ before source after, IsExcerpt text.toList f.span before source after ∧
        caretPosition text f.span = (before.length, max 1 source.length) ∧
          before.length + max 1 source.length ≤ text.length + 1 := by
  intro f hf
  obtain ⟨k, hk⟩ := exists_tokenAt_of_mem_faults text n f hf
  obtain ⟨before, source, after, hx, hplace⟩ := exists_isExcerpt_tokenAt text k
  rw [← hk] at hx
  refine ⟨?_, before, source, after, hx, caretPosition_of_isExcerpt hx, ?_⟩
  · rcases hplace with ⟨hm, -⟩ | ⟨heof, -⟩
    · exact .inl ⟨_, hm, hk⟩
    · exact .inr (hk.trans (congrArg Token.span heof))
  · have hlength := congrArg List.length hx.append_eq
    rw [String.length_toList, List.length_append, List.length_append] at hlength
    omega

/-- Behind characters of several bytes, a fault at a token and one at the end. -/
theorem caretPosition_of_mem_faults_wide :
    let text := "é = ü and (b"
    let quotes : Fault := ⟨.missingQuotes "ü", 5, 7⟩
    let group : Fault := ⟨.unclosedGroup .eof, 14, 14⟩
    (Parser.ofText text).parse.2.faults = [quotes, group] ∧
      (∃ t ∈ (Lexer.ofText text).tokens, quotes.span = t.span) ∧
      caretPosition text quotes.span = (4, 1) ∧ caretPosition text group.span = (12, 1) ∧
      ∃ before source after, IsExcerpt text.toList group.span before source after ∧
        caretPosition text group.span = (before.length, max 1 source.length) ∧
          before.length + max 1 source.length ≤ text.length + 1 := by
  intro text quotes group
  have hfaults : (Parser.ofText text).parse.2.faults = [quotes, group] := by decide +kernel
  have hquotes := caretPosition_of_mem_faults text 1 quotes (by simp [hfaults])
  have hgroup := caretPosition_of_mem_faults text 1 group (by simp [hfaults])
  exact ⟨hfaults, hquotes.1.resolve_right (by decide), by decide +kernel, by decide +kernel,
    hgroup.2⟩

end Shell

end TicketQuery
