import TicketQuery.Proofs.WellFormed

/-! # What the tokens of a text hold

Words are names of fields unless they are keywords, and no string has a quote in it. This is so
wherever in a text the tokens start. -/
namespace TicketQuery

theorem TokenKind.mem_keywords_of_lookup {word : List Char} {k : TokenKind}
    (h : keywords.lookup word = some k) : (word, k) ∈ keywords := by
  obtain ⟨l, r, hk, -⟩ := List.lookup_eq_some_iff.1 h
  rw [hk]
  simp

/-- A word names a field, or it is one of the keywords. -/
theorem TokenKind.ofWord_cases (word : List Char) :
    (ofWord word = .ident ∧ word.map Char.toLower ∉ keywords.map Prod.fst) ∨
      ofWord word ∈ keywords.map Prod.snd := by
  unfold ofWord
  cases h : keywords.lookup (word.map Char.toLower) with
  | none =>
    refine .inl ⟨rfl, fun hm => ?_⟩
    obtain ⟨p, hp, hw⟩ := List.mem_map.1 hm
    exact absurd hw (bne_iff_ne.1 (List.lookup_eq_none_iff.1 h p hp)).symm
  | some k => exact .inr (List.mem_map_of_mem (mem_keywords_of_lookup h))

namespace Lexeme

/-- Fields are words, and strings are what stands between quotes. -/
structure FitsKind (x : Lexeme) : Prop where
  ident : x.kind = .ident → IsFieldName (String.ofList x.text)
  string : x.kind = .string → '"' ∉ x.text

theorem fitsKind_plain {kind : TokenKind} (hi : kind ≠ .ident) (hs : kind ≠ .string)
    (source rest : List Char) : (plain kind source rest).FitsKind :=
  ⟨fun h => absurd h hi, fun h => absurd h hs⟩

theorem fitsKind_beforeEquals {alone paired : TokenKind} (ha : alone ≠ .ident ∧ alone ≠ .string)
    (hp : paired ≠ .ident ∧ paired ≠ .string) (c : Char) (cs : List Char) :
    (beforeEquals alone paired c cs).FitsKind := by
  unfold beforeEquals
  split
  · exact fitsKind_plain hp.1 hp.2 _ _
  · exact fitsKind_plain ha.1 ha.2 _ _

theorem fitsKind_quoted (cs : List Char) : (quoted cs).FitsKind := by
  have hq : '"' ∉ cs.takeWhile (· != '"') := by
    intro hm
    exact absurd (List.all_eq_true.1 List.all_takeWhile _ hm) (by decide)
  unfold quoted
  split
  · exact ⟨by rintro ⟨⟩, fun _ => hq⟩
  · exact ⟨by rintro ⟨⟩, fun _ => hq⟩

theorem fitsKind_word {c : Char} (hc : isIdentChar c = true) (cs : List Char) :
    (run TokenKind.ofWord isIdentChar c cs).FitsKind := by
  rcases TokenKind.ofWord_cases (c :: cs.takeWhile isIdentChar) with ⟨hk, hw⟩ | hk
  · refine ⟨fun _ => ⟨by simp [run, plain], ?_, ?_⟩, fun h => by cases hk.symm.trans h⟩
    · intro d hd
      simp only [run, plain, String.toList_ofList, List.mem_cons] at hd
      rcases hd with rfl | hd
      · exact hc
      · exact List.all_eq_true.1 List.all_takeWhile d hd
    · simpa only [run, plain, String.toList_ofList] using hw
  · have hn : ∀ k ∈ TokenKind.keywords.map Prod.snd, k ≠ .ident ∧ k ≠ .string := by decide
    exact fitsKind_plain (hn _ hk).1 (hn _ hk).2 _ _

theorem fitsKind_read (c : Char) (cs : List Char) : (read c cs).FitsKind := by
  unfold read
  split
  case h_6 | h_7 | h_8 => exact fitsKind_beforeEquals (by decide) (by decide) _ _
  case h_9 => exact fitsKind_quoted cs
  case h_10 =>
    split
    · exact fitsKind_plain (by simp) (by simp) _ _
    split
    · exact fitsKind_word ‹_› cs
    · exact fitsKind_plain (by decide) (by decide) _ _
  all_goals exact fitsKind_plain (by decide) (by decide) _ _

end Lexeme

/-- A token whose text a text can hold. -/
structure Token.FitsKind (t : Token) : Prop where
  ident : t.kind = .ident → IsFieldName t.text
  string : t.kind = .string → '"' ∉ t.text.toList

namespace Lexer

/-- What holds of every token that is taken off some text holds of all tokens of a text. -/
theorem forall_mem_tokens {P : Token → Prop} (h : ∀ offset c cs, P (take offset c cs).1)
    (l : Lexer) : ∀ t ∈ l.tokens, P t := by
  induction l using tokens.induct with
  | case1 l hn =>
    rw [tokens, hn]
    simp
  | case2 l r hr ih =>
    obtain ⟨c, cs, -, rfl⟩ := next?_eq_some hr
    rw [tokens, hr]
    simp only [List.forall_mem_cons]
    exact ⟨h _ c cs, ih⟩

theorem fitsKind_of_mem_tokens (l : Lexer) : ∀ t ∈ l.tokens, t.FitsKind :=
  l.forall_mem_tokens fun offset c cs =>
    ⟨(Lexeme.fitsKind_read c cs).ident, fun hk => by
      simpa [take] using (Lexeme.fitsKind_read c cs).string hk⟩

end Lexer

end TicketQuery
