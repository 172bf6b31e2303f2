import TicketQuery.Proofs.LexedTokens
import TicketQuery.Proofs.LexerSteps

/-! # Shapes of tokens

What a token takes off the front of a text, said without the reader: its source, the text that is
kept of it, and what may follow. A token is as long as it can be, and only a string that is never
closed depends on where the text ends. -/
namespace TicketQuery

/-- The tokens of one or two signs that nothing behind them can change. -/
def signKinds : List (List Char × TokenKind) :=
  [(['='], .operator (.comparison .eq)), (['~'], .operator (.comparison .like)), ([','], .comma),
    (['('], .leftParen), ([')'], .rightParen), (['<', '='], .operator (.comparison .le)),
    (['>', '='], .operator (.comparison .ge)), (['!', '='], .operator (.comparison .ne))]

/-- The signs that make another token with an equals sign behind them. -/
def pairableKinds : List (Char × TokenKind) :=
  [('<', .operator (.comparison .lt)), ('>', .operator (.comparison .gt)), ('!', .illegal)]

/-- A string without its closing quote. -/
def IsOpenString (source : List Char) : Prop := ∃ body, source = '"' :: body ∧ '"' ∉ body

inductive IsLexeme : TokenKind → (text source rest : List Char) → Prop where
  | sign {kind : TokenKind} {source rest : List Char} (h : (source, kind) ∈ signKinds) :
      IsLexeme kind source source rest
  | pairable {kind : TokenKind} {c : Char} {rest : List Char} (h : (c, kind) ∈ pairableKinds)
      (hr : StartsOutside (· == '=') rest) : IsLexeme kind [c] [c] rest
  | number {source rest : List Char} (hne : source ≠ []) (h : ∀ c ∈ source, c.isDigit = true)
      (hr : StartsOutside Char.isDigit rest) : IsLexeme .int source source rest
  | word {source rest : List Char} (hne : source ≠ []) (h : ∀ c ∈ source, isIdentChar c = true)
      (hr : StartsOutside isIdentChar rest) : IsLexeme (.ofWord source) source source rest
  | string {body rest : List Char} (h : '"' ∉ body) :
      IsLexeme .string body ('"' :: body ++ ['"']) rest
  | openString {body : List Char} (h : '"' ∉ body) : IsLexeme .string body ('"' :: body) []
  | stray {c : Char} {rest : List Char} (hs : c ∉ tokenSigns) (hd : c.isDigit = false)
      (hi : isIdentChar c = false) (hw : isWhiteSpace c = false) : IsLexeme .illegal [c] [c] rest

namespace Lexeme

/-- The reader takes such a token off every text that does not start with white space. -/
def HasShape (x : Lexeme) : Prop := IsLexeme x.kind x.text x.source x.rest

theorem hasShape_sign {kind : TokenKind} {source : List Char} (h : (source, kind) ∈ signKinds)
    (rest : List Char) : (plain kind source rest).HasShape := .sign h

theorem hasShape_run {kind : List Char → TokenKind} {p : Char → Bool} {c : Char} (hc : p c = true)
    (cs : List Char) (h : ∀ {source rest}, source ≠ [] → (∀ d ∈ source, p d = true) →
      StartsOutside p rest → IsLexeme (kind source) source source rest) :
    (run kind p c cs).HasShape :=
  h (List.cons_ne_nil _ _) (List.forall_mem_cons.2 ⟨hc, List.all_eq_true.1 List.all_takeWhile⟩)
    (startsOutside_dropWhile p cs)

theorem hasShape_beforeEquals {alone paired : TokenKind} {c : Char}
    (ha : (c, alone) ∈ pairableKinds) (hp : ([c, '='], paired) ∈ signKinds) (cs : List Char) :
    (beforeEquals alone paired c cs).HasShape := by
  unfold beforeEquals
  split
  · exact .sign hp
  · next hne =>
    refine .pairable ha fun d rest h => ?_
    rw [beq_eq_false_iff_ne]
    rintro rfl
    exact hne rest h

theorem hasShape_quoted (cs : List Char) : (quoted cs).HasShape := by
  have hq : '"' ∉ cs.takeWhile (· != '"') := fun hm =>
    absurd (List.all_eq_true.1 List.all_takeWhile _ hm) (by decide)
  unfold quoted
  split
  · exact .openString hq
  · next quote rest h =>
    have hquote := startsOutside_dropWhile (· != '"') cs quote rest h
    obtain rfl : quote = '"' := by simpa using hquote
    exact .string hq

theorem hasShape_read {c : Char} (hw : isWhiteSpace c = false) (cs : List Char) :
    (read c cs).HasShape := by
  unfold read
  split
  case h_6 | h_7 | h_8 => exact hasShape_beforeEquals (by decide) (by decide) cs
  case h_9 => exact hasShape_quoted cs
  case h_10 =>
    split
    · exact hasShape_run ‹_› cs .number
    split
    · exact hasShape_run ‹_› cs .word
    · exact .stray (by simp_all [tokenSigns]) (by simp_all) (by simp_all) hw
  all_goals exact hasShape_sign (by decide) cs

end Lexeme

namespace IsLexeme

variable {kind : TokenKind} {text source rest : List Char}

/-- Whatever has the shape of a token is read as that token. -/
theorem exists_read_eq (h : IsLexeme kind text source rest) :
    ∃ c cs, source = c :: cs ∧ isWhiteSpace c = false ∧
      Lexeme.read c (cs ++ rest) = ⟨kind, text, source, rest⟩ := by
  cases h with
  | sign h =>
    simp only [signKinds, List.mem_cons, List.not_mem_nil, or_false, Prod.mk.injEq] at h
    rcases h with ⟨rfl, rfl⟩ | ⟨rfl, rfl⟩ | ⟨rfl, rfl⟩ | ⟨rfl, rfl⟩ | ⟨rfl, rfl⟩ | ⟨rfl, rfl⟩ |
      ⟨rfl, rfl⟩ | ⟨rfl, rfl⟩ <;> exact ⟨_, _, rfl, by decide, rfl⟩
  | @pairable _ c _ h hr =>
    have halone : ∀ alone paired, Lexeme.beforeEquals alone paired c rest =
        ⟨alone, [c], [c], rest⟩ := by
      intro alone paired
      unfold Lexeme.beforeEquals
      split
      · next rest' => exact absurd (hr '=' rest' rfl) (by decide)
      · rfl
    simp only [pairableKinds, List.mem_cons, List.not_mem_nil, or_false, Prod.mk.injEq] at h
    rcases h with ⟨rfl, rfl⟩ | ⟨rfl, rfl⟩ | ⟨rfl, rfl⟩ <;>
      exact ⟨_, _, rfl, by decide, halone _ _⟩
  | number hne h hr =>
    obtain ⟨c, cs, rfl⟩ := List.exists_cons_of_ne_nil hne
    obtain ⟨hc, hcs⟩ := List.forall_mem_cons.1 h
    obtain ⟨ht, hd⟩ := takeWhile_append_of_startsOutside hcs hr
    refine ⟨c, cs, rfl, isWhiteSpace_eq_false_of_isDigit hc, ?_⟩
    rw [Lexeme.read_of_isDigit hc, Lexeme.run, ht, hd]
    rfl
  | word hne h hr =>
    obtain ⟨c, cs, rfl⟩ := List.exists_cons_of_ne_nil hne
    obtain ⟨hc, hcs⟩ := List.forall_mem_cons.1 h
    obtain ⟨ht, hd⟩ := takeWhile_append_of_startsOutside hcs hr
    refine ⟨c, cs, rfl, (isIdentChar_disjoint hc).1, ?_⟩
    rw [Lexeme.read_of_isIdentChar hc, Lexeme.run, ht, hd]
    rfl
  | string h =>
    refine ⟨'"', text ++ ['"'], rfl, by decide, ?_⟩
    rw [List.append_assoc]
    exact Lexeme.read_quote text rest h
  | openString h =>
    have hs : ∀ c ∈ text, (c != '"') = true := fun c hc => bne_iff_ne.2 fun he => h (he ▸ hc)
    obtain ⟨ht, hd⟩ := takeWhile_append_of_startsOutside hs (startsOutside_nil _)
    rw [List.append_nil] at ht hd
    refine ⟨'"', text, rfl, by decide, ?_⟩
    simp only [List.append_nil, Lexeme.read, Lexeme.quoted, ht, hd]
  | @stray c _ hs hd hi hw =>
    refine ⟨c, [], rfl, hw, ?_⟩
    simp only [tokenSigns, List.mem_cons, List.not_mem_nil, or_false, not_or] at hs
    unfold Lexeme.read
    split <;> simp_all [Lexeme.plain]

theorem source_ne_nil (h : IsLexeme kind text source rest) : source ≠ [] := by
  obtain ⟨c, cs, rfl, -⟩ := h.exists_read_eq
  exact List.cons_ne_nil c cs

theorem utf8Length_source_pos (h : IsLexeme kind text source rest) : 0 < utf8Length source :=
  Nat.lt_of_lt_of_le (List.length_pos_iff.2 h.source_ne_nil) (length_le_utf8Length source)

theorem kind_ne_eof (h : IsLexeme kind text source rest) : kind ≠ .eof := by
  cases h with
  | sign h =>
    have hn : ∀ p ∈ signKinds, p.2 ≠ .eof := by decide
    exact hn _ h
  | pairable h =>
    have hn : ∀ p ∈ pairableKinds, p.2 ≠ .eof := by decide
    exact hn _ h
  | word =>
    have hn : ∀ k ∈ TokenKind.keywords.map Prod.snd, k ≠ .eof := by decide
    rcases TokenKind.ofWord_cases text with ⟨hk, -⟩ | hk
    · rw [hk]
      exact nofun
    · exact hn _ hk
  | number | string | openString | stray => exact nofun

/-- A string that is not closed goes on to the end. -/
theorem rest_eq_nil_of_isOpenString (h : IsLexeme kind text source rest)
    (ho : IsOpenString source) : rest = [] := by
  obtain ⟨body, rfl, hb⟩ := ho
  obtain ⟨c, cs, hc, -, hread⟩ := h.exists_read_eq
  cases hc
  simp only [Lexeme.read, Lexeme.quoted] at hread
  split at hread
  · exact (Lexeme.mk.inj hread).2.2.2.symm
  · next quote rest' hd =>
    have hquote := startsOutside_dropWhile (· != '"') _ quote rest' hd
    obtain rfl : quote = '"' := by simpa using hquote
    have hsource : _ ++ ['"'] = body := (List.cons.inj (Lexeme.mk.inj hread).2.2.1).2
    refine absurd ?_ hb
    rw [← hsource]
    simp

end IsLexeme

end TicketQuery
