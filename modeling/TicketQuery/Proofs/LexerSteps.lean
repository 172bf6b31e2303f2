import TicketQuery.Lexer
import TicketQuery.Proofs.Delimiters

/-! # Single steps of the lexer

What the lexer takes off a text that starts with a given token, for each shape of token, and how the
tokens of the whole text come from such steps. -/
namespace TicketQuery

private theorem forall_ascii (p : Char → Prop) (h : ∀ n < 0x80, p (Char.ofNat n)) {c : Char}
    (hc : c.toNat < 0x80) : p c := by
  have h := h c.toNat hc
  rwa [Char.ofNat_toNat] at h

private theorem whiteSpaceRanges_disjoint : ∀ r ∈ whiteSpaceRanges, ∀ s ∈ alphabeticRanges,
    r.2 < s.1 ∨ s.2 < r.1 := by
  decide +kernel

private theorem isAlpha_of_ascii_whiteSpace : ∀ n < 0x80,
    isWhiteSpace (Char.ofNat n) = true → (Char.ofNat n).isAlpha = false := by
  decide +kernel

theorem isAlphabetic_eq_false_of_isWhiteSpace {c : Char} (h : isWhiteSpace c = true) :
    isAlphabetic c = false := by
  unfold isAlphabetic
  split
  · next hc =>
    exact forall_ascii (fun c => isWhiteSpace c = true → c.isAlpha = false)
      isAlpha_of_ascii_whiteSpace hc h
  · rw [Bool.eq_false_iff]
    intro ha
    obtain ⟨r, hr, hr₁, hr₂⟩ := inRanges_eq_true_iff.1 h
    obtain ⟨s, hs, hs₁, hs₂⟩ := inRanges_eq_true_iff.1 ha
    have := whiteSpaceRanges_disjoint r hr s hs
    omega

/-- The signs that tokens other than words and numbers start with. -/
def tokenSigns : List Char := ['=', '~', ',', '(', ')', '<', '>', '!', '"']

private theorem isIdentChar_of_ascii : ∀ n < 0x80, isIdentChar (Char.ofNat n) = true →
    isWhiteSpace (Char.ofNat n) = false ∧ (Char.ofNat n).isDigit = false ∧
      Char.ofNat n ∉ tokenSigns := by
  decide +kernel

/-- No identifier starts with a digit, with white space or with a sign. -/
theorem isIdentChar_disjoint {c : Char} (h : isIdentChar c = true) :
    isWhiteSpace c = false ∧ c.isDigit = false ∧ c ∉ tokenSigns := by
  by_cases hc : c.toNat < 0x80
  · exact forall_ascii (fun c => isIdentChar c = true →
      isWhiteSpace c = false ∧ c.isDigit = false ∧ c ∉ tokenSigns) isIdentChar_of_ascii hc h
  have hsmall : ∀ d : Char, d.toNat < 0x80 → c ≠ d := by
    rintro d hd rfl
    exact hc hd
  refine ⟨?_, ?_, ?_⟩
  · rw [Bool.eq_false_iff]
    intro hw
    have ha := isAlphabetic_eq_false_of_isWhiteSpace hw
    have h₁ := hsmall '_' (by decide)
    have h₂ := hsmall '-' (by decide)
    simp [isIdentChar, ha, h₁, h₂] at h
  · rw [Bool.eq_false_iff]
    intro hd
    have h₉ : '9'.toNat = 57 := rfl
    have := (Char.isDigit_iff_toNat.1 hd).2
    omega
  · have hs : tokenSigns.all (fun d => d.toNat < 0x80) = true := by decide
    exact fun hm => hsmall c (of_decide_eq_true (List.all_eq_true.1 hs c hm)) rfl

private theorem isIdentChar_toLower_of_ascii : ∀ n < 0x80,
    isIdentChar (Char.ofNat n).toLower = isIdentChar (Char.ofNat n) := by
  decide +kernel

/-- The case of a letter does not matter to words. -/
theorem isIdentChar_toLower (c : Char) : isIdentChar c.toLower = isIdentChar c := by
  by_cases hc : c.toNat < 0x80
  · exact forall_ascii (fun c => isIdentChar c.toLower = isIdentChar c)
      isIdentChar_toLower_of_ascii hc
  · have hlower : c.toLower = c := dif_neg fun h =>
      hc (Nat.lt_of_le_of_lt (UInt32.le_iff_toNat_le.1 h.2) (by decide))
    rw [hlower]

theorem isWhiteSpace_eq_false_of_isDigit {c : Char} (h : c.isDigit = true) :
    isWhiteSpace c = false := by
  have hs : ∀ n < 0x80, (Char.ofNat n).isDigit = true → isWhiteSpace (Char.ofNat n) = false := by
    decide +kernel
  have h₉ : '9'.toNat = 57 := rfl
  have := (Char.isDigit_iff_toNat.1 h).2
  exact forall_ascii (fun c => c.isDigit = true → isWhiteSpace c = false) hs (by omega) h

theorem Lexeme.read_of_isIdentChar {c : Char} (h : isIdentChar c = true) (cs : List Char) :
    read c cs = run TokenKind.ofWord isIdentChar c cs := by
  obtain ⟨-, hd, hs⟩ := isIdentChar_disjoint h
  simp only [tokenSigns, List.mem_cons, List.not_mem_nil, or_false, not_or] at hs
  unfold read
  split <;> simp_all

theorem Lexeme.read_of_isDigit {c : Char} (h : c.isDigit = true) (cs : List Char) :
    read c cs = run (fun _ => .int) Char.isDigit c cs := by
  unfold read
  split <;> simp_all

theorem Lexeme.read_quote (s rest : List Char) (h : '"' ∉ s) :
    read '"' (s ++ '"' :: rest) = ⟨.string, s, '"' :: s ++ ['"'], rest⟩ := by
  have hs : ∀ c ∈ s, (c != '"') = true := by
    intro c hc
    exact bne_iff_ne.2 fun he => h (he ▸ hc)
  have hr : StartsOutside (· != '"') ('"' :: rest) := by
    rintro c cs ⟨⟩
    rfl
  obtain ⟨ht, hd⟩ := takeWhile_append_of_startsOutside hs hr
  simp only [read, quoted, ht, hd]

namespace Lexer

theorem tokens_congr {l l' : Lexer} (h : l.skipWhiteSpace = l'.skipWhiteSpace) :
    l.tokens = l'.tokens := by
  have hn : l.next? = l'.next? := by rw [next?, next?, h]
  rw [tokens, tokens]
  split <;> split <;> simp_all

/-- A blank in front is skipped. -/
theorem tokens_blank (rest : List Char) (offset : Nat) :
    (⟨' ' :: rest, offset⟩ : Lexer).tokens = (⟨rest, offset + 1⟩ : Lexer).tokens := by
  have hw : isWhiteSpace ' ' = true := by decide
  have hsize : ' '.utf8Size = 1 := rfl
  apply tokens_congr
  simp [skipWhiteSpace, hw, hsize, Nat.add_assoc]

theorem tokens_of_read {c : Char} {cs text rest : List Char} {kind : TokenKind} (offset : Nat)
    (hw : isWhiteSpace c = false) (h : Lexeme.read c (cs ++ rest) = ⟨kind, text, c :: cs, rest⟩) :
    (⟨c :: cs ++ rest, offset⟩ : Lexer).tokens =
      ⟨kind, String.ofList text, ⟨offset, offset + utf8Length (c :: cs)⟩⟩ ::
        (⟨rest, offset + utf8Length (c :: cs)⟩ : Lexer).tokens := by
  have hn : (⟨c :: cs ++ rest, offset⟩ : Lexer).next? = some
      (⟨kind, String.ofList text, ⟨offset, offset + utf8Length (c :: cs)⟩⟩,
        ⟨rest, offset + utf8Length (c :: cs)⟩) := by
    simp [next?, skipWhiteSpace, hw, take, h]
  rw [tokens]
  split
  · next hnone => cases hnone.symm.trans hn
  · next r hr =>
    cases hr.symm.trans hn
    rfl

end Lexer

end TicketQuery
