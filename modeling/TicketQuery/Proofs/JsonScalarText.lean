import Mathlib.Algebra.Ring.Int.Defs
import Mathlib.Algebra.Ring.Nat
import TicketQuery.JsonToken
import TicketQuery.JsonValue
import TicketQuery.Proofs.Delimiters

/-! # Scalars in JSON text

A text with its escapes, and an integer of 64 bits with its digits, are each one token that has the
value they were written for. -/
namespace TicketQuery

namespace JsonText

theorem hexEscape_hexPair {n : Nat} (h : n < 0x20) (index : Nat) (rest : List Char) :
    hexEscape index ('0' :: '0' :: (JsonValue.hexPair n ++ rest)) = .ok (n, rest) := by
  have hdigits : ∀ n < 0x20, ('0' :: '0' :: JsonValue.hexPair n).mapM hexDigit? =
      some [0, 0, n / 16, n % 16] := by
    decide
  have hn := hdigits n h
  simp only [JsonValue.hexPair] at hn
  simp only [hexEscape, JsonValue.hexPair, List.cons_append, List.nil_append, hn]
  simp
  omega

/-- What follows a backslash denotes a character, whether it is wanted or passed over. -/
def IsEscape (c : Char) (es : List Char) : Prop :=
  ∀ index rest, ∃ stop, escape index (es ++ rest) = .ok (c, ⟨stop, rest⟩) ∧
    skipEscape index (es ++ rest) = .ok ⟨stop, rest⟩

theorem isEscape_of_lookup {c d : Char} (hd : d ≠ 'u') (h : simpleEscapes.lookup d = some c) :
    IsEscape c [d] := fun index _ =>
  ⟨index + 1, by simp [escape, h], by simp [skipEscape, h]⟩

theorem isEscape_hexPair {c : Char} (h : c.toNat < 0x20) :
    IsEscape c ('u' :: '0' :: '0' :: JsonValue.hexPair c.toNat) := by
  intro index rest
  have hhex := hexEscape_hexPair h (index + 1) rest
  have hlow : isLowSurrogate c.toNat = false := by
    simp [isLowSurrogate]
    omega
  have hhigh : isHighSurrogate c.toNat = false := by
    simp [isHighSurrogate]
    omega
  exact ⟨index + 5, by simp [escape, unicodeEscape, hhex, hlow, hhigh],
    by simp [skipEscape, hhex, Except.map]⟩

/-- A character is written as it is or as an escape. -/
theorem escapedChar_cases (c : Char) :
    (JsonValue.escapedChar c = [c] ∧ c ≠ '"' ∧ c ≠ '\\' ∧ ¬ c.toNat < 0x20) ∨
      ∃ es, JsonValue.escapedChar c = '\\' :: es ∧ IsEscape c es := by
  unfold JsonValue.escapedChar
  split
  case h_8 =>
    split
    · next h => exact .inr ⟨_, rfl, isEscape_hexPair h⟩
    · next h => exact .inl ⟨rfl, by assumption, by assumption, h⟩
  all_goals exact .inr ⟨_, rfl, isEscape_of_lookup (by decide) (by decide)⟩

theorem decode_escaped (cs rest : List Char) (index : Nat) :
    ∃ stop, decode index (cs.flatMap JsonValue.escapedChar ++ '"' :: rest) =
        .ok (cs, ⟨stop, rest⟩) ∧
      skip index (cs.flatMap JsonValue.escapedChar ++ '"' :: rest) = .ok ⟨stop, rest⟩ := by
  induction cs generalizing index with
  | nil => exact ⟨index + 1, by simp [decode], by simp [skip]⟩
  | cons c cs ih =>
    rw [List.flatMap_cons, List.append_assoc]
    rcases escapedChar_cases c with ⟨hc, hquote, hslash, hcontrol⟩ | ⟨es, hc, hes⟩
    · obtain ⟨stop, hdecode, hskip⟩ := ih (index + c.utf8Size)
      refine ⟨stop, ?_, ?_⟩
      · rw [hc, List.singleton_append, decode, if_neg hcontrol, hdecode]
        · rfl
        · exact hquote
        · exact hslash
      · rw [hc, List.singleton_append, skip, if_neg hcontrol, hskip]
        · exact hquote
        · exact hslash
    · obtain ⟨next, hescape, hskipped⟩ :=
        hes (index + 1) (cs.flatMap JsonValue.escapedChar ++ '"' :: rest)
      obtain ⟨stop, hdecode, hskip⟩ := ih next
      refine ⟨stop, ?_, ?_⟩
      · rw [hc, List.cons_append, decode]
        split
        · simp_all
        · next r hr =>
          cases hr.symm.trans hescape
          rw [hdecode]
          rfl
      · rw [hc, List.cons_append, skip]
        split
        · simp_all
        · next p hp =>
          cases hp.symm.trans hskipped
          exact hskip

end JsonText

namespace JsonNumber

/-- The characters that a number goes on with. -/
def isNumberChar (c : Char) : Bool := c.isDigit || c == '.' || c == 'e' || c == 'E'

theorem startsOutside_isDigit {rest : List Char} (h : StartsOutside isNumberChar rest) :
    StartsOutside Char.isDigit rest := by
  intro c cs hc
  have := h c cs hc
  simp_all [isNumberChar]

/-- Only zero starts with the digit zero. -/
theorem toDigits_head_ne_zero {n : Nat} (hn : n ≠ 0) :
    ∃ d ds, Nat.toDigits 10 n = d :: ds ∧ d ≠ '0' := by
  induction n using Nat.strongRecOn with
  | ind n ih =>
    rw [Nat.toDigits_eq_if (by decide)]
    split
    · next hlt =>
      have hdigit : ∀ n < 10, n ≠ 0 → n.digitChar ≠ '0' := by decide
      exact ⟨_, [], rfl, hdigit n hlt hn⟩
    · next hge =>
      obtain ⟨d, ds, hd, hne⟩ := ih (n / 10) (by omega) (by omega)
      exact ⟨d, ds ++ [(n % 10).digitChar], by rw [hd, List.cons_append], hne⟩

theorem exists_repr_eq_cons (n : Nat) : ∃ d ds, n.repr.toList = d :: ds ∧ d.isDigit = true := by
  obtain ⟨d, ds, hd⟩ := List.exists_cons_of_ne_nil (l := n.repr.toList)
    (by rw [Nat.toList_repr]; exact Nat.toDigits_ne_nil)
  exact ⟨d, ds, hd, isDigit_of_mem_repr (hd ▸ List.mem_cons_self)⟩

theorem wholePart_repr (n index : Nat) {rest : List Char} (h : StartsOutside isNumberChar rest) :
    wholePart index (n.repr.toList ++ rest) = .ok (n.repr.toList, rest) := by
  have hrest := startsOutside_isDigit h
  by_cases hn : n = 0
  · subst hn
    have hz : (0 : Nat).repr.toList = ['0'] := by decide
    rw [hz]
    cases rest with
    | nil => rfl
    | cons c cs => simp [wholePart, hrest c cs rfl]
  · obtain ⟨d, ds, hd, hne⟩ := toDigits_head_ne_zero hn
    have hall : ∀ c ∈ n.repr.toList, c.isDigit = true := fun c hc => isDigit_of_mem_repr hc
    obtain ⟨ht, hr⟩ := takeWhile_append_of_startsOutside hall hrest
    rw [Nat.toList_repr, hd] at ht hr ⊢
    have hzero : wholePart index (d :: ds ++ rest) = digits index (d :: ds ++ rest) := by
      rw [List.cons_append, wholePart]
      simpa using hne
    rw [hzero, digits, ht, hr]

theorem read_sign_repr (negative : Bool) (n index : Nat) {rest : List Char}
    (h : StartsOutside isNumberChar rest) :
    let written := (if negative then ['-'] else []) ++ n.repr.toList
    read index (written ++ rest) =
      .ok (⟨negative, n.repr.toList, [], none⟩, rest) := by
  intro written
  have hsign : signPart (written ++ rest) = (negative, n.repr.toList ++ rest) := by
    cases negative with
    | true => rfl
    | false =>
      obtain ⟨d, ds, hd, hdigit⟩ := exists_repr_eq_cons n
      have hne : d ≠ '-' := by
        rintro rfl
        exact absurd hdigit (by decide)
      simp [written, hd, signPart, hne]
  have hfraction : ∀ i, fractionPart i rest = .ok ([], rest) := by
    intro i
    unfold fractionPart
    split
    · exact absurd (h _ _ rfl) (by decide)
    · rfl
  have hexponent : ∀ i, exponentPart i rest = .ok (none, rest) := by
    intro i
    cases rest with
    | nil => rfl
    | cons c cs =>
      have hc : ¬ (c = 'e' ∨ c = 'E') := by
        rintro (rfl | rfl) <;> exact absurd (h _ _ rfl) (by decide)
      simp [exponentPart, hc]
  simp only [read, hsign, wholePart_repr n _ h, hfraction, hexponent, bind, Except.bind, pure,
    Except.pure]

theorem natOf_repr (n : Nat) : natOf n.repr.toList = n := by
  rw [natOf, Nat.toList_repr]
  exact Nat.ofDigitChars_ten_toDigits

end JsonNumber

namespace JsonValue

/-- An integer of 64 bits, with a sign or without. -/
def Is64Bit (n : Int) : Prop := -2 ^ 63 ≤ n ∧ n < 2 ^ 64

/-- An integer is written as a number with its value. -/
theorem exists_read_toString {n : Int} (hn : Is64Bit n) (index : Nat) {rest : List Char}
    (h : StartsOutside JsonNumber.isNumberChar rest) :
    ∃ m, JsonNumber.read index ((toString n).toList ++ rest) = .ok (m, rest) ∧
      m.value? = some (.integer n) := by
  obtain ⟨hmin, hmax⟩ := hn
  cases n with
  | ofNat n =>
    have hlt : n < Nat.pow 2 64 := by
      rw [Nat.pow_eq]
      simp only [Int.ofNat_eq_natCast] at hmax
      omega
    refine ⟨_, JsonNumber.read_sign_repr false n index h, JsonNumber.value?_eq_integer_iff.2 ?_⟩
    rw [JsonNumber.integer?, if_neg (by simp), if_neg (by simp), JsonNumber.natOf_repr, if_pos hlt]
    rfl
  | negSucc n =>
    have hle : n + 1 ≤ Nat.pow 2 63 := by
      rw [Nat.pow_eq]
      omega
    have hs : (toString (Int.negSucc n)).toList = ['-'] ++ (n + 1).repr.toList :=
      toList_repr_negSucc n
    rw [hs]
    refine ⟨_, JsonNumber.read_sign_repr true (n + 1) index h,
      JsonNumber.value?_eq_integer_iff.2 ?_⟩
    rw [JsonNumber.integer?, if_neg (by simp), if_pos rfl, JsonNumber.natOf_repr,
      if_pos ⟨Nat.succ_pos n, hle⟩]
    rfl

end JsonValue

namespace JsonLexeme

theorem read_of_isDigit {c : Char} (h : c = '-' ∨ c.isDigit = true) (index : Nat)
    (cs : List Char) : read index c cs = number index c cs := by
  have hc : (c = '-' || c.isDigit) = true := by simpa using h
  unfold read
  split
  case h_11 => rw [if_pos hc]
  all_goals exact absurd hc (by decide)

theorem number_of_read {index : Nat} {c : Char} {cs rest : List Char} {m : JsonNumber}
    {v : JsonScalar} (h : JsonNumber.read index (c :: cs) = .ok (m, rest))
    (hv : m.value? = some v) :
    (number index c cs).token.kind = .bare ⟨.ok v, .ok ()⟩ ∧
      ∃ p, (number index c cs).next = some p ∧ p.1.rest = rest := by
  unfold number
  split
  · next e he => cases he.symm.trans h
  · next n r hr =>
    cases hr.symm.trans h
    simp [hv]

theorem text_of_decode {index : Nat} {cs rest : List Char} {s : String} {stop : Nat}
    (hdecode : JsonText.decode (index + 1) cs = .ok (s.toList, ⟨stop, rest⟩))
    (hskip : JsonText.skip (index + 1) cs = .ok ⟨stop, rest⟩) :
    (text index cs).token.kind = .text ⟨.ok (.text s), .ok ()⟩ ∧
      ∃ p, (text index cs).next = some p ∧ p.1.rest = rest := by
  unfold text
  split
  · next p hp =>
    cases hp.symm.trans hskip
    simp [hdecode, Except.map]
  · next e he => cases he.symm.trans hskip

theorem exists_matchWord (letters rest : List Char) (index : Nat) :
    ∃ p, matchWord index (letters ++ rest) letters = .ok p ∧ p.1.rest = rest := by
  induction letters generalizing index with
  | nil => exact ⟨⟨⟨index, rest⟩, Nat.le_refl _⟩, by simp only [List.nil_append, matchWord], rfl⟩
  | cons l letters ih =>
    obtain ⟨p, hp, hrest⟩ := ih (index + 1)
    have hcons : matchWord index (l :: (letters ++ rest)) (l :: letters) =
        .ok ⟨p.1, Nat.le_trans p.2 (Nat.le_succ _)⟩ := by
      simp only [matchWord, if_pos, hp, Except.map]
    exact ⟨_, hcons, hrest⟩

theorem word_append (v : JsonScalar) (letters rest : List Char) (index : Nat) :
    (word v letters index (letters ++ rest)).token.kind = .bare ⟨.ok v, .ok ()⟩ ∧
      ∃ p, (word v letters index (letters ++ rest)).next = some p ∧ p.1.rest = rest := by
  obtain ⟨p, hp, hrest⟩ := exists_matchWord letters rest (index + 1)
  simp only [word, hp, true_and]
  exact ⟨p, rfl, hrest⟩

end JsonLexeme

end TicketQuery
