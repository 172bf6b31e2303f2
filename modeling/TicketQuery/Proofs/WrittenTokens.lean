import TicketQuery.Proofs.LexerSteps
import TicketQuery.Proofs.WellFormed
import TicketQuery.QueryText

/-! # The tokens of a written query

What the lexer makes of each piece that a written query is put together from, whatever stands behind
the piece as long as it is separated from it. -/
namespace TicketQuery

/-- At every place, the text before the rest is taken off as tokens of the given sort. -/
def Lexes (cs rest : List Char) (P : List Token → Prop) : Prop :=
  ∀ offset, ∃ ts stop, P ts ∧
    (⟨cs ++ rest, offset⟩ : Lexer).tokens = ts ++ (⟨rest, stop⟩ : Lexer).tokens

/-- A single token, wherever it stands. -/
def IsToken (kind : TokenKind) (text : String) (ts : List Token) : Prop :=
  ∃ t, ts = [t] ∧ t.kind = kind ∧ t.text = text

namespace Lexes

variable {cs ds rest : List Char} {P Q R : List Token → Prop}

theorem mono (h : Lexes cs rest P) (hp : ∀ ts, P ts → Q ts) : Lexes cs rest Q := by
  intro offset
  obtain ⟨ts, stop, hts, he⟩ := h offset
  exact ⟨ts, stop, hp ts hts, he⟩

theorem append (h : Lexes cs (ds ++ rest) P) (h' : Lexes ds rest Q)
    (hr : ∀ ts us, P ts → Q us → R (ts ++ us)) : Lexes (cs ++ ds) rest R := by
  intro offset
  obtain ⟨ts, stop, hts, he⟩ := h offset
  obtain ⟨us, stop', hus, he'⟩ := h' stop
  refine ⟨ts ++ us, stop', hr ts us hts hus, ?_⟩
  rw [List.append_assoc, he, he', List.append_assoc]

theorem blank (h : Lexes cs rest P) : Lexes (' ' :: cs) rest P := by
  intro offset
  obtain ⟨ts, stop, hts, he⟩ := h (offset + 1)
  exact ⟨ts, stop, hts, (Lexer.tokens_blank _ _).trans he⟩

theorem of_nil (h : P []) : Lexes [] rest P := fun offset => ⟨[], offset, h, rfl⟩

theorem of_read {c : Char} {text : List Char} {kind : TokenKind} (hw : isWhiteSpace c = false)
    (h : Lexeme.read c (cs ++ rest) = ⟨kind, text, c :: cs, rest⟩) :
    Lexes (c :: cs) rest (IsToken kind (String.ofList text)) := fun offset =>
  ⟨_, _, ⟨_, rfl, rfl, rfl⟩, Lexer.tokens_of_read offset hw h⟩

/-- The tokens of a whole text. -/
theorem tokens (h : Lexes cs [] P) (offset : Nat) : P (⟨cs, offset⟩ : Lexer).tokens := by
  obtain ⟨ts, stop, hts, he⟩ := h offset
  have hn : (⟨[], stop⟩ : Lexer).tokens = [] := by
    rw [Lexer.tokens]
    rfl
  rw [List.append_nil] at he
  rwa [he, hn, List.append_nil]

end Lexes

/-- A run of a class of characters whose members all start such a run. -/
theorem lexes_run {p : Char → Bool} {kind : List Char → TokenKind}
    (hread : ∀ c, p c = true → isWhiteSpace c = false ∧
      ∀ cs, Lexeme.read c cs = Lexeme.run kind p c cs)
    {s : String} {rest : List Char} (hne : s.toList ≠ []) (h : ∀ c ∈ s.toList, p c = true)
    (hr : StartsOutside p rest) : Lexes s.toList rest (IsToken (kind s.toList) s) := by
  obtain ⟨ht, hd⟩ := takeWhile_append_of_startsOutside h hr
  cases hs : s.toList with
  | nil => exact absurd hs hne
  | cons c cs =>
    have he : s = String.ofList (c :: cs) := by rw [← hs, String.ofList_toList]
    have hc : p c = true := h c (by simp [hs])
    obtain ⟨hw, hrun⟩ := hread c hc
    simp only [hs, List.cons_append, List.takeWhile_cons, List.dropWhile_cons, hc, if_true,
      List.cons.injEq, true_and] at ht hd
    rw [he]
    apply Lexes.of_read hw
    rw [hrun, Lexeme.run, ht, hd]
    rfl

theorem lexes_word {word : String} {rest : List Char} (hne : word.toList ≠ [])
    (h : word.toList.all isIdentChar = true) (hr : Delimited rest) :
    Lexes word.toList rest (IsToken (TokenKind.ofWord word.toList) word) :=
  lexes_run (fun _ hc => ⟨(isIdentChar_disjoint hc).1, Lexeme.read_of_isIdentChar hc⟩) hne
    (List.all_eq_true.1 h) (hr.startsOutside (by decide) (by decide))

theorem lexes_digits {digits : String} {rest : List Char} (hne : digits.toList ≠ [])
    (h : ∀ c ∈ digits.toList, c.isDigit = true) (hr : Delimited rest) :
    Lexes digits.toList rest (IsToken .int digits) :=
  lexes_run
    (fun _ hc => ⟨isWhiteSpace_eq_false_of_isDigit hc, Lexeme.read_of_isDigit hc⟩) hne h
    (hr.startsOutside (by decide) (by decide))

theorem lexes_quote {s : String} (h : '"' ∉ s.toList) (rest : List Char) :
    Lexes (quote s).toList rest (IsToken .string s) := by
  have hq : (quote s).toList = '"' :: (s.toList ++ ['"']) := by simp [quote]
  have hs : String.ofList s.toList = s := String.ofList_toList
  rw [hq, ← hs]
  simp only [String.toList_ofList]
  apply Lexes.of_read (by decide)
  simpa using Lexeme.read_quote s.toList rest h

theorem lexes_opening (rest : List Char) : Lexes ['('] rest (IsToken .leftParen "(") :=
  Lexes.of_read (by decide) rfl

theorem lexes_closing (rest : List Char) : Lexes [')'] rest (IsToken .rightParen ")") :=
  Lexes.of_read (by decide) rfl

/-- An operator with a blank behind it. -/
theorem lexes_operator (op : Operator) (rest : List Char) :
    Lexes op.symbol.toList (' ' :: rest) (IsToken (.operator op) op.symbol) := by
  cases op with
  | comparison c => cases c <;> exact Lexes.of_read (by decide) rfl
  | connective k => cases k <;> exact lexes_word (by decide) (by decide) (delimited_blank rest)

/-- The words that modifiers start with. -/
theorem lexes_keyword (k : ModifierKind) (rest : List Char) :
    Lexes k.keyword.toList (' ' :: rest)
      (IsToken (TokenKind.ofWord k.keyword.toList) k.keyword) := by
  apply lexes_word _ _ (delimited_blank rest)
  · cases k <;> decide
  · cases k <;> decide

theorem IsFieldName.lexes {name : String} (h : IsFieldName name) {rest : List Char}
    (hr : Delimited rest) : Lexes name.toList rest (IsToken .ident name) := by
  have hl := lexes_word h.ne_nil (List.all_eq_true.2 h.isIdentChar) hr
  rwa [h.ofWord_eq] at hl

/-- An integer is written as digits that give it back. -/
theorem Literal.lexes_integer {n : Int} (h : (Literal.integer n).IsWritable) {rest : List Char}
    (hr : Delimited rest) : Lexes (Literal.integer n).inQuery.toList rest (fun ts =>
      ∃ digits, IsToken .int digits ts ∧ integerOf? digits = some n) := by
  obtain ⟨h₀, hmax⟩ := h
  obtain ⟨m, rfl⟩ := Int.eq_ofNat_of_zero_le h₀
  have hm : m ≤ maxInteger := Int.ofNat_le.1 hmax
  have hd : (Literal.integer m).inQuery.toList = Nat.toDigits 10 m := Nat.toList_repr
  have hi : integerOf? (Literal.integer m).inQuery = some (m : Int) := by
    simp only [integerOf?, hd, Nat.ofDigitChars_ten_toDigits, if_pos hm]
  apply (lexes_digits ?_ ?_ hr).mono fun ts hts => ⟨_, hts, hi⟩
  · rw [hd]
    exact Nat.toDigits_ne_nil
  · exact fun c hc => isDigit_of_mem_repr hc

end TicketQuery
