import TicketQuery.Proofs.FaultPlaces
import TicketQuery.Proofs.FaultTokens

/-! # Texts that messages name

Three messages name a text: a word without quotes, digits that are too large, or the kind of the
token in place of a closing parenthesis. The digits and the token are those at the place of the
fault. The word is there too if it stands alone; behind a word in parentheses the place is that of
the last parenthesis. -/
namespace TicketQuery

/-- A word is an identifier or a keyword. -/
theorem TokenKind.ofWord_ne {k : TokenKind} (h : k ∉ .ident :: keywords.map Prod.snd)
    (word : List Char) : ofWord word ≠ k := by
  rintro rfl
  refine h (List.mem_cons.2 ?_)
  exact (ofWord_cases word).imp_left And.left

theorem TokenKind.map_toLower_mem_keywords {word : List Char} (h : ofWord word ≠ .ident) :
    word.map Char.toLower ∈ keywords.map Prod.fst := by
  unfold ofWord at h
  cases hl : keywords.lookup (word.map Char.toLower) with
  | none => exact absurd (by rw [hl]; rfl) h
  | some k => exact List.mem_map_of_mem (mem_keywords_of_lookup hl)

/-- The first letters of the messages that name a text. -/
def namingInitials : List Char := ['m', 'c', 'e']

theorem mem_namingInitials_iff {c : Char} : c ∈ namingInitials ↔ c = 'm' ∨ c = 'c' ∨ c = 'e' := by
  simp [namingInitials]

namespace IsLexeme

variable {kind : TokenKind} {text source rest : List Char}

theorem source_eq_text (h : IsLexeme kind text source rest) (hk : kind ≠ .string) :
    source = text := by
  cases h with
  | string | openString => exact absurd rfl hk
  | sign | pairable | number | word | stray => rfl

theorem isDigit_of_int (h : IsLexeme kind text source rest) (hk : kind = .int) :
    ∀ c ∈ text, c.isDigit = true := by
  cases h with
  | number hne h => exact h
  | sign h => simp [hk, signKinds] at h
  | pairable h => simp [hk, pairableKinds] at h
  | word => exact absurd hk (TokenKind.ofWord_ne (by decide) _)
  | string | openString | stray => cases hk

theorem eq_closing_of_rightParen (h : IsLexeme kind text source rest) (hk : kind = .rightParen) :
    text = [')'] := by
  cases h with
  | sign h => simpa [hk, signKinds] using h
  | pairable h => simp [hk, pairableKinds] at h
  | word => exact absurd hk (TokenKind.ofWord_ne (by decide) _)
  | number | string | openString | stray => cases hk

/-- Signs and keywords start otherwise than the messages that name a text. -/
theorem exists_head?_text (h : IsLexeme kind text source rest) (hi : kind ≠ .ident)
    (hs : kind ≠ .string) (hn : kind ≠ .int) :
    ∃ c, text.head? = some c ∧ c ∉ namingInitials := by
  cases h with
  | sign h =>
    have hsign : ∀ p ∈ signKinds, p.1.head?.any (· ∉ namingInitials) = true := by decide
    obtain ⟨c, hc, hn⟩ := (Option.any_eq_true _ _).1 (hsign _ h)
    exact ⟨c, hc, of_decide_eq_true hn⟩
  | pairable h =>
    have hpairable : ∀ p ∈ pairableKinds, p.1 ∉ namingInitials := by decide
    exact ⟨_, rfl, hpairable _ h⟩
  | word hne h =>
    obtain ⟨c, cs, rfl⟩ := List.exists_cons_of_ne_nil hne
    have hkeywords : ∀ w ∈ TokenKind.keywords.map Prod.fst,
        w.head?.all (· ∉ namingInitials) = true := by decide
    have hlower : c.toLower ∉ namingInitials := of_decide_eq_true <|
      (Option.all_eq_true _ _).1 (hkeywords _ (TokenKind.map_toLower_mem_keywords hi)) _ rfl
    refine ⟨c, rfl, fun hc => hlower ?_⟩
    rcases mem_namingInitials_iff.1 hc with rfl | rfl | rfl <;> decide
  | @stray c _ _ _ hident _ =>
    refine ⟨c, rfl, fun hc => ?_⟩
    have hword : isIdentChar c = true := by
      rcases mem_namingInitials_iff.1 hc with rfl | rfl | rfl <;> decide +kernel
    rw [hword] at hident
    cases hident
  | string | openString => exact absurd rfl hs
  | number => exact absurd rfl hn

end IsLexeme

theorem Lexer.textAt?_of_mem_tokens {text : String} {t : Token} (ht : t ∈ (ofText text).tokens)
    (hk : t.kind ≠ .string) : textAt? text.toList t.span = some t.text.toList := by
  obtain ⟨source, after, hs, hlexeme, -⟩ := exists_textAt?_of_mem_tokens text t ht
  rw [hs, hlexeme.source_eq_text hk]

theorem Token.eq_text_of_expr?_eq_field {t : Token} {name : String}
    (h : t.expr? = some (.field name)) : t.kind = .ident ∧ t.text = name := by
  unfold expr? at h
  split at h
  · next hk => exact ⟨hk, by simpa using h⟩
  · cases h
  · obtain ⟨n, -, hn⟩ := Option.map_eq_some_iff.1 h
    cases hn
  · cases h

/-- The first letter of the message if it names a text. -/
def FaultCause.namingInitial? : FaultCause → Option Char
  | missingQuotes _ => some 'm'
  | integerTooLarge _ => some 'c'
  | unclosedGroup _ => some 'e'
  | _ => none

theorem Expr.exists_head?_inQuery {e : Expr} (h : ∀ name, e ≠ .field name) :
    ∃ c, e.inQuery.toList.head? = some c ∧ c ∉ namingInitials := by
  cases e with
  | field name => exact absurd rfl (h name)
  | node op l r =>
    exact ⟨'(', by simp [inQuery], by decide⟩
  | literal v =>
    cases v with
    | text s => exact ⟨'"', by simp [inQuery, Literal.inQuery, quote], by decide⟩
    | date t => exact ⟨'"', by simp [inQuery, Literal.inQuery, quote], by decide⟩
    | integer n =>
      obtain ⟨c, cs, hs, hc⟩ := exists_toString_eq_cons n
      refine ⟨c, by rw [inQuery, Literal.inQuery, hs, List.head?_cons], fun hm => ?_⟩
      rcases mem_namingInitials_iff.1 hm with rfl | rfl | rfl <;> exact absurd hc (by decide)

/-- The first letter of a message tells whether it names a text, and what its cause then is. -/
theorem Fault.Fits.exists_head?_message {text : String} {f : Fault}
    (h : f.Fits (Parser.ofText text).cursor) :
    ∃ c, f.message.toList.head? = some c ∧
      (c ∈ namingInitials → f.cause.namingInitial? = some c) := by
  have hsilent : ∀ {c}, f.message.toList.head? = some c → c ∉ namingInitials →
      ∃ c, f.message.toList.head? = some c ∧
        (c ∈ namingInitials → f.cause.namingInitial? = some c) :=
    fun hc hn => ⟨_, hc, fun hm => absurd hm hn⟩
  cases h with
  | missingQuotes => exact ⟨'m', head?_toList_append rfl, fun _ => rfl⟩
  | integerTooLarge => exact ⟨'c', head?_toList_append (head?_toList_append rfl), fun _ => rfl⟩
  | unclosedGroup =>
    exact ⟨'e', head?_toList_append (head?_toList_append (head?_toList_append
      (head?_toList_append rfl))), fun _ => rfl⟩
  | @unexpected t ht hx hk =>
    have hi : t.kind ≠ .ident := fun hi => by simp [Token.expr?, hi] at hx
    have hs : t.kind ≠ .string := fun hs => by simp [Token.expr?, hs] at hx
    rcases ht with ht | rfl
    · obtain ⟨source, after, -, hlexeme, -⟩ := Lexer.exists_textAt?_of_mem_tokens text t ht
      have hdescribe : t.describe = t.text := by
        unfold Token.describe
        split
        · next he => exact absurd he hlexeme.kind_ne_eof
        · rfl
      obtain ⟨c, hc, hn⟩ := hlexeme.exists_head?_text hi hs hk
      exact hsilent (head?_toList_append (hdescribe ▸ hc)) hn
    · have heof : TokenKind.eof.label.toList.head? = some 'E' := by decide
      exact hsilent (head?_toList_append heof) (by decide)
  | @conditionAsValue _ e _ _ he =>
    have hfield : ∀ name, e ≠ .field name := by
      rintro name rfl
      cases he
    obtain ⟨c, hc, hn⟩ := Expr.exists_head?_inQuery hfield
    exact hsilent (head?_toList_append hc) hn
  | comparedNonField _ _ he =>
    obtain ⟨c, hc, hn⟩ := Expr.exists_head?_inQuery he
    exact hsilent (head?_toList_append hc) hn
  | connectiveAfterNonCondition =>
    exact hsilent (by decide +kernel :
      FaultCause.connectiveAfterNonCondition.message.toList.head? = some 'l') (by decide)
  | connectiveBeforeNonCondition =>
    exact hsilent (by decide +kernel :
      FaultCause.connectiveBeforeNonCondition.message.toList.head? = some 'l') (by decide)
  | modifierWithoutOperand kind =>
    have hkind : (FaultCause.modifierWithoutOperand kind).message.toList.head?.any
        (· ∉ namingInitials) = true := by
      cases kind <;> decide +kernel
    obtain ⟨c, hc, hn⟩ := (Option.any_eq_true _ _).1 hkind
    exact hsilent hc (of_decide_eq_true hn)

namespace FaultCause

/-- Digits stand for themselves in the message. -/
theorem message_integerTooLarge {digits : String} (h : ∀ c ∈ digits.toList, c.isDigit = true) :
    (integerTooLarge digits).message = "could not parse \"" ++ digits ++ "\" as integer" := by
  have hescaped : ∀ c ∈ digits.toList, escapedChar c = [c] := by
    intro c hc
    have hsmall : ∀ n < 0x80, (Char.ofNat n).isDigit = true →
        escapedChar (Char.ofNat n) = [Char.ofNat n] := by decide +kernel
    have h₉ : '9'.toNat = 57 := rfl
    have hlt := (Char.isDigit_iff_toNat.1 (h c hc)).2
    have hchar := hsmall c.toNat (by omega)
    rw [Char.ofNat_toNat] at hchar
    exact hchar (h c hc)
  have htext : digits.toList.flatMap escapedChar = digits.toList := by
    rw [List.flatMap_congr hescaped, List.flatMap_singleton']
  have hmessage : (integerTooLarge digits).message =
      "could not parse " ++ escapedText digits ++ " as integer" := rfl
  rw [hmessage, escapedText, htext]
  apply String.toList_injective
  simp

theorem message_unclosedGroup (found : TokenKind) : (unclosedGroup found).message =
    "expected next token to be ), got " ++ found.label ++ " instead" := by
  have h : "expected next token to be " ++ TokenKind.rightParen.label ++ ", got " =
      "expected next token to be ), got " := by decide +kernel
  have hmessage : (unclosedGroup found).message = "expected next token to be " ++
      TokenKind.rightParen.label ++ ", got " ++ found.label ++ " instead" := rfl
  rw [hmessage, h]

end FaultCause

/-- What stands at the end of an operand that is a word: the word itself, or the last of the
parentheses that it stands in. -/
def Operand.ending (name : String) : Operand → String
  | .leaf _ => name
  | .group .. => ")"

theorem Operand.textAt?_last {text : String} {p : Operand} {name : String}
    (hp : p.expr? = some (.field name)) (ht : p.last ∈ (Lexer.ofText text).tokens) :
    textAt? text.toList p.last.span = some (p.ending name).toList := by
  cases p with
  | leaf t =>
    obtain ⟨hk, rfl⟩ := Token.eq_text_of_expr?_eq_field hp
    exact Lexer.textAt?_of_mem_tokens ht (by rw [last, hk]; decide)
  | group o e c =>
    obtain ⟨-, hc, -⟩ := Operand.expr?_group_eq_some hp
    obtain ⟨source, after, -, hlexeme, -⟩ := Lexer.exists_textAt?_of_mem_tokens text c ht
    have hclosing := Lexer.textAt?_of_mem_tokens ht (by rw [last, hc]; decide)
    have hname : (ending name (.group o e c)).toList = [')'] := by simp [ending]
    rw [hclosing, last, hname, hlexeme.eq_closing_of_rightParen hc]

namespace Fault.Fits

variable {text : String} {f : Fault}

/-- The first letter of a message that names a text tells its cause. -/
theorem namingInitial?_eq (h : f.Fits (Parser.ofText text).cursor) {c : Char} {s t : String}
    (hm : f.message = s ++ t) (hs : s.toList.head? = some c) (hc : c ∈ namingInitials) :
    f.cause.namingInitial? = some c := by
  obtain ⟨c', hc', hinitial⟩ := h.exists_head?_message
  rw [hm] at hc'
  cases hc'.symm.trans (head?_toList_append hs)
  exact hinitial hc

theorem exists_operand_of_message (h : f.Fits (Parser.ofText text).cursor) {name : String}
    (hm : f.message = "missing quotes around string: " ++ name) :
    ∃ op p, op :: p.tokens <:+: (Lexer.ofText text).tokens ∧ op.kind.IsComparison ∧
      Operand.expr? p = some (.field name) ∧ f.span = p.last.span ∧
      textAt? text.toList f.span = some (p.ending name).toList := by
  have hcause := h.namingInitial?_eq hm rfl (by decide)
  cases h with
  | @missingQuotes op p name' hinfix hop hp =>
    obtain rfl : name' = name := (String.append_right_inj _).1 hm
    have hlast : p.last ∈ (Lexer.ofText text).tokens :=
      hinfix.subset (List.mem_cons_of_mem _ (List.mem_of_getLast? p.getLast?_tokens))
    exact ⟨op, p, hinfix, hop, hp, rfl, Operand.textAt?_last hp hlast⟩
  | _ => cases hcause

theorem textAt?_of_message_integer (h : f.Fits (Parser.ofText text).cursor) {digits : String}
    (hm : f.message = "could not parse \"" ++ digits ++ "\" as integer") :
    textAt? text.toList f.span = some digits.toList ∧ ∀ c ∈ digits.toList, c.isDigit = true := by
  have hcause := h.namingInitial?_eq (hm.trans (String.append_assoc ..)) rfl (by decide)
  cases h with
  | @integerTooLarge t ht hk =>
    obtain ⟨source, after, -, hlexeme, -⟩ := Lexer.exists_textAt?_of_mem_tokens text t ht
    have hdigits := hlexeme.isDigit_of_int hk
    have hm := (FaultCause.message_integerTooLarge hdigits).symm.trans hm
    obtain rfl : t.text = digits :=
      (String.append_right_inj _).1 ((String.append_left_inj _).1 hm)
    exact ⟨Lexer.textAt?_of_mem_tokens ht (by rw [hk]; exact nofun), hdigits⟩
  | _ => cases hcause

theorem exists_token_of_message (h : f.Fits (Parser.ofText text).cursor) {label : String}
    (hm : f.message = "expected next token to be ), got " ++ label ++ " instead") :
    (∃ t ∈ (Lexer.ofText text).tokens, f.span = t.span ∧ t.kind.label = label) ∨
      f.span = ⟨text.utf8ByteSize, text.utf8ByteSize⟩ ∧ TokenKind.eof.label = label := by
  have hcause := h.namingInitial?_eq (hm.trans (String.append_assoc ..)) rfl (by decide)
  cases h with
  | @unclosedGroup t ht =>
    have hm := (FaultCause.message_unclosedGroup t.kind).symm.trans hm
    have hlabel : t.kind.label = label :=
      (String.append_right_inj _).1 ((String.append_left_inj _).1 hm)
    rcases ht with ht | rfl
    · exact .inl ⟨t, ht, rfl, hlabel⟩
    · have hstop : (Parser.ofText text).cursor.stop = text.utf8ByteSize := by
        simp [Parser.ofText, Parser.ofLexer, Lexer.stop, Lexer.ofText]
      exact .inr ⟨by rw [hstop]; rfl, hlabel⟩
  | _ => cases hcause

end Fault.Fits

/-- A message about a word is about the operand behind a comparison, and it stands where that ends:
at the word, or at a parenthesis behind it. A message about digits stands at these, and one about a
parenthesis that is missing stands at the token that is there in its place. -/
theorem textAt?_of_mem_faults (text : String) (n : ℕ) :
    ∀ f ∈ ((fun p => p.parse.2)^[n] (Parser.ofText text)).faults,
      (∀ name, f.message = "missing quotes around string: " ++ name →
        ∃ op p, op :: p.tokens <:+: (Lexer.ofText text).tokens ∧ op.kind.IsComparison ∧
          Operand.expr? p = some (.field name) ∧ f.span = p.last.span ∧
          textAt? text.toList f.span = some (p.ending name).toList) ∧
      (∀ digits, f.message = "could not parse \"" ++ digits ++ "\" as integer" →
        textAt? text.toList f.span = some digits.toList ∧ ∀ c ∈ digits.toList, c.isDigit = true) ∧
      ∀ label, f.message = "expected next token to be ), got " ++ label ++ " instead" →
        (∃ t ∈ (Lexer.ofText text).tokens, f.span = t.span ∧ t.kind.label = label) ∨
          f.span = ⟨text.utf8ByteSize, text.utf8ByteSize⟩ ∧ TokenKind.eof.label = label := by
  intro f hf
  have hfits := Parser.fits_of_mem_faults (Lexer.ofText text) n f hf
  exact ⟨fun _ hm => hfits.exists_operand_of_message hm,
    fun _ hm => hfits.textAt?_of_message_integer hm, fun _ hm => hfits.exists_token_of_message hm⟩

/-- All three messages in one text. -/
theorem textAt?_of_mem_faults_three :
    let text := "a = ((é)) (b = 99999999999999999999 limit"
    let tokens := (Lexer.ofText text).tokens
    let quotes : Fault := ⟨.missingQuotes "é", 9, 10⟩
    let digits : Fault := ⟨.integerTooLarge "99999999999999999999", 16, 36⟩
    let group : Fault := ⟨.unclosedGroup .limit, 37, 42⟩
    quotes ∈ (Parser.ofText text).parse.2.faults ∧ digits ∈ (Parser.ofText text).parse.2.faults ∧
      group ∈ (Parser.ofText text).parse.2.faults ∧
      (∃ op p, op :: p.tokens <:+: tokens ∧ op.kind.IsComparison ∧
        Operand.expr? p = some (.field "é") ∧ quotes.span = p.last.span ∧
        textAt? text.toList quotes.span = some (p.ending "é").toList) ∧
      textAt? text.toList digits.span = some "99999999999999999999".toList ∧
      ((∃ t ∈ tokens, group.span = t.span ∧ t.kind.label = "LIMIT") ∨
        group.span = ⟨text.utf8ByteSize, text.utf8ByteSize⟩ ∧ TokenKind.eof.label = "LIMIT") := by
  intro text tokens quotes digits group
  have hquotes : quotes ∈ (Parser.ofText text).parse.2.faults := by decide +kernel
  have hdigits : digits ∈ (Parser.ofText text).parse.2.faults := by decide +kernel
  have hgroup : group ∈ (Parser.ofText text).parse.2.faults := by decide +kernel
  exact ⟨hquotes, hdigits, hgroup, (textAt?_of_mem_faults text 1 quotes hquotes).1 "é" rfl,
    ((textAt?_of_mem_faults text 1 digits hdigits).2.1 "99999999999999999999"
      (by decide +kernel)).1,
    (textAt?_of_mem_faults text 1 group hgroup).2.2 "LIMIT" (by decide +kernel)⟩

/-- The message about a word in parentheses stands at the parenthesis behind it. -/
theorem not_forall_textAt?_missingQuotes : ¬ ∀ (text name : String),
    ∀ f ∈ (Parser.ofText text).parse.2.faults,
      f.message = "missing quotes around string: " ++ name →
        textAt? text.toList f.span = some name.toList := by
  intro h
  have hf : (⟨.missingQuotes "abc", 10, 11⟩ : Fault) ∈
      (Parser.ofText "key = (abc)").parse.2.faults := by decide +kernel
  exact absurd (h "key = (abc)" "abc" _ hf rfl) (by decide +kernel)

end TicketQuery
