import TicketQuery.Proofs.JsonGrammar
import TicketQuery.Proofs.JsonValueText

/-! # The tokens of a text that the grammar allows

Each token is found, in order, and no scalar is broken. A text that is wanted gives the characters
that it denotes, or a fault if it denotes none, and a number gives the value of its digits. -/
namespace TicketQuery

open JsonNumber (isNumberChar)

namespace JsonText

theorem hexEscape_source (e : HexEscape) (index : ℕ) (rest : List Char) :
    hexEscape index (e.source ++ rest) = .ok (e.unit, rest) := by
  have hdigit : ∀ d : HexDigit, hexDigit? d.char = some d.value := fun d =>
    (Option.some_get d.isSome).symm
  simp [HexEscape.source, hexEscape, hdigit, HexEscape.unit]

theorem ne_number_of_lookup {letter c : Char} (h : simpleEscapes.lookup letter = some c) :
    letter ≠ 'u' := by
  rintro rfl
  cases h

theorem escape_of_lookup {letter c : Char} (h : simpleEscapes.lookup letter = some c) (index : ℕ)
    (cs : List Char) : escape index (letter :: cs) = .ok (c, ⟨index + 1, cs⟩) ∧
      skipEscape index (letter :: cs) = .ok ⟨index + 1, cs⟩ := by
  have hne := ne_number_of_lookup h
  exact ⟨by simp [escape, h], by simp [skipEscape, h]⟩

section

variable {index : ℕ} {c : Char} {cs : List Char}

theorem decode_plain (h : c ≠ '"' ∧ c ≠ '\\' ∧ ¬ c.toNat < 0x20) : decode index (c :: cs) =
    (decode (index + c.utf8Size) cs).map fun d => (c :: d.1, d.2) := by
  obtain ⟨hquote, hslash, hcontrol⟩ := h
  rw [decode, if_neg hcontrol]
  · exact hquote
  · exact hslash

theorem skip_plain (h : c ≠ '"' ∧ c ≠ '\\' ∧ ¬ c.toNat < 0x20) :
    skip index (c :: cs) = skip (index + c.utf8Size) cs := by
  obtain ⟨hquote, hslash, hcontrol⟩ := h
  rw [skip, if_neg hcontrol]
  · exact hquote
  · exact hslash

theorem decode_escape {r : Char × Place} (h : escape (index + 1) cs = .ok r) :
    decode index ('\\' :: cs) =
      (decode r.2.index r.2.rest).map fun d => (r.1 :: d.1, d.2) := by
  rw [decode]
  split
  · next e he => cases he.symm.trans h
  · next r' hr => cases hr.symm.trans h; rfl

theorem decode_escape_error {e : JsonFault} (h : escape (index + 1) cs = .error e) :
    decode index ('\\' :: cs) = .error e := by
  rw [decode]
  split
  · next e' he => cases he.symm.trans h; rfl
  · next r hr => cases hr.symm.trans h

theorem skip_escape {p : Place} (h : skipEscape (index + 1) cs = .ok p) :
    skip index ('\\' :: cs) = skip p.index p.rest := by
  rw [skip]
  split
  · next e he => cases he.symm.trans h
  · next p' hp => cases hp.symm.trans h; rfl

end

/-- A text that is passed over needs no more than its form. -/
theorem skip_source (t : TextLiteral) (index : ℕ) (rest : List Char) :
    ∃ stop, skip index (t.source ++ '"' :: rest) = .ok ⟨stop, rest⟩ := by
  induction t generalizing index with
  | nil => exact ⟨index + 1, by simp [TextLiteral.source, skip]⟩
  | cons p t ih =>
    have hcons : TextLiteral.source (p :: t) ++ '"' :: rest =
        p.source ++ (TextLiteral.source t ++ '"' :: rest) := by
      simp [TextLiteral.source]
    rw [hcons]
    cases p with
    | plain c h =>
      rw [TextPiece.source, List.singleton_append, skip_plain h]
      exact ih _
    | escape letter c h =>
      have hskip := (escape_of_lookup h (index + 1) (TextLiteral.source t ++ '"' :: rest)).2
      rw [TextPiece.source, List.cons_append, List.singleton_append, skip_escape hskip]
      exact ih _
    | number e =>
      have hskip : skipEscape (index + 1)
          ('u' :: (e.source ++ (TextLiteral.source t ++ '"' :: rest))) =
            .ok ⟨index + 6, TextLiteral.source t ++ '"' :: rest⟩ := by
        rw [skipEscape, hexEscape_source]
        rfl
      rw [TextPiece.source, List.cons_append, List.cons_append, skip_escape hskip]
      exact ih _

section

variable {e e' : HexEscape} (index : ℕ) (cs : List Char)

theorem escape_number_of_low (h : isLowSurrogate e.unit = true) :
    ∃ f, escape index ('u' :: (e.source ++ cs)) = .error f := by
  simp [escape, unicodeEscape, hexEscape_source, h]

theorem escape_number_of_not_surrogate (hl : ¬ isLowSurrogate e.unit = true)
    (hh : ¬ isHighSurrogate e.unit = true) :
    escape index ('u' :: (e.source ++ cs)) = .ok (Char.ofNat e.unit, ⟨index + 5, cs⟩) := by
  simp [escape, unicodeEscape, hexEscape_source, hl, hh, Nat.add_assoc]

theorem escape_number_of_pair (hl : ¬ isLowSurrogate e.unit = true)
    (hh : isHighSurrogate e.unit = true) (hl' : isLowSurrogate e'.unit = true) :
    escape index ('u' :: (e.source ++ '\\' :: 'u' :: (e'.source ++ cs))) =
      .ok (Char.ofNat (surrogatePair e.unit e'.unit), ⟨index + 11, cs⟩) := by
  simp [escape, unicodeEscape, hexEscape_source, hl, hh, hl', Nat.add_assoc]

theorem escape_number_of_not_low (hl : ¬ isLowSurrogate e.unit = true)
    (hh : isHighSurrogate e.unit = true) (hl' : ¬ isLowSurrogate e'.unit = true) :
    ∃ f, escape index ('u' :: (e.source ++ '\\' :: 'u' :: (e'.source ++ cs))) = .error f := by
  simp [escape, unicodeEscape, hexEscape_source, hl, hh, hl']

theorem escape_number_of_half (hl : ¬ isLowSurrogate e.unit = true)
    (hh : isHighSurrogate e.unit = true) (hcs : ∀ ds, cs ≠ '\\' :: 'u' :: ds) :
    ∃ f, escape index ('u' :: (e.source ++ cs)) = .error f := by
  simp only [escape, unicodeEscape, hexEscape_source, hl, hh, if_true]
  simp only [Bool.false_eq_true, if_false]
  split
  case h_3 ds => exact absurd rfl (hcs ds)
  all_goals exact ⟨_, rfl⟩

end

/-- Only an escape by number starts like one. -/
theorem source_ne_number {t : TextLiteral} (ht : ∀ e' t', t = .number e' :: t' → False)
    (rest ds : List Char) : t.source ++ '"' :: rest ≠ '\\' :: 'u' :: ds := by
  intro h
  cases t with
  | nil => simp [TextLiteral.source] at h
  | cons p t =>
    cases p with
    | plain c hc =>
      simp only [TextLiteral.source, List.flatMap_cons, TextPiece.source, List.cons_append] at h
      exact hc.2.1 (List.cons.inj h).1
    | escape letter c hc =>
      simp only [TextLiteral.source, List.flatMap_cons, TextPiece.source, List.cons_append] at h
      exact ne_number_of_lookup hc (List.cons.inj (List.cons.inj h).2).1
    | number e' => exact ht e' t rfl

/-- A text that is wanted gives just the characters that it denotes. -/
theorem toOption_decode (t : TextLiteral) (index : ℕ) (rest : List Char) :
    (decode index (t.source ++ '"' :: rest)).toOption.map Prod.fst = t.chars? := by
  have hcons : ∀ (p : TextPiece) (t : TextLiteral), TextLiteral.source (p :: t) ++ '"' :: rest =
      p.source ++ (t.source ++ '"' :: rest) := by
    simp [TextLiteral.source]
  have hmap : ∀ (x : Except JsonFault (List Char × Place)) (c : Char),
      (x.map fun d => (c :: d.1, d.2)).toOption.map Prod.fst =
        (x.toOption.map Prod.fst).map (c :: ·) := by
    rintro (_ | _) c <;> rfl
  induction t using TextLiteral.chars?.induct generalizing index with
  | case1 => simp [TextLiteral.source, decode, Except.toOption, TextLiteral.chars?]
  | case2 c h t ih =>
    rw [hcons, TextPiece.source, List.singleton_append, decode_plain h, hmap, ih,
      TextLiteral.chars?]
  | case3 letter c h t ih =>
    have hescape := (escape_of_lookup h (index + 1) (TextLiteral.source t ++ '"' :: rest)).1
    rw [hcons, TextPiece.source, List.cons_append, List.singleton_append, decode_escape hescape,
      hmap, ih, TextLiteral.chars?]
  | case4 e t hl =>
    obtain ⟨f, hf⟩ := escape_number_of_low (index + 1) (TextLiteral.source t ++ '"' :: rest) hl
    rw [hcons, TextPiece.source, List.cons_append, List.cons_append, decode_escape_error hf,
      TextLiteral.chars?_of_low hl]
    rfl
  | case5 e hl hh e' t hl' ih =>
    have hescape :=
      escape_number_of_pair (index + 1) (TextLiteral.source t ++ '"' :: rest) hl hh hl'
    rw [hcons, hcons, TextPiece.source, TextPiece.source, List.cons_append, List.cons_append,
      List.cons_append, List.cons_append, decode_escape hescape, hmap, ih, TextLiteral.chars?,
      if_neg hl, if_pos hh]
    simp only [hl', if_true]
  | case6 e hl hh e' t hl' =>
    obtain ⟨f, hf⟩ :=
      escape_number_of_not_low (index + 1) (TextLiteral.source t ++ '"' :: rest) hl hh hl'
    rw [hcons, hcons, TextPiece.source, TextPiece.source, List.cons_append, List.cons_append,
      List.cons_append, List.cons_append, decode_escape_error hf, TextLiteral.chars?, if_neg hl,
      if_pos hh]
    simp only [hl']
    rfl
  | case7 e t hl hh ht =>
    obtain ⟨f, hf⟩ := escape_number_of_half (index + 1) _ hl hh (source_ne_number ht rest)
    rw [hcons, TextPiece.source, List.cons_append, List.cons_append, decode_escape_error hf,
      TextLiteral.chars?, if_neg hl, if_pos hh]
    · rfl
    · exact ht
  | case8 e t hl hh ih =>
    have hescape :=
      escape_number_of_not_surrogate (index + 1) (TextLiteral.source t ++ '"' :: rest) hl hh
    rw [hcons, TextPiece.source, List.cons_append, List.cons_append, decode_escape hescape, hmap,
      ih, TextLiteral.chars?_of_not_surrogate hl hh]

end JsonText

/-- The number that is read. -/
def NumberLiteral.number (n : NumberLiteral) : JsonNumber where
  negative := n.negative
  whole := n.whole
  fraction := n.fraction.getD []
  exponent := n.exponent.map fun e => (e.sign == some '-', e.digits)

namespace JsonNumber

section

variable {ds rest : List Char} (hds : IsDigits ds) (hrest : StartsOutside Char.isDigit rest)
include hds hrest

theorem digits_append (index : ℕ) : digits index (ds ++ rest) = .ok (ds, rest) := by
  obtain ⟨htake, hdrop⟩ := takeWhile_append_of_startsOutside hds.2 hrest
  obtain ⟨d, ds', rfl⟩ := List.exists_cons_of_ne_nil hds.1
  rw [digits, htake, hdrop]

theorem wholePart_append (hzero : ds.head? = some '0' → ds = ['0']) (index : ℕ) :
    wholePart index (ds ++ rest) = .ok (ds, rest) := by
  obtain ⟨d, ds', rfl⟩ := List.exists_cons_of_ne_nil hds.1
  by_cases hd : d = '0'
  · subst hd
    obtain rfl : ds' = [] := (List.cons.inj (hzero rfl)).2
    cases rest with
    | nil => rfl
    | cons c cs => simp [wholePart, hrest c cs rfl]
  · have hdigits : wholePart index (d :: ds' ++ rest) = digits index (d :: ds' ++ rest) := by
      rw [List.cons_append, wholePart]
      simpa using hd
    rw [hdigits, digits_append hds hrest]

end

theorem fractionPart_append {fraction : Option (List Char)} {rest : List Char}
    (hds : ∀ ds ∈ fraction, IsDigits ds) (hdigit : StartsOutside Char.isDigit rest)
    (hpoint : ∀ cs, rest ≠ '.' :: cs) (index : ℕ) :
    fractionPart index (fraction.elim [] ('.' :: ·) ++ rest) = .ok (fraction.getD [], rest) := by
  cases fraction with
  | none =>
    unfold fractionPart
    split
    · next cs hcs => exact absurd hcs (hpoint cs)
    · rfl
  | some ds => exact digits_append (hds ds rfl) hdigit (index + 1)

theorem exponentSign_append (e : ExponentLiteral) (index : ℕ) (rest : List Char) :
    ∃ place, exponentSign index (e.sign.toList ++ (e.digits ++ rest)) =
      (e.sign == some '-', place, e.digits ++ rest) := by
  obtain ⟨d, ds, hd⟩ := List.exists_cons_of_ne_nil e.isDigits.1
  have hdigit : d.isDigit = true := e.isDigits.2 d (hd ▸ List.mem_cons_self)
  cases hs : e.sign with
  | some c =>
    rcases e.sign_eq c hs with rfl | rfl
    · exact ⟨index + 1, rfl⟩
    · exact ⟨index + 1, rfl⟩
  | none =>
    refine ⟨index, ?_⟩
    rw [Option.toList_none, List.nil_append, hd, List.cons_append]
    unfold exponentSign
    split
    · next hc =>
      obtain rfl := (List.cons.inj hc).1
      exact absurd hdigit (by decide)
    · next hc =>
      obtain rfl := (List.cons.inj hc).1
      exact absurd hdigit (by decide)
    · rfl

theorem exponentPart_append (exponent : Option ExponentLiteral) {rest : List Char}
    (hrest : StartsOutside isNumberChar rest) (index : ℕ) :
    exponentPart index (exponent.elim [] ExponentLiteral.source ++ rest) =
      .ok (exponent.map fun e => (e.sign == some '-', e.digits), rest) := by
  cases exponent with
  | none =>
    cases rest with
    | nil => rfl
    | cons c cs =>
      have hc : ¬ (c = 'e' ∨ c = 'E') := by
        rintro (rfl | rfl) <;> exact absurd (hrest _ _ rfl) (by decide)
      simp [exponentPart, hc]
  | some e =>
    obtain ⟨place, hsign⟩ := exponentSign_append e (index + 1) rest
    have hdigits := digits_append e.isDigits (startsOutside_isDigit hrest) place
    have hsource : e.source ++ rest = e.letter :: (e.sign.toList ++ (e.digits ++ rest)) := by
      simp [ExponentLiteral.source]
    rw [Option.elim_some, hsource, exponentPart]
    simp only [if_pos e.letter_eq, hsign, hdigits]
    rfl

theorem startsOutside_exponent (exponent : Option ExponentLiteral) {rest : List Char}
    (hrest : StartsOutside isNumberChar rest) :
    StartsOutside Char.isDigit (exponent.elim [] ExponentLiteral.source ++ rest) ∧
      ∀ cs, exponent.elim [] ExponentLiteral.source ++ rest ≠ '.' :: cs := by
  cases exponent with
  | none =>
    refine ⟨startsOutside_isDigit hrest, ?_⟩
    rintro cs hcs
    exact absurd (hrest _ _ hcs) (by decide)
  | some e =>
    rw [Option.elim_some, ExponentLiteral.source, List.cons_append]
    rcases e.letter_eq with h | h
    all_goals
      rw [h]
      exact ⟨startsOutside_cons (by decide) _, fun cs hcs => by simp at hcs⟩

theorem startsOutside_fraction {fraction : Option (List Char)} {rest : List Char}
    (hrest : StartsOutside Char.isDigit rest) :
    StartsOutside Char.isDigit (fraction.elim [] ('.' :: ·) ++ rest) := by
  cases fraction with
  | none => exact hrest
  | some ds => exact startsOutside_cons (by decide) _

theorem signPart_append {negative : Bool} {ds : List Char} (hds : IsDigits ds)
    (rest : List Char) :
    signPart ((if negative then ['-'] else []) ++ (ds ++ rest)) = (negative, ds ++ rest) := by
  cases negative with
  | true => rfl
  | false =>
    obtain ⟨d, ds', rfl⟩ := List.exists_cons_of_ne_nil hds.1
    have hdigit : d.isDigit = true := hds.2 d List.mem_cons_self
    have hne : d ≠ '-' := by
      rintro rfl
      exact absurd hdigit (by decide)
    simp [signPart, hne]

theorem read_source (n : NumberLiteral) (index : ℕ) {rest : List Char}
    (hrest : StartsOutside isNumberChar rest) :
    read index (n.source ++ rest) = .ok (n.number, rest) := by
  let exponent := n.exponent.elim [] ExponentLiteral.source ++ rest
  let fraction := n.fraction.elim [] ('.' :: ·) ++ exponent
  have hsource : n.source ++ rest =
      (if n.negative then ['-'] else []) ++ (n.whole ++ fraction) := by
    simp [NumberLiteral.source, fraction, exponent]
  obtain ⟨hdigit, hpoint⟩ := startsOutside_exponent n.exponent hrest
  have hfraction : StartsOutside Char.isDigit fraction := startsOutside_fraction hdigit
  have hsign : signPart (n.source ++ rest) = (n.negative, n.whole ++ fraction) := by
    rw [hsource]
    exact signPart_append n.isDigits_whole fraction
  have hread := fun i => wholePart_append n.isDigits_whole hfraction n.whole_eq i
  have hread' := fun i => fractionPart_append n.isDigits_fraction hdigit hpoint i
  have hread'' := fun i => exponentPart_append n.exponent hrest i
  simp only [read, hsign, hread, fraction, hread', exponent, hread'', bind, Except.bind, pure,
    Except.pure]
  simp [NumberLiteral.number]

end JsonNumber

namespace JsonLeaf

/-- What it gives if it is wanted. -/
def scalar? : JsonLeaf → Option JsonScalar
  | null => some .null
  | boolean b => some (.boolean b)
  | number n => n.number.value?
  | text t => t.text?.map .text

def kind (reading : ScalarReading) : JsonLeaf → JsonTokenKind
  | text _ => .text reading
  | _ => .bare reading

end JsonLeaf

/-- The kind is one that is read for the mark. -/
def JsonMark.IsReadAs : JsonMark → JsonTokenKind → Prop
  | beginObject, k => k = .beginObject
  | endObject, k => k = .endObject
  | beginList, k => k = .beginList
  | endList, k => k = .endList
  | colon, k => k = .colon
  | comma, k => k = .comma
  | leaf l, k =>
    ∃ r : ScalarReading, k = l.kind r ∧ r.skipped = .ok () ∧ r.value.toOption = l.scalar?

/-- The tokens are those of the marks. -/
def Shows (ks : List JsonMark) (ts : List JsonToken) : Prop :=
  List.Forall₂ (fun k t => k.IsReadAs t.kind) ks ts

theorem JsonLexeme.text_source (t : TextLiteral) (index : ℕ) (rest : List Char) :
    (JsonMark.leaf (.text t)).IsReadAs (text index (t.source ++ '"' :: rest)).token.kind ∧
      ∃ p, (text index (t.source ++ '"' :: rest)).next = some p ∧ p.1.rest = rest := by
  obtain ⟨stop, hskip⟩ := JsonText.skip_source t (index + 1) rest
  have hdecode := JsonText.toOption_decode t (index + 1) rest
  unfold text
  split
  · next p hp =>
    cases hp.symm.trans hskip
    refine ⟨⟨_, rfl, rfl, ?_⟩, _, rfl, rfl⟩
    rw [JsonLeaf.scalar?, TextLiteral.text?, ← hdecode]
    cases JsonText.decode (index + 1) (t.source ++ '"' :: rest) <;> rfl
  · next e he => cases he.symm.trans hskip

theorem NumberLiteral.exists_source_eq_cons (n : NumberLiteral) :
    ∃ c cs, n.source = c :: cs ∧ (c = '-' ∨ c.isDigit = true) := by
  rw [source]
  cases n.negative with
  | true => exact ⟨'-', _, rfl, .inl rfl⟩
  | false =>
    obtain ⟨d, ds, hd⟩ := List.exists_cons_of_ne_nil n.isDigits_whole.1
    exact ⟨d, _, by rw [hd]; rfl, .inr (n.isDigits_whole.2 d (hd ▸ List.mem_cons_self))⟩

theorem JsonLexeme.number_source (n : NumberLiteral) (index : ℕ) {rest : List Char}
    (hrest : StartsOutside isNumberChar rest) : ∃ c cs, n.source ++ rest = c :: cs ∧
      isJsonBlank c = false ∧
      (JsonMark.leaf (.number n)).IsReadAs (read index c cs).token.kind ∧
      ∃ p, (read index c cs).next = some p ∧ p.1.rest = rest := by
  obtain ⟨c, cs, hsource, hc⟩ := n.exists_source_eq_cons
  have hread := JsonNumber.read_source n index hrest
  rw [hsource, List.cons_append] at hread ⊢
  refine ⟨c, cs ++ rest, rfl, isJsonBlank_of_number hc, ?_⟩
  rw [read_of_isDigit hc]
  unfold number
  split
  · next e he => cases he.symm.trans hread
  · next m rest' hm =>
    cases hm.symm.trans hread
    refine ⟨⟨_, rfl, rfl, ?_⟩, _, rfl, rfl⟩
    rw [JsonLeaf.scalar?]
    cases n.number.value? <;> rfl

/-- A token is read where it is written. -/
theorem JsonMark.exists_read (k : JsonMark) (index : ℕ) {rest : List Char}
    (hrest : ∀ n, k = .leaf (.number n) → StartsOutside isNumberChar rest) :
    ∃ c cs, k.source ++ rest = c :: cs ∧ isJsonBlank c = false ∧
      k.IsReadAs (JsonLexeme.read index c cs).token.kind ∧
      ∃ p, (JsonLexeme.read index c cs).next = some p ∧ p.1.rest = rest := by
  cases k with
  | leaf l =>
    cases l with
    | null =>
      obtain ⟨hkind, hnext⟩ := JsonLexeme.word_append .null "ull".toList rest index
      exact ⟨'n', _, rfl, rfl, ⟨_, hkind, rfl, rfl⟩, hnext⟩
    | boolean b =>
      cases b with
      | true =>
        obtain ⟨hkind, hnext⟩ := JsonLexeme.word_append (.boolean true) "rue".toList rest index
        exact ⟨'t', _, rfl, rfl, ⟨_, hkind, rfl, rfl⟩, hnext⟩
      | false =>
        obtain ⟨hkind, hnext⟩ := JsonLexeme.word_append (.boolean false) "alse".toList rest index
        exact ⟨'f', _, rfl, rfl, ⟨_, hkind, rfl, rfl⟩, hnext⟩
    | number n => exact JsonLexeme.number_source n index (hrest n rfl)
    | text t =>
      refine ⟨'"', t.source ++ '"' :: rest, ?_, rfl, JsonLexeme.text_source t index rest⟩
      simp [source, JsonLeaf.source]
  | _ => exact ⟨_, rest, rfl, rfl, rfl, _, rfl, rfl⟩

/-- All that is written is read. -/
theorem Spells.shows_jsonTokens {ks : List JsonMark} {cs : List Char} (h : Spells ks cs)
    (index : ℕ) : Shows ks (jsonTokens index cs) := by
  induction h generalizing index with
  | nil => exact jsonTokens.eq_1 index ▸ .nil
  | blank hc _ ih =>
    rw [jsonTokens, if_pos hc]
    exact ih _
  | @mark k ks cs hk _ ih =>
    obtain ⟨c, cs', hsource, hblank, hkind, hnext⟩ := k.exists_read index hk
    obtain ⟨t, stop, ht, htokens⟩ := jsonTokens_cons_of_next hblank ⟨rfl, hnext⟩
    rw [hsource, htokens]
    exact .cons (ht ▸ hkind) (ih stop)

end TicketQuery
