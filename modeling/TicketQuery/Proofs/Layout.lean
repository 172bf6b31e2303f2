import TicketQuery.Proofs.ParallelRuns
import TicketQuery.Proofs.TokenPlaces

/-! # Layout does not matter

The white space between the tokens of a text can be changed at will as long as there is some. The
tokens stay the same, so the parser gives the same query and reports the same faults at the same
tokens. The case of the letters in keywords matters as little, except to messages that quote one. -/
namespace TicketQuery

/-- White space comes first, if anything does. -/
def StartsBlank (rest : List Char) : Prop := ∀ c cs, rest = c :: cs → isWhiteSpace c = true

theorem StartsBlank.startsOutside {p : Char → Bool} {rest : List Char} (h : StartsBlank rest)
    (hp : ∀ c, p c = true → isWhiteSpace c = false) : StartsOutside p rest := by
  intro c cs hc
  by_contra hn
  have := hp c (by simpa using hn)
  simp [h c cs hc] at this

/-- The source of a token in whatever layout. Only behind a string that is not closed nothing may
stand. -/
def IsSourceOf (kind : TokenKind) (text source : List Char) : Prop :=
  ∀ rest, StartsBlank rest → (IsOpenString source → rest = []) → IsLexeme kind text source rest

namespace IsLexeme

variable {kind : TokenKind} {text source rest : List Char}

theorem isSourceOf (h : IsLexeme kind text source rest) : IsSourceOf kind text source := by
  intro rest' hr ho
  cases h with
  | sign h => exact .sign h
  | pairable h =>
    refine .pairable h (hr.startsOutside fun c hc => ?_)
    obtain rfl : c = '=' := by simpa using hc
    decide
  | number hne h => exact .number hne h (hr.startsOutside fun c => isWhiteSpace_eq_false_of_isDigit)
  | word hne h => exact .word hne h (hr.startsOutside fun c hc => (isIdentChar_disjoint hc).1)
  | string h => exact .string h
  | openString h =>
    obtain rfl := ho ⟨text, rfl, h⟩
    exact .openString h
  | stray hs hd hi hw => exact .stray hs hd hi hw

/-- Identifiers and keywords are words, as long as they can be. -/
theorem eq_ofWord (h : IsLexeme kind text source rest) (hk : kind = .ident ∨ kind.IsKeyword) :
    kind = .ofWord source ∧ source ≠ [] ∧ (∀ c ∈ source, isIdentChar c = true) ∧
      StartsOutside isIdentChar rest := by
  cases h with
  | word hne hw hr => exact ⟨rfl, hne, hw, hr⟩
  | sign h =>
    have hn : ∀ p ∈ signKinds, ¬ (p.2 = .ident ∨ p.2.IsKeyword) := by decide
    exact absurd hk (hn _ h)
  | pairable h =>
    have hn : ∀ p ∈ pairableKinds, ¬ (p.2 = .ident ∨ p.2.IsKeyword) := by decide
    exact absurd hk (hn _ h)
  | number | string | openString | stray => exact absurd hk (by decide)

/-- A keyword stays the same in other letters. -/
theorem isSourceOf_of_toLower (h : IsLexeme kind text source rest) (hk : kind.IsKeyword)
    {source' : List Char} (hs : source'.map Char.toLower = source.map Char.toLower) :
    IsSourceOf kind source' source' := by
  obtain ⟨rfl, hne, hword, -⟩ := h.eq_ofWord (.inr hk)
  have hkind : TokenKind.ofWord source = .ofWord source' := by
    rw [TokenKind.ofWord, TokenKind.ofWord, hs]
  have hne' : source' ≠ [] := by
    rintro rfl
    exact hne (List.map_eq_nil_iff.1 hs.symm)
  have hword' : ∀ c ∈ source', isIdentChar c = true := by
    intro c hc
    have hm : c.toLower ∈ source.map Char.toLower := hs ▸ List.mem_map_of_mem hc
    obtain ⟨d, hd, hdc⟩ := List.mem_map.1 hm
    rw [← isIdentChar_toLower, ← hdc, isIdentChar_toLower]
    exact hword d hd
  intro rest' hr _
  rw [hkind]
  exact .word hne' hword' (hr.startsOutside fun c hc => (isIdentChar_disjoint hc).1)

end IsLexeme

/-- The sources one behind the other, with white space between any two of them. A string that is not
closed takes all that follows, so nothing may follow it. -/
inductive Spaced : List (List Char) → List Char → Prop where
  | nil : Spaced [] []
  | cons {source gap cs : List Char} {sources : List (List Char)} (hg : IsBlank gap)
      (hb : sources ≠ [] → gap ≠ []) (ho : sources = [] → IsOpenString source → gap = [])
      (h : Spaced sources cs) : Spaced (source :: sources) (source ++ (gap ++ cs))

/-- The second text is made of what is written for the tokens of the first. -/
def IsRelaid (Spells : Token → List Char → Prop) (x y : String) : Prop :=
  ∃ lead sources body, IsBlank lead ∧ List.Forall₂ Spells (Lexer.ofText x).tokens sources ∧
    Spaced sources body ∧ y.toList = lead ++ body

/-- The token is written as it stands in the text. -/
def SpelledAs (x : String) (t : Token) (source : List Char) : Prop :=
  textAt? x.toList t.span = some source

/-- The token is written as it stands in the text, or it is a keyword and its letters differ in case
only. -/
def SpelledAlike (x : String) (t : Token) (source : List Char) : Prop :=
  SpelledAs x t source ∨ t.kind.IsKeyword ∧
    (textAt? x.toList t.span).map (List.map Char.toLower) = some (source.map Char.toLower)

instance (x : String) (t : Token) (source : List Char) : Decidable (SpelledAs x t source) :=
  inferInstanceAs (Decidable (_ = _))

instance (x : String) (t : Token) (source : List Char) : Decidable (SpelledAlike x t source) :=
  inferInstanceAs (Decidable (_ ∨ _))

theorem Spaced.eq_nil {cs : List Char} (h : Spaced [] cs) : cs = [] := by
  cases h
  rfl

theorem Spaced.startsBlank {sources : List (List Char)} {gap cs : List Char} (h : Spaced sources cs)
    (hg : IsBlank gap) (hb : sources ≠ [] → gap ≠ []) : StartsBlank (gap ++ cs) := by
  intro c rest hc
  cases gap with
  | nil =>
    obtain rfl : sources = [] := by_contra fun hne => hb hne rfl
    rw [h.eq_nil] at hc
    cases hc
  | cons d gap =>
    obtain ⟨rfl, -⟩ := List.cons.inj hc
    exact hg d List.mem_cons_self

/-- Sources that stand for tokens are read as these, wherever the gaps are. No string but the last
may be open. -/
theorem Spaced.exists_tiles {Spells : Token → List Char → Prop} {R : Token → Token → Prop}
    (hspells : ∀ t source, Spells t source → ∃ text, IsSourceOf t.kind text source ∧
      ∀ span, R t ⟨t.kind, String.ofList text, span⟩)
    {sources : List (List Char)} {body : List Char} (h : Spaced sources body) :
    ∀ {ts : List Token} {lead : List Char} {offset : Nat}, List.Forall₂ Spells ts sources →
      (ts.Pairwise fun t _ => ∀ source, Spells t source → ¬ IsOpenString source) →
      IsBlank lead → ∃ us, Tiles offset (lead ++ body) us ∧ List.Forall₂ R ts us := by
  induction h with
  | nil =>
    intro ts lead offset hts _ hlead
    cases hts
    rw [List.append_nil]
    exact ⟨[], .blank hlead, .nil⟩
  | @cons source gap cs sources hg hb ho hsp ih =>
    intro ts lead offset hts hclosed hlead
    cases hts with
    | @cons t _ ts _ ht hts =>
    obtain ⟨hfirst, hclosed⟩ := List.pairwise_cons.1 hclosed
    obtain ⟨text, hsource, hR⟩ := hspells t source ht
    let span : Span := ⟨offset + utf8Length lead, offset + utf8Length (lead ++ source)⟩
    obtain ⟨us, hus, hR'⟩ := @ih ts gap span.stop hts hclosed hg
    refine ⟨⟨t.kind, String.ofList text, span⟩ :: us, .token hlead ?_ rfl hus, .cons (hR span) hR'⟩
    rw [String.toList_ofList]
    refine hsource _ (hsp.startsBlank hg hb) fun hopen => ?_
    cases hts with
    | nil => rw [ho rfl hopen, hsp.eq_nil, List.append_nil]
    | @cons u => exact absurd hopen (hfirst u List.mem_cons_self source ht)

namespace Lexer

/-- The source of a token is the text of its span. -/
theorem exists_textAt?_of_mem_tokens (x : String) : ∀ t ∈ (ofText x).tokens, ∃ source after,
    textAt? x.toList t.span = some source ∧ IsLexeme t.kind t.text.toList source after ∧
      t.span.stop + utf8Length after = x.utf8ByteSize := by
  intro t ht
  obtain ⟨before, source, after, hx, hlexeme, -⟩ := exists_isExcerpt_of_mem_tokens x t ht
  refine ⟨source, after, hx.textAt?_eq, hlexeme, ?_⟩
  have hlength := congrArg utf8Length hx.append_eq
  rw [← List.append_assoc, utf8Length_append] at hlength
  rw [hx.span_eq, hlength]
  exact utf8Length_toList x

/-- Every string but the last token is closed. -/
theorem pairwise_closed (x : String) : (ofText x).tokens.Pairwise fun t _ =>
    ∀ source, SpelledAs x t source → ¬ IsOpenString source := by
  have h := (ofText x).tiles_tokens
  refine h.pairwise.imp_of_mem fun {t u} ht hu htu source hsource hopen => ?_
  obtain ⟨source', after, hsource', hlexeme, hstop⟩ := exists_textAt?_of_mem_tokens x t ht
  cases hsource.symm.trans hsource'
  rw [hlexeme.rest_eq_nil_of_isOpenString hopen] at hstop
  obtain ⟨_, _, -, -, hstop'⟩ := exists_textAt?_of_mem_tokens x u hu
  have := h.start_lt_stop u hu
  simp only [utf8Length_nil] at hstop
  omega

end Lexer

theorem IsRelaid.forall₂_tokens {Spells : Token → List Char → Prop} {R : Token → Token → Prop}
    {x y : String} (h : IsRelaid Spells x y)
    (hspells : ∀ t ∈ (Lexer.ofText x).tokens, ∀ source, Spells t source →
      (IsOpenString source → SpelledAs x t source) ∧
        ∃ text, IsSourceOf t.kind text source ∧ ∀ span, R t ⟨t.kind, String.ofList text, span⟩) :
    List.Forall₂ R (Lexer.ofText x).tokens (Lexer.ofText y).tokens := by
  obtain ⟨lead, sources, body, hlead, hsources, hspaced, hy⟩ := h
  obtain ⟨us, hus, hR⟩ := hspaced.exists_tiles (fun t source hs => (hspells t hs.1 source hs.2).2)
    ((List.forall₂_and_left _ _).2 ⟨fun _ => id, hsources⟩)
    ((Lexer.pairwise_closed x).imp fun hclosed source hs hopen =>
      hclosed source ((hspells _ hs.1 source hs.2).1 hopen) hopen) hlead
  have htokens : (Lexer.ofText y).tokens = us := by
    rw [← hy] at hus
    exact hus.tokens_eq
  rwa [htokens]

/-- The same kind and the same text. -/
def Token.SameText (t u : Token) : Prop := t.kind = u.kind ∧ t.text = u.text

theorem IsRelaid.forall₂_sameText {x y : String} (h : IsRelaid (SpelledAs x) x y) :
    List.Forall₂ Token.SameText (Lexer.ofText x).tokens (Lexer.ofText y).tokens := by
  refine h.forall₂_tokens fun t ht source hs => ⟨fun _ => hs, t.text.toList, ?_, fun span => ?_⟩
  · obtain ⟨source', after, hs', hlexeme, -⟩ := Lexer.exists_textAt?_of_mem_tokens x t ht
    cases hs.symm.trans hs'
    exact hlexeme.isSourceOf
  · exact ⟨rfl, String.ofList_toList.symm⟩

theorem IsRelaid.forall₂_like {x y : String} (h : IsRelaid (SpelledAlike x) x y) :
    List.Forall₂ Token.Like (Lexer.ofText x).tokens (Lexer.ofText y).tokens := by
  refine h.forall₂_tokens fun t ht source hs => ?_
  obtain ⟨source', after, hs', hlexeme, -⟩ := Lexer.exists_textAt?_of_mem_tokens x t ht
  rcases hs with hs | ⟨hk, hs⟩
  · cases hs.symm.trans hs'
    exact ⟨fun _ => hs, t.text.toList, hlexeme.isSourceOf, fun span =>
      ⟨rfl, fun _ => String.ofList_toList.symm⟩⟩
  · rw [hs', Option.map_some, Option.some.injEq] at hs
    have hsource := hlexeme.isSourceOf_of_toLower hk hs.symm
    refine ⟨?_, source, hsource, fun span => ⟨rfl, fun hn => absurd hk hn⟩⟩
    rintro ⟨body, rfl, -⟩
    have hword := (hsource [] nofun fun _ => rfl).eq_ofWord (.inr hk)
    exact absurd (hword.2.2.1 '"' List.mem_cons_self) (by decide)

/-- The token with a number, counted from zero, and `eof` behind the last one. -/
def tokenAt (text : String) (n : ℕ) : Token :=
  (Lexer.ofText text).tokens[n]?.getD (.eof text.utf8ByteSize)

theorem tokenAt_of_lt {text : String} {n : ℕ} (h : n < (Lexer.ofText text).tokens.length) :
    tokenAt text n = (Lexer.ofText text).tokens[n] := by
  rw [tokenAt, List.getElem?_eq_getElem h, Option.getD_some]

theorem tokenAt_length (text : String) :
    tokenAt text (Lexer.ofText text).tokens.length = .eof text.utf8ByteSize := by
  rw [tokenAt, List.getElem?_eq_none (Nat.le_refl _), Option.getD_none]

/-- The spans are those of the tokens with the same number. -/
def SamePlace (x y : String) (s s' : Span) : Prop :=
  ∃ n, s = (tokenAt x n).span ∧ s' = (tokenAt y n).span

variable {R : Token → Token → Prop} {x y : String}

/-- Parsers for texts whose tokens match one by one start side by side, and they keep count. -/
theorem Parser.parallel_ofText (h : List.Forall₂ R (Lexer.ofText x).tokens (Lexer.ofText y).tokens)
    (heof : R (.eof x.utf8ByteSize) (.eof y.utf8ByteSize)) :
    (ofText x).Parallel (fun t u => R t u ∧ ∃ n, t = tokenAt x n ∧ u = tokenAt y n)
      (ofText y) := by
  have hstop : ∀ z : String, (ofText z).cursor.stop = z.utf8ByteSize := by
    intro z
    simp [ofText, ofLexer, Lexer.stop, Lexer.ofText]
  refine ⟨⟨List.forall₂_iff_get.2 ⟨h.length_eq, fun n hx hy => ⟨h.get hx hy, n, ?_, ?_⟩⟩, ?_⟩, .nil⟩
  · exact (tokenAt_of_lt hx).symm
  · exact (tokenAt_of_lt hy).symm
  · rw [hstop, hstop]
    exact ⟨heof, _, (tokenAt_length x).symm, h.length_eq ▸ (tokenAt_length y).symm⟩

/-- Such texts give the same query, and faults at the same places. -/
theorem parse_of_forall₂_tokens (hR : ∀ {t u : Token}, R t u → t.Like u)
    (h : List.Forall₂ R (Lexer.ofText x).tokens (Lexer.ofText y).tokens)
    (heof : R (.eof x.utf8ByteSize) (.eof y.utf8ByteSize)) :
    (Parser.ofText x).parse.1 = (Parser.ofText y).parse.1 ∧
      List.Forall₂ (fun f g => f.cause.Parallel R g.cause ∧ SamePlace x y f.span g.span)
        (Parser.ofText x).parse.2.faults (Parser.ofText y).parse.2.faults := by
  obtain ⟨hquery, hrun⟩ := (Parser.parallel_ofText h heof).parse fun hq => hR hq.1
  refine ⟨hquery, hrun.faults.imp fun f g hfg => ?_⟩
  obtain ⟨hcause, t, u, ⟨-, n, rfl, rfl⟩, hs, hs'⟩ := hfg
  exact ⟨hcause.mono And.left, n, hs, hs'⟩

theorem Token.SameText.describe_eq {t u : Token} (h : t.SameText u) : t.describe = u.describe := by
  rw [describe, describe, h.1, h.2]

theorem FaultCause.Parallel.message_eq {a b : FaultCause} (h : a.Parallel Token.SameText b) :
    a.message = b.message := by
  cases h with
  | refl => rfl
  | unexpected h => exact congrArg notAllowed h.describe_eq

/-- Another layout changes neither the tokens nor what the parser makes of them: the query and the
messages are the same, and each message is about the same token. If keywords change their letters,
the query and the tokens at fault are still the same. -/
theorem parse_of_isRelaid (x y : String) :
    (IsRelaid (SpelledAs x) x y →
      List.Forall₂ Token.SameText (Lexer.ofText x).tokens (Lexer.ofText y).tokens ∧
        (Parser.ofText x).parse.1 = (Parser.ofText y).parse.1 ∧
        List.Forall₂ (fun f g => f.message = g.message ∧ SamePlace x y f.span g.span)
          (Parser.ofText x).parse.2.faults (Parser.ofText y).parse.2.faults) ∧
    (IsRelaid (SpelledAlike x) x y → (Parser.ofText x).parse.1 = (Parser.ofText y).parse.1 ∧
      List.Forall₂ (fun f g => SamePlace x y f.span g.span) (Parser.ofText x).parse.2.faults
        (Parser.ofText y).parse.2.faults) := by
  constructor
  · intro h
    have htokens := h.forall₂_sameText
    obtain ⟨hquery, hfaults⟩ := parse_of_forall₂_tokens (fun h => ⟨h.1, fun _ => h.2⟩) htokens
      ⟨rfl, rfl⟩
    exact ⟨htokens, hquery, hfaults.imp fun _ _ hfg =>
      ⟨hfg.1.message_eq, hfg.2⟩⟩
  · intro h
    obtain ⟨hquery, hfaults⟩ := parse_of_forall₂_tokens id h.forall₂_like
      ⟨rfl, fun _ => rfl⟩
    exact ⟨hquery, hfaults.imp fun _ _ hfg => hfg.2⟩

/-- A text with two faults and a string that is not closed. -/
theorem parse_of_isRelaid_open :
    let x := "a=1and(b!\"é"
    let y := "\u00a0a =\n1 and\t( b ! \"é"
    let z := "\u00a0a =\n1 aNd\t( b ! \"é"
    IsRelaid (SpelledAs x) x y ∧ IsRelaid (SpelledAlike x) x z ∧
      (Parser.ofText x).parse.2.faults.length = 2 ∧
      (Parser.ofText x).parse.1 = (Parser.ofText y).parse.1 ∧
      (Parser.ofText x).parse.1 = (Parser.ofText z).parse.1 ∧
      List.Forall₂ (fun f g => f.message = g.message ∧ SamePlace x y f.span g.span)
        (Parser.ofText x).parse.2.faults (Parser.ofText y).parse.2.faults ∧
      List.Forall₂ (fun f g => SamePlace x z f.span g.span) (Parser.ofText x).parse.2.faults
        (Parser.ofText z).parse.2.faults := by
  intro x y z
  have hsources : ∀ word : List Char, Spaced
      [['a'], ['='], ['1'], word, ['('], ['b'], ['!'], ['"', 'é']]
      (['a'] ++ ([' '] ++ (['='] ++ (['\n'] ++ (['1'] ++ ([' '] ++ (word ++ (['\t'] ++
        (['('] ++ ([' '] ++ (['b'] ++ ([' '] ++ (['!'] ++ ([' '] ++
          (['"', 'é'] ++ ([] ++ [])))))))))))))))) := by
    intro word
    have hblank : IsBlank [' '] ∧ IsBlank ['\n'] ∧ IsBlank ['\t'] := by decide
    exact .cons hblank.1 nofun nofun <| .cons hblank.2.1 nofun nofun <|
      .cons hblank.1 nofun nofun <| .cons hblank.2.2 nofun nofun <|
      .cons hblank.1 nofun nofun <| .cons hblank.1 nofun nofun <|
      .cons hblank.1 nofun nofun <|
      .cons (List.forall_mem_nil _) (fun h => absurd rfl h) (fun _ _ => rfl) .nil
  have hy : IsRelaid (SpelledAs x) x y :=
    ⟨['\u00a0'], _, _, by decide, by decide +kernel, hsources "and".toList, by decide⟩
  have hz : IsRelaid (SpelledAlike x) x z :=
    ⟨['\u00a0'], _, _, by decide, by decide +kernel, hsources "aNd".toList, by decide⟩
  obtain ⟨-, hquery, hfaults⟩ := (parse_of_isRelaid x y).1 hy
  obtain ⟨hquery', hfaults'⟩ := (parse_of_isRelaid x z).2 hz
  exact ⟨hy, hz, by decide +kernel, hquery, hquery', hfaults, hfaults'⟩

end TicketQuery
