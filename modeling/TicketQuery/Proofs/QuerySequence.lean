import Mathlib.Algebra.Ring.Parity
import TicketQuery.Proofs.Layout
import TicketQuery.Proofs.RoundTrip

/-! # Queries one behind the other

Two texts with a blank between them have the tokens of the first and then those of the second, as
long as the first does not end within a string. If both are free of faults, so is the whole: it has
the modifiers of both in order, and the later condition. So a modifier that is appended to a query
overrides those of its kind and changes nothing else. -/
namespace TicketQuery

def Span.shift (n : ℕ) (s : Span) : Span := ⟨s.start + n, s.stop + n⟩

def Token.shift (n : ℕ) (t : Token) : Token := { t with span := t.span.shift n }

theorem Token.sameText_shift (n : ℕ) (t : Token) : t.SameText (t.shift n) := ⟨rfl, rfl⟩

theorem Tiles.shift {offset : ℕ} {cs : List Char} {ts : List Token} (h : Tiles offset cs ts)
    (n : ℕ) : Tiles (offset + n) cs (ts.map (Token.shift n)) := by
  induction h with
  | blank hg => exact .blank hg
  | @token offset gap source rest t ts hg ht hs _ ih =>
    refine .token (t := t.shift n) hg ht ?_ ih
    simp only [Token.shift, Span.shift, hs, Nat.add_right_comm]

/-- Only the places of tokens depend on where a text starts. -/
theorem Lexer.tokens_offset_add (cs : List Char) (offset n : ℕ) :
    (⟨cs, offset + n⟩ : Lexer).tokens = (⟨cs, offset⟩ : Lexer).tokens.map (Token.shift n) :=
  ((Lexer.tiles_tokens ⟨cs, offset⟩).shift n).tokens_eq

theorem StartsOutside.append_blank {p : Char → Bool} {rest : List Char} (h : StartsOutside p rest)
    (hp : p ' ' = false) (more : List Char) : StartsOutside p (rest ++ ' ' :: more) := by
  cases rest with
  | nil =>
    rintro c cs ⟨⟩
    exact hp
  | cons c rest =>
    rintro d ds ⟨⟩
    exact h c rest rfl

namespace IsLexeme

variable {kind : TokenKind} {text source rest : List Char}

/-- A token stays what it is if more follows the text behind a blank. -/
theorem append_blank (h : IsLexeme kind text source rest) (ho : ¬ IsOpenString source)
    (more : List Char) : IsLexeme kind text source (rest ++ ' ' :: more) := by
  cases h with
  | sign h => exact .sign h
  | pairable h hr => exact .pairable h (hr.append_blank (by decide) more)
  | number hne h hr => exact .number hne h (hr.append_blank (by decide) more)
  | word hne h hr => exact .word hne h (hr.append_blank (by decide) more)
  | string h => exact .string h
  | openString h => exact absurd ⟨text, rfl, h⟩ ho
  | stray hs hd hi hw => exact .stray hs hd hi hw

/-- Quotes are found at the ends of closed strings only. -/
theorem even_count_quote (h : IsLexeme kind text source rest) (ho : ¬ IsOpenString source) :
    Even (source.count '"') := by
  have hzero : '"' ∉ source → Even (source.count '"') := by
    intro hn
    rw [List.count_eq_zero.2 hn]
    exact Even.zero
  cases h with
  | sign h =>
    have hn : ∀ p ∈ signKinds, '"' ∉ p.1 := by decide
    exact hzero (hn _ h)
  | @pairable _ c _ h =>
    have hn : ∀ p ∈ pairableKinds, '"' ∉ [p.1] := by decide
    exact hzero (hn _ h)
  | number _ h => exact hzero fun hm => absurd (h _ hm) (by decide)
  | word _ h => exact hzero fun hm => absurd (h _ hm) (by decide +kernel)
  | string h =>
    rw [List.count_append, List.count_cons_self, List.count_eq_zero.2 h]
    exact even_two
  | openString h => exact absurd ⟨text, rfl, h⟩ ho
  | @stray c _ hs =>
    refine hzero fun hm => hs ?_
    rw [← List.mem_singleton.1 hm]
    decide

end IsLexeme

theorem IsBlank.count_quote {gap : List Char} (h : IsBlank gap) : gap.count '"' = 0 :=
  List.count_eq_zero.2 fun hm => absurd (h _ hm) (by decide)

theorem IsOpenString.count_quote {source : List Char} (h : IsOpenString source) :
    source.count '"' = 1 := by
  obtain ⟨body, rfl, hb⟩ := h
  rw [List.count_cons_self, List.count_eq_zero.2 hb]

namespace Lexer

/-- Without a string that is left open, the tokens of a text stay when more follows it. -/
theorem tokens_append_blank {cs : List Char} (h : Even (cs.count '"')) (offset : ℕ)
    (more : List Char) : (⟨cs ++ ' ' :: more, offset⟩ : Lexer).tokens =
      (⟨cs, offset⟩ : Lexer).tokens ++ (⟨more, offset + utf8Length cs + 1⟩ : Lexer).tokens := by
  have hblank : ∀ offset, (⟨' ' :: more, offset⟩ : Lexer).tokens =
      (⟨more, offset + 1⟩ : Lexer).tokens := tokens_blank more
  obtain ⟨ts, hts⟩ : ∃ ts, (⟨cs, offset⟩ : Lexer).tokens = ts := ⟨_, rfl⟩
  have htiles := tokens_eq_iff_tiles.1 hts
  rw [hts]
  clear hts
  induction htiles with
  | blank hg => rw [tokens_append_of_isBlank hg, hblank, List.nil_append]
  | @token offset gap source rest t ts hg ht hs htiles ih =>
    have hcount : (gap ++ (source ++ rest)).count '"' = source.count '"' + rest.count '"' := by
      rw [List.count_append, List.count_append, hg.count_quote, Nat.zero_add]
    rw [hcount] at h
    have hclosed : ¬ IsOpenString source := by
      intro ho
      rw [ht.rest_eq_nil_of_isOpenString ho, ho.count_quote] at h
      exact absurd h (by decide)
    have hrest : Even (rest.count '"') := (Nat.even_add.1 h).1 (ht.even_count_quote hclosed)
    have hstop : t.span.stop + utf8Length rest = offset + utf8Length (gap ++ (source ++ rest)) := by
      simp only [hs, utf8Length_append, Nat.add_assoc]
    have hmore := tokens_eq_iff_tiles.1 (ih hrest)
    rw [hstop] at hmore
    rw [List.append_assoc, List.append_assoc, List.cons_append]
    exact (Tiles.token hg (ht.append_blank hclosed more) hs hmore).tokens_eq

end Lexer

theorem Derives.append {is js : List Item} {ts us : List Token} (h : Derives is ts)
    (h' : Derives js us) : Derives (is ++ js) (ts ++ us) where
  valid := List.forall_mem_append.2 ⟨h.valid, h'.valid⟩
  tokens_eq := by rw [List.flatMap_append, h.tokens_eq, h'.tokens_eq]

/-- The text has no fault, and this is its query. -/
structure Query.IsReadFrom (q : Query) (text : String) : Prop where
  faults_eq : (Parser.ofText text).parse.2.faults = []
  query_eq : (Parser.ofText text).parse.1 = q

theorem Derives.isReadFrom {items : List Item} {text : String}
    (h : Derives items (Lexer.ofText text).tokens) : (Query.ofItems items).IsReadFrom text := by
  have hd : Derives items (Parser.ofText text).cursor.unread := h
  exact ⟨hd.parse_eq.2, hd.parse_eq.1⟩

/-- A text is derived in the same way wherever it stands. -/
theorem Query.IsReadFrom.exists_derives {q : Query} {text : String} (h : q.IsReadFrom text)
    (offset : ℕ) :
    ∃ items, Derives items (⟨text.toList, offset⟩ : Lexer).tokens ∧ Query.ofItems items = q := by
  let p := Parser.ofLexer ⟨text.toList, offset⟩
  have htokens : List.Forall₂ Token.SameText (Lexer.ofText text).tokens
      (⟨text.toList, offset⟩ : Lexer).tokens := by
    have hshift := Lexer.tokens_offset_add text.toList 0 offset
    rw [Nat.zero_add] at hshift
    rw [hshift]
    exact List.forall₂_map_right_iff.2 (List.forall₂_same.2 fun t _ => t.sameText_shift offset)
  have hp : (Parser.ofText text).Parallel Token.SameText p := ⟨⟨htokens, rfl, rfl⟩, .nil⟩
  obtain ⟨hquery, hrun⟩ := hp.parse fun h => ⟨h.1, fun _ => h.2⟩
  have hfaults : p.parse.2.faults = [] := by
    have := hrun.faults
    rw [h.faults_eq] at this
    exact List.forall₂_nil_left_iff.1 this
  obtain ⟨items, hd⟩ := TicketQuery.exists_derives (c := p.cursor) hfaults
  exact ⟨items, hd, hd.parse_eq.1.symm.trans (hquery.symm.trans h.query_eq)⟩

/-- All modifiers in order, and the later condition if there are two. -/
def Query.followedBy (q r : Query) : Query where
  condition := r.condition.or q.condition
  modifiers := q.modifiers ++ r.modifiers

namespace Query

theorem ofItems_append (is js : List Item) :
    ofItems (is ++ js) = (ofItems is).followedBy (ofItems js) := by
  simp [ofItems, ofValues, followedBy, List.filterMap_append, List.getLast?_append]

theorem orderBy?_followedBy (q r : Query) :
    (q.followedBy r).orderBy? = r.orderBy?.or q.orderBy? := by
  simp only [orderBy?, followedBy, List.filterMap_append, List.getLast?_append]

theorem limit?_followedBy (q r : Query) :
    (q.followedBy r).limit? = r.limit?.or q.limit? := by
  simp only [limit?, followedBy, List.filterMap_append, List.getLast?_append]

variable {q r : Query} {a b : String}

theorem IsReadFrom.append (ha : q.IsReadFrom a) (hb : r.IsReadFrom b)
    (hquotes : Even (a.toList.count '"')) : (q.followedBy r).IsReadFrom (a ++ " " ++ b) := by
  obtain ⟨is, his, rfl⟩ := ha.exists_derives 0
  obtain ⟨js, hjs, rfl⟩ := hb.exists_derives (0 + utf8Length a.toList + 1)
  have htokens : (Lexer.ofText (a ++ " " ++ b)).tokens = (⟨a.toList, 0⟩ : Lexer).tokens ++
      (⟨b.toList, 0 + utf8Length a.toList + 1⟩ : Lexer).tokens := by
    rw [← Lexer.tokens_append_blank hquotes]
    simp [Lexer.ofText]
  have hd : Derives (is ++ js) (Lexer.ofText (a ++ " " ++ b)).tokens := by
    rw [htokens]
    exact his.append hjs
  rw [← ofItems_append]
  exact hd.isReadFrom

theorem isReadFrom_modifier {m : Modifier} (h : m.IsWritable) :
    (⟨none, [m]⟩ : Query).IsReadFrom m.inQuery := by
  have hw : IsWritten [.inl m] (Lexer.ofText m.inQuery).tokens :=
    (h.lexes delimited_nil).tokens 0
  obtain ⟨items, hd, hi⟩ := hw.derives
  have hread := hd.isReadFrom
  rw [hi] at hread
  exact hread

/-- Queries without faults make one query without faults, in which all modifiers stand and the later
condition counts. In particular a limit or a sort order that is appended counts, and nothing else
changes. -/
theorem isReadFrom_append (ha : q.IsReadFrom a) (hb : r.IsReadFrom b)
    (hquotes : Even (a.toList.count '"')) :
    (∃ p : Query, p.IsReadFrom (a ++ " " ++ b) ∧ p.modifiers = q.modifiers ++ r.modifiers ∧
      p.condition = r.condition.or q.condition) ∧
    (∀ n ≤ maxInteger, ∃ p : Query, p.IsReadFrom (a ++ " LIMIT " ++ toString n) ∧
      p.limit? = some (n : ℤ) ∧ p.orderBy? = q.orderBy? ∧ p.condition = q.condition) ∧
    (∀ name, IsFieldName name → ∃ p : Query, p.IsReadFrom (a ++ " ORDER_BY " ++ name) ∧
      p.orderBy? = some name ∧ p.limit? = q.limit? ∧ p.condition = q.condition) := by
  have hmodifier : ∀ m : Modifier, m.IsWritable →
      (q.followedBy ⟨none, [m]⟩).IsReadFrom (a ++ (" " ++ m.kind.keyword ++ " ") ++
        m.operand.inQuery) := by
    intro m hm
    have htext : a ++ (" " ++ m.kind.keyword ++ " ") ++ m.operand.inQuery =
        a ++ " " ++ m.inQuery := by
      simp only [Modifier.inQuery, String.append_assoc]
    rw [htext]
    exact ha.append (isReadFrom_modifier hm) hquotes
  refine ⟨⟨_, ha.append hb hquotes, rfl, rfl⟩, fun n hn => ?_, fun name hname => ?_⟩
  · have hm : Modifier.IsWritable ⟨.limit, .literal (.integer n)⟩ :=
      .limit ⟨Int.natCast_nonneg n, Int.ofNat_le.2 hn⟩
    exact ⟨_, hmodifier _ hm, limit?_followedBy .., orderBy?_followedBy .., rfl⟩
  · exact ⟨_, hmodifier _ (.orderBy hname), orderBy?_followedBy .., limit?_followedBy .., rfl⟩

/-- The second query overrides the condition and the limit, and ends within a string. -/
theorem isReadFrom_append_open :
    let a := "(a = \"é (\" and b<1)limit 5 order_by é"
    let b := "limit 7 c ~ \"open"
    ∃ q r p l : Query, q.IsReadFrom a ∧ r.IsReadFrom b ∧ Even (a.toList.count '"') ∧
      p.IsReadFrom "(a = \"é (\" and b<1)limit 5 order_by é limit 7 c ~ \"open" ∧
      p.condition = some (.node (.comparison .like) (.field "c") (.literal (.text "open"))) ∧
      l.IsReadFrom "(a = \"é (\" and b<1)limit 5 order_by é LIMIT 9" ∧ l.limit? = some 9 ∧
      l.orderBy? = some "é" := by
  intro a b
  have ha : (Parser.ofText a).parse.1.IsReadFrom a := ⟨by decide +kernel, rfl⟩
  have hb : (Parser.ofText b).parse.1.IsReadFrom b := ⟨by decide +kernel, rfl⟩
  have hquotes : Even (a.toList.count '"') := by decide +kernel
  obtain ⟨⟨p, hp, -, hcondition⟩, hlimit, -⟩ := isReadFrom_append ha hb hquotes
  obtain ⟨l, hl, hnine, horder, -⟩ := hlimit 9 (by decide)
  refine ⟨_, _, p, l, ha, hb, hquotes, hp, hcondition.trans ?_, hl, hnine, horder.trans ?_⟩
  · decide +kernel
  · decide +kernel

end Query

end TicketQuery
