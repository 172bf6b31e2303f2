import TicketQuery.BoundedQuery
import TicketQuery.Proofs.FaultTokens
import TicketQuery.Proofs.LastExpression
import TicketQuery.Proofs.Layout

/-! # How deep a text can nest

A level of nesting costs a connective, the gap or the parenthesis behind it, and the three bytes of
a comparison, the shortest condition there is. So the length of a text bounds the depth of its
condition, whatever else stands in the text. The text `a=1or a=1` nests as deep as its length
allows. -/
namespace TicketQuery

/-- No token of the kind is shorter. -/
def TokenKind.leastLength : TokenKind → ℕ
  | operator (.connective .and) => 3
  | operator (.connective .or) => 2
  | _ => 1

/-- A connective and the name of a field with nothing between them would be one word. -/
def TokenKind.leastGap : TokenKind → Option TokenKind → ℕ
  | operator (.connective _), some ident => 1
  | _, _ => 0

/-- No text with these tokens is shorter. -/
def leastLength : List Token → ℕ
  | [] => 0
  | t :: ts => t.kind.leastLength + t.kind.leastGap (ts.head?.map Token.kind) + leastLength ts

theorem TokenKind.leastLength_pos (k : TokenKind) : 0 < k.leastLength := by
  unfold leastLength
  split <;> decide

theorem TokenKind.leastGap_none (k : TokenKind) : k.leastGap none = 0 := by
  unfold leastGap
  split
  · next h => cases h
  · rfl

theorem leastLength_singleton (t : Token) : leastLength [t] = t.kind.leastLength := by
  simp [leastLength, TokenKind.leastGap_none]

/-- Tokens that are put together may need a gap. -/
theorem leastLength_append_le (ts us : List Token) :
    leastLength ts + leastLength us ≤ leastLength (ts ++ us) := by
  induction ts with
  | nil => simp [leastLength]
  | cons t ts ih =>
    have hgap : t.kind.leastGap (ts.head?.map Token.kind) ≤
        t.kind.leastGap ((ts ++ us).head?.map Token.kind) := by
      cases ts with
      | nil => simp [TokenKind.leastGap_none]
      | cons => exact Nat.le_refl _
    simp only [leastLength, List.cons_append]
    omega

theorem leastLength_le_of_infix {ts us : List Token} (h : ts <:+: us) :
    leastLength ts ≤ leastLength us := by
  obtain ⟨front, rest, rfl⟩ := h
  have h₁ := leastLength_append_le (front ++ ts) rest
  have h₂ := leastLength_append_le front ts
  omega

theorem TokenKind.leastLength_ofWord_le {word : List Char} (h : word ≠ []) :
    (ofWord word).leastLength ≤ word.length := by
  unfold ofWord
  cases hl : keywords.lookup (word.map Char.toLower) with
  | none => exact List.length_pos_iff.2 h
  | some k =>
    have hkeywords : ∀ p ∈ keywords, p.2.leastLength ≤ p.1.length := by decide
    have hleast := hkeywords _ (mem_keywords_of_lookup hl)
    rwa [List.length_map] at hleast

theorem IsLexeme.leastLength_le {kind : TokenKind} {text source rest : List Char}
    (h : IsLexeme kind text source rest) : kind.leastLength ≤ utf8Length source := by
  refine Nat.le_trans ?_ (length_le_utf8Length source)
  cases h with
  | sign h =>
    have hsigns : ∀ p ∈ signKinds, p.2.leastLength ≤ p.1.length := by decide
    exact hsigns _ h
  | pairable h =>
    have hpairable : ∀ p ∈ pairableKinds, p.2.leastLength ≤ 1 := by decide
    exact hpairable _ h
  | number hne => exact List.length_pos_iff.2 hne
  | word hne => exact TokenKind.leastLength_ofWord_le hne
  | string | openString | stray => exact Nat.succ_pos _

/-- A word does not go on where the next one starts. -/
theorem IsLexeme.leastGap_le {kind : TokenKind} {text source : List Char} {offset : ℕ}
    {rest : List Char} {ts : List Token} (h : IsLexeme kind text source rest)
    (hts : Tiles offset rest ts) :
    kind.leastGap (ts.head?.map Token.kind) ≤ utf8Length (rest.takeWhile isWhiteSpace) := by
  cases hts with
  | blank => simp [TokenKind.leastGap_none]
  | @token _ gap word rest t ts hg ht =>
    unfold TokenKind.leastGap
    split
    case h_2 => exact Nat.zero_le _
    next k hk =>
    have ht : IsLexeme .ident t.text.toList word rest := Option.some.inj hk ▸ ht
    obtain ⟨-, -, -, hend⟩ := h.eq_ofWord (.inr (by cases k <;> decide))
    obtain ⟨-, -, hword, -⟩ := ht.eq_ofWord (.inl rfl)
    cases gap with
    | nil =>
      obtain ⟨c, cs, rfl, -⟩ := ht.exists_read_eq
      have hc := hend c (cs ++ rest) rfl
      rw [hword c List.mem_cons_self] at hc
      cases hc
    | cons c gap =>
      have hc : isWhiteSpace c = true := hg c List.mem_cons_self
      have := c.utf8Size_pos
      rw [List.cons_append, List.takeWhile_cons_of_pos hc, utf8Length_cons]
      omega

/-- What tokens take of a text, besides the white space that it starts with. -/
theorem Tiles.leastLength_le {offset : ℕ} {cs : List Char} {ts : List Token}
    (h : Tiles offset cs ts) :
    utf8Length (cs.takeWhile isWhiteSpace) + leastLength ts ≤ utf8Length cs := by
  induction h with
  | @blank offset gap hg =>
    have hlength := congrArg utf8Length
      (List.takeWhile_append_dropWhile (p := isWhiteSpace) (l := gap))
    rw [utf8Length_append] at hlength
    simp only [leastLength]
    omega
  | @token offset gap source rest t ts hg ht hs h ih =>
    obtain ⟨c, source, rfl, hc, -⟩ := ht.exists_read_eq
    have hgap : (gap ++ (c :: source ++ rest)).takeWhile isWhiteSpace = gap := by
      rw [List.takeWhile_append_of_pos hg]
      simp [hc]
    have hleast := ht.leastLength_le
    have hbehind := ht.leastGap_le h
    rw [hgap]
    simp only [utf8Length_append, leastLength]
    omega

/-- One for tokens that start with a parenthesis, which needs no gap before it. -/
def openingLength (ts : List Token) : ℕ :=
  if ts.head?.map Token.kind = some .leftParen then 1 else 0

/-- The tokens take enough bytes for the expression. A parenthesis in front is counted apart: as the
right operand of a connective the expression has it in place of a gap. -/
structure Affords (ts : List Token) (x : Expr) : Prop where
  length : (if x.isNode then 3 else 1) + openingLength ts ≤ leastLength ts
  depth : 6 * x.depth + openingLength ts ≤ leastLength ts + 9
  head : (∀ v, x ≠ .literal v) →
    ts.head?.map Token.kind = some .ident ∨ ts.head?.map Token.kind = some .leftParen

theorem Affords.openingLength_lt {ts : List Token} {x : Expr} (h : Affords ts x) :
    openingLength ts < leastLength ts := by
  have := h.length
  split at this <;> omega

/-- The front of a row of tokens starts as the row does. -/
theorem head?_append_of_some {ts us : List Token} {k : TokenKind}
    (h : ts.head?.map Token.kind = some k) : (ts ++ us).head?.map Token.kind = some k := by
  cases ts with
  | nil => cases h
  | cons t ts => exact h

theorem Affords.leaf {t : Token} {x : Expr} (h : t.expr? = some x) : Affords [t] x := by
  have hnode := Token.isNode_of_expr? h
  have hdepth : x.depth = 1 := by
    cases x with
    | node => cases hnode
    | field | literal => rfl
  have hopening : openingLength [t] = 0 := by
    rcases Token.kind_of_expr?_eq_some h with hk | hk | hk <;> simp [openingLength, hk]
  have hlength := t.kind.leastLength_pos
  rw [← leastLength_singleton] at hlength
  refine ⟨?_, by omega, fun hliteral => .inl ?_⟩
  · rw [hnode, hopening]
    exact hlength
  · unfold Token.expr? at h
    split at h
    · next hk => exact congrArg some hk
    · exact absurd (Option.some.inj h).symm (hliteral _)
    · obtain ⟨n, -, hn⟩ := Option.map_eq_some_iff.1 h
      exact absurd hn.symm (hliteral _)
    · cases h

theorem Affords.group {o c : Token} {ts : List Token} {x : Expr} (ho : o.kind = .leftParen)
    (h : Affords ts x) : Affords (o :: (ts ++ [c])) x := by
  have hopening : openingLength (o :: (ts ++ [c])) = 1 := by simp [openingLength, ho]
  have hparts := leastLength_append_le ([o] ++ ts) [c]
  have hfront := leastLength_append_le [o] ts
  have hfirst := leastLength_singleton o ▸ o.kind.leastLength_pos
  have hlast := leastLength_singleton c ▸ c.kind.leastLength_pos
  have htokens : [o] ++ ts ++ [c] = o :: (ts ++ [c]) := rfl
  rw [htokens] at hparts
  have hlength := h.length
  have hdepth := h.depth
  exact ⟨by omega, by omega, fun _ => .inr (congrArg some ho)⟩

/-- The tokens of two operands with an operator between them. -/
theorem leastLength_infix_le (ts us : List Token) (op : Token) :
    leastLength ts + op.kind.leastLength + op.kind.leastGap (us.head?.map Token.kind) +
      leastLength us ≤ leastLength (ts ++ op :: us) := by
  have h := leastLength_append_le ts (op :: us)
  simp only [leastLength] at h
  omega

theorem openingLength_append {ts : List Token} {x : Expr} (h : Affords ts x) (us : List Token) :
    openingLength (ts ++ us) = openingLength ts := by
  cases ts with
  | nil => exact absurd h.openingLength_lt (by simp [leastLength])
  | cons t ts => rfl

theorem Affords.comparison {ts us : List Token} {op : Token} {c : Comparison} {name : String}
    {v : Literal} (hl : Affords ts (.field name)) (hr : Affords us (.literal v)) :
    Affords (ts ++ op :: us) (.node (.comparison c) (.field name) (.literal v)) := by
  have hparts := leastLength_infix_le ts us op
  have hop := op.kind.leastLength_pos
  have hleft := hl.openingLength_lt
  have hright := hr.openingLength_lt
  have hopening := openingLength_append hl (op :: us)
  have hhead := hl.head (by simp)
  refine ⟨?_, ?_, fun _ => hhead.imp head?_append_of_some head?_append_of_some⟩
  · simp only [Expr.isNode, if_true]
    omega
  · simp only [Expr.depth, Nat.max_self]
    omega

/-- A condition behind a connective starts with a word, which needs a gap, or with a
parenthesis. -/
theorem Affords.connective {ts us : List Token} {op : Token} {k : Connective} {x y : Expr}
    (hop : op.kind = .operator (.connective k)) (hx : x.isNode = true) (hy : y.isNode = true)
    (hl : Affords ts x) (hr : Affords us y) :
    Affords (ts ++ op :: us) (.node (.connective k) x y) := by
  have hparts := leastLength_infix_le ts us op
  have hconnective : 2 ≤ op.kind.leastLength := by
    rw [hop]
    cases k <;> decide
  have hopening := openingLength_append hl (op :: us)
  have hseparate : 1 ≤ op.kind.leastGap (us.head?.map Token.kind) + openingLength us := by
    rcases hr.head (by rintro v rfl; cases hy) with h | h
    · simp [h, hop, TokenKind.leastGap]
    · simp [h, openingLength]
  have hhead := hl.head (by rintro v rfl; cases hx)
  obtain ⟨hleft, hleftDepth, -⟩ := hl
  obtain ⟨hright, hrightDepth, -⟩ := hr
  simp only [hx, hy, if_true] at hleft hright
  refine ⟨?_, ?_, fun _ => hhead.imp head?_append_of_some head?_append_of_some⟩
  · simp only [Expr.isNode, if_true]
    omega
  · simp only [Expr.depth]
    omega

mutual

theorem Operand.affords : ∀ {p : Operand} {x : Expr}, p.expr? = some x → Affords p.tokens x
  | .leaf _, _, h => .leaf h
  | .group _ _ _, _, h => by
    obtain ⟨ho, -, he⟩ := Operand.expr?_group_eq_some h
    exact .group ho (Chain.affords he)

theorem Clause.affords : ∀ {q : Clause} {x : Expr}, q.expr? = some x → Affords q.tokens x
  | .operand _, _, h => Operand.affords h
  | .comparison _ _ _, _, h => by
    obtain ⟨c, name, v, -, hl, hr, rfl⟩ := Clause.expr?_comparison_eq_some h
    exact .comparison (Operand.affords hl) (Operand.affords hr)

theorem Chain.affords : ∀ {e : Chain} {x : Expr}, e.expr? = some x → Affords e.tokens x
  | .clause _, _, h => Clause.affords h
  | .linked _ _ _, _, h => by
    obtain ⟨k, y, z, hop, hl, hr, hy, hz, rfl⟩ := Chain.expr?_linked_eq_some h
    exact .connective hop hy hz (Chain.affords hl) (Clause.affords hr)

end

theorem Statement.exists_chain_of_result {c : Cursor} {x : Expr}
    (h : (read c).result = .condition (some x)) :
    ∃ (e : Chain) (rest : List Token), e.expr? = some x ∧ c.unread = e.tokens ++ rest := by
  have hkeyword : ∀ kind : ModifierKind, c.current.kind ≠ kind.keywordKind := by
    intro kind hk
    obtain ⟨m, hm⟩ := exists_result_modifier kind c
    rw [read_of_keyword hk, hm] at h
    cases h
  rw [(read_of_not_keyword (hkeyword .orderBy) (hkeyword .limit)).1] at h
  have hvalue : (expression .lowest c).value = some x := StatementResult.condition.inj h
  have hfaultless : (expression .lowest c).faults = [] :=
    (isSettled_expression .lowest c).1 (Option.isSome_of_eq_some hvalue)
  obtain ⟨e, y, rest, he, -, hu, hy, -⟩ := reads_expression .lowest c hfaultless
  cases hvalue.symm.trans hy
  exact ⟨e, rest, he, hu⟩

/-- What an expression statement gives stands for a part of the tokens. -/
theorem exists_chain_of_mem_results {start c : Cursor} (h : c.Follows start) {x : Expr}
    (hx : .condition (some x) ∈ (statements c).results) :
    ∃ e : Chain, e.expr? = some x ∧ e.tokens <:+: start.unread := by
  induction c using statements.induct with
  | case1 c hu =>
    rw [statements, dif_pos hu] at hx
    cases hx
  | case2 c hu s ih =>
    rw [statements, dif_neg hu] at hx
    rcases List.mem_cons.1 hx with hx | hx
    · obtain ⟨e, rest, he, hrest⟩ := Statement.exists_chain_of_result hx.symm
      have hprefix : e.tokens <+: c.unread := hrest ▸ List.prefix_append _ _
      exact ⟨e, he, hprefix.isInfix.trans h.unread.isInfix⟩
    · exact ih (Statement.fits_read h).2.advance hx

theorem Parser.mem_results_of_condition {p : Parser} {x : Expr}
    (h : p.parse.1.condition = some x) : .condition (some x) ∈ (statements p.cursor).results := by
  have hlast : ((statements p.cursor).results.filterMap StatementResult.condition?).getLast?.join =
      some x := (congrArg Query.condition (Query.ofStatements_eq _)).symm.trans h
  obtain ⟨r, hr, hc⟩ :=
    List.mem_filterMap.1 (List.mem_of_getLast? (Option.join_eq_some_iff.1 hlast))
  cases r with
  | condition e =>
    cases hc
    exact hr
  | modifier => cases hc

theorem Lexer.leastLength_tokens_le (text : String) :
    leastLength (ofText text).tokens ≤ text.utf8ByteSize := by
  have h := (ofText text).tiles_tokens.leastLength_le
  rw [ofText, utf8Length_toList] at h
  exact Nat.le_trans (Nat.le_add_left _ _) h

/-- The length of a text bounds the depth of its condition, whatever faults it has. So no query is
refused as too deep where the limits leave room for the depth of every text that is short enough. -/
theorem Query.six_mul_depth_le (text : String) :
    (∀ e, (Parser.ofText text).parse.1.condition = some e →
      6 * e.depth ≤ text.utf8ByteSize + 9) ∧
    ∀ limits : Limits, limits.maxLength + 9 < 6 * (limits.maxDepth + 1) →
      ∀ depth limit, ofText limits text ≠ .error (.tooDeep depth limit) := by
  have hdepth : ∀ e, (Parser.ofText text).parse.1.condition = some e →
      6 * e.depth ≤ text.utf8ByteSize + 9 := by
    intro e he
    obtain ⟨chain, hchain, hpart⟩ :=
      exists_chain_of_mem_results (.refl _) (Parser.mem_results_of_condition he)
    have haffords := (Chain.affords hchain).depth
    have hpart := leastLength_le_of_infix hpart
    have hlength := Lexer.leastLength_tokens_le text
    have hunread : (Parser.ofText text).cursor.unread = (Lexer.ofText text).tokens := rfl
    rw [hunread] at hpart
    omega
  refine ⟨hdepth, fun limits hlimits depth limit h => ?_⟩
  unfold ofText at h
  dsimp only at h
  split at h
  · cases h
  split at h
  · cases h
  split at h
  · next hlength _ hdeep =>
    unfold Query.depth at hdeep
    cases hc : (Parser.ofText text).parse.1.condition with
    | none => simp [hc] at hdeep
    | some e =>
      have := hdepth e hc
      simp only [hc, Option.map_some, Option.getD_some] at hdeep
      omega
  · cases h

/-- The shortest text with a connective. -/
theorem Query.six_mul_depth_le_shortest :
    ∃ e, (Parser.ofText "a=1or a=1").parse.1.condition = some e ∧
      6 * e.depth = "a=1or a=1".utf8ByteSize + 9 ∧
      6 * e.depth ≤ "a=1or a=1".utf8ByteSize + 9 ∧
      ∀ depth limit, ofText { maxLength := 9, maxDepth := 3 } "a=1or a=1" ≠
        .error (.tooDeep depth limit) := by
  have h := six_mul_depth_le "a=1or a=1"
  have hc : (Parser.ofText "a=1or a=1").parse.1.condition = some (.node (.connective .or)
      (.node (.comparison .eq) (.field "a") (.literal (.integer 1)))
      (.node (.comparison .eq) (.field "a") (.literal (.integer 1)))) := by
    decide +kernel
  exact ⟨_, hc, by decide, h.1 _ hc, h.2 _ (by decide)⟩

end TicketQuery
