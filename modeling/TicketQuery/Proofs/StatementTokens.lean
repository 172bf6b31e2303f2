import TicketQuery.Proofs.Alike
import TicketQuery.Proofs.MemberTest
import TicketQuery.Proofs.SqlScanner

/-! # Strings do not change the tokens of a statement

The statements of alike queries are divided into tokens at the same places, and the tokens are the
same except for those of the strings that differ. -/
namespace TicketQuery

/-- The same token, or the string tokens of related values. -/
inductive SqlToken.Alike (S : String → String → Prop) : SqlToken → SqlToken → Prop where
  | refl (t : SqlToken) : Alike S t t
  | string {s t : String} (h : S s t) : Alike S (.ofString s) (.ofString t)

/-- Both texts are well-formed, with as many tokens, and these are alike one by one. -/
def TokensAlike (S : String → String → Prop) (x y : String) : Prop :=
  ∃ ts us, sqlTokens x.toList = some ts ∧ sqlTokens y.toList = some us ∧
    List.Forall₂ (SqlToken.Alike S) ts us

/-- The text ends between two tokens, so that any text may follow. -/
def EndsBetween (s : String) : Prop :=
  (ScanState.between.run s.toList).map Prod.snd = some .between

instance (s : String) : Decidable (EndsBetween s) := inferInstanceAs (Decidable (_ = _))

theorem EndsBetween.runs {s : String} (h : EndsBetween s) :
    ∃ ts, ScanState.between.Runs s.toList ts .between := by
  obtain ⟨⟨ts, state⟩, hr, rfl⟩ := Option.map_eq_some_iff.1 h
  exact ⟨ts, hr⟩

/-- A text that ends the token before it and begins none that goes on behind it. -/
def IsSeparator (s : String) : Prop :=
  EndsBetween s ∧ (s.toList.head? = some ' ' ∨ s.toList.head? = some ')')

instance (s : String) : Decidable (IsSeparator s) := inferInstanceAs (Decidable (_ ∧ _))

theorem IsSeparator.delimited {s : String} (h : IsSeparator s) (t : String) :
    Delimited (s ++ t).toList := by
  rcases h.2 with hs | hs
  · exact delimited_of_head? (head?_toList_append hs) (.inl rfl)
  · exact delimited_of_head? (head?_toList_append hs) (.inr rfl)

variable {S : String → String → Prop}

namespace TokensAlike

variable {x y x' y' : String}

theorem refl {ts : List SqlToken} (h : sqlTokens x.toList = some ts) : TokensAlike S x x :=
  ⟨ts, ts, h, h, List.forall₂_same.2 fun t _ => .refl t⟩

theorem prepend {s : String} (hs : EndsBetween s) (h : TokensAlike S x y) :
    TokensAlike S (s ++ x) (s ++ y) := by
  obtain ⟨ts, us, hx, hy, htu⟩ := h
  obtain ⟨vs, hv⟩ := hs.runs
  refine ⟨vs ++ ts, vs ++ us, ?_, ?_, ?_⟩
  · rw [String.toList_append, sqlTokens_append hv hx]
  · rw [String.toList_append, sqlTokens_append hv hy]
  · exact List.rel_append (List.forall₂_same.2 fun t _ => .refl t) htu

theorem append (h : TokensAlike S x y) (h' : TokensAlike S x' y') (hx : Delimited x'.toList)
    (hy : Delimited y'.toList) : TokensAlike S (x ++ x') (y ++ y') := by
  obtain ⟨ts, us, hts, hus, htu⟩ := h
  obtain ⟨ts', us', hts', hus', htu'⟩ := h'
  refine ⟨ts ++ ts', us ++ us', ?_, ?_, List.rel_append htu htu'⟩
  · rw [String.toList_append, sqlTokens_append_of_delimited hts hts' hx]
  · rw [String.toList_append, sqlTokens_append_of_delimited hus hus' hy]

theorem separated {s : String} (hs : IsSeparator s) (h : TokensAlike S x y)
    (h' : TokensAlike S x' y') : TokensAlike S (x ++ (s ++ x')) (y ++ (s ++ y')) :=
  h.append (h'.prepend hs.1) (hs.delimited x') (hs.delimited y')

theorem closed (h : TokensAlike S x y) : TokensAlike S (x ++ ")") (y ++ ")") := by
  have hc : TokensAlike S ")" ")" := .refl (by decide : sqlTokens ")".toList = some [.sign ')'])
  exact h.append hc (delimited_closing []) (delimited_closing [])

theorem name (s : String) : TokensAlike S (sqlName s) (sqlName s) := refl (sqlTokens_sqlName s)

theorem value {x y : SqlValue} (h : x.Alike S y) : TokensAlike S x.toSql y.toSql := by
  cases h with
  | refl =>
    cases x with
    | integer n =>
      obtain ⟨ts, h⟩ := exists_sqlTokens_integer n
      exact refl h
    | text s => exact refl (sqlTokens_sqlString s)
  | text h =>
    exact ⟨_, _, sqlTokens_sqlString _, sqlTokens_sqlString _, .cons (.string h) .nil⟩

end TokensAlike

/-- Both have texts, and the texts have alike tokens. -/
def TextsAlike (S : String → String → Prop) (a b : Option String) : Prop :=
  ∃ x y, a = some x ∧ b = some y ∧ TokensAlike S x y

theorem SqlValue.Alike.isInteger_eq {x y : SqlValue} (h : x.Alike S y) :
    x.isInteger = y.isInteger := by
  cases h <;> rfl

theorem SqlTest.Alike.textsAlike {collection : String} (hc : KeepsQuotes collection)
    {t u : SqlTest} (h : t.Alike S collection u) : TextsAlike S t.toSql u.toSql := by
  cases h with
  | always =>
    have ht : sqlTokens "TRUE".toList = some [.word "TRUE".toList] := by decide
    exact ⟨_, _, rfl, rfl, .refl ht⟩
  | column name op h =>
    have hop : IsSeparator (" " ++ op.symbol ++ " ") := by
      cases op <;> decide +kernel
    have ht := (TokensAlike.name name).separated hop (.value h)
    refine ⟨_, _, rfl, rfl, ?_⟩
    simp only [String.append_assoc] at ht ⊢
    exact ht
  | @member name op x y h =>
    have hop : EndsBetween (op.symbol ++ " ") := by
      cases op <;> decide +kernel
    have hstart : IsSeparator (memberStart y.isInteger) := by
      cases y.isInteger <;> decide +kernel
    have hmiddle : IsSeparator (memberMiddle y.isInteger) := by
      cases y.isInteger <;> decide +kernel
    have hexists : EndsBetween "EXISTS (SELECT 1 FROM jsonb_array_elements(" := by
      decide +kernel
    have hvalue := (TokensAlike.value h).closed.prepend hop
    have hname := (TokensAlike.refl (sqlTokens_sqlString name)).separated hmiddle hvalue
    have ht := ((TokensAlike.name collection).separated hstart hname).prepend hexists
    rw [toSql_member hc, toSql_member hc, h.isInteger_eq]
    refine ⟨_, _, rfl, rfl, ?_⟩
    simp only [String.append_assoc] at ht ⊢
    exact ht

/-- The text of a row of pieces. -/
def SqlPiece.rowText (pieces : List SqlPiece) : Option String :=
  (pieces.mapM toSql).map String.join

theorem SqlPiece.rowText_append {ps qs : List SqlPiece} {x y : String} (hp : rowText ps = some x)
    (hq : rowText qs = some y) : rowText (ps ++ qs) = some (x ++ y) := by
  obtain ⟨xs, hx, rfl⟩ := Option.map_eq_some_iff.1 hp
  obtain ⟨ys, hy, rfl⟩ := Option.map_eq_some_iff.1 hq
  simp [rowText, List.mapM_append, hx, hy]

theorem SqlPiece.rowText_singleton {p : SqlPiece} {x : String} (h : p.toSql = some x) :
    rowText [p] = some x := by
  simp [rowText, h]

namespace SqlCondition

open SqlPiece

theorem textsAlike_inParentheses {ps qs : List SqlPiece}
    (h : TextsAlike S (rowText ps) (rowText qs)) :
    TextsAlike S (rowText (inParentheses ps)) (rowText (inParentheses qs)) := by
  obtain ⟨x, y, hx, hy, h⟩ := h
  have hopen : rowText [.opening] = some "(" := rowText_singleton rfl
  have hshut : rowText [.closing] = some ")" := rowText_singleton rfl
  have htext : ∀ {ps x}, rowText ps = some x →
      rowText (inParentheses ps) = some ("(" ++ (x ++ ")")) := fun h =>
    rowText_append hopen (rowText_append h hshut)
  exact ⟨_, _, htext hx, htext hy, h.closed.prepend (by decide)⟩

theorem textsAlike_operand {ps qs : List SqlPiece} (isOpen : Bool)
    (h : TextsAlike S (rowText ps) (rowText qs)) :
    TextsAlike S (rowText (if isOpen then ps else inParentheses ps))
      (rowText (if isOpen then qs else inParentheses qs)) := by
  cases isOpen with
  | true => exact h
  | false => exact textsAlike_inParentheses h

variable {collection : String} {c d : SqlCondition}

theorem Alike.isOpen_eq (h : c.Alike S collection d) :
    (∀ k, c.isOpenOnLeft k = d.isOpenOnLeft k) ∧ c.isOpenOnRight = d.isOpenOnRight := by
  cases h with
  | test h => cases h <;> exact ⟨fun _ => rfl, rfl⟩
  | combined => exact ⟨fun _ => rfl, rfl⟩

theorem Alike.textsAlike (hc : KeepsQuotes collection) (h : c.Alike S collection d) :
    TextsAlike S c.toSql d.toSql := by
  induction h with
  | test h =>
    obtain ⟨x, y, hx, hy, h⟩ := h.textsAlike hc
    exact ⟨x, y, rowText_singleton hx, rowText_singleton hy, h⟩
  | @combined k left right left' right' hl hr ihl ihr =>
    obtain ⟨x, y, hx, hy, h⟩ := textsAlike_operand (left.isOpenOnLeft k) ihl
    obtain ⟨x', y', hx', hy', h'⟩ := textsAlike_operand right.isOpenOnRight ihr
    have hk : IsSeparator (" " ++ k.symbol ++ " ") := by
      cases k <;> decide +kernel
    have hpiece := rowText_singleton (p := .connective k) rfl
    have hc := rowText_append hx (rowText_append hpiece hx')
    have hd := rowText_append hy (rowText_append hpiece hy')
    rw [hl.isOpen_eq.1 k, hr.isOpen_eq.2] at hd
    exact ⟨_, _, hc, hd, h.separated hk h'⟩

end SqlCondition

namespace Select

/-- The clause that filters, if there is a condition. -/
def whereText : Option SqlCondition → Option String
  | none => some ""
  | some c => c.toSql.map (" WHERE " ++ ·)

def orderText : Option String → String
  | none => ""
  | some column => " ORDER BY " ++ (sqlName column ++ " ASC")

def limitText : Option Nat → String
  | none => ""
  | some n => " LIMIT " ++ n.repr

theorem toSql_eq (s : Select) : s.toSql = (whereText s.condition).map fun w =>
    "SELECT * FROM " ++ (sqlName s.table ++ (w ++ (orderText s.orderBy ++ limitText s.limit))) := by
  have hw : s.toSql = (whereText s.condition).bind fun w => some ("SELECT * FROM " ++
      sqlName s.table ++ w ++ orderText s.orderBy ++ limitText s.limit) := by
    unfold toSql
    cases s.condition <;> cases s.orderBy <;> cases s.limit <;> rfl
  rw [hw]
  cases whereText s.condition with
  | none => rfl
  | some w => simp only [Option.bind_some, Option.map_some, String.append_assoc]

/-- Alike clauses, which may be left out: nothing before them runs into them. -/
def ClausesAlike (S : String → String → Prop) (x y : String) : Prop :=
  TokensAlike S x y ∧ Delimited x.toList ∧ Delimited y.toList

theorem ClausesAlike.none : ClausesAlike S "" "" :=
  ⟨.refl (by decide : sqlTokens "".toList = some []), delimited_nil, delimited_nil⟩

theorem ClausesAlike.append {x y x' y' : String} (h : ClausesAlike S x y)
    (h' : ClausesAlike S x' y') : ClausesAlike S (x ++ x') (y ++ y') := by
  obtain ⟨ht, hx, hy⟩ := h
  obtain ⟨ht', hx', hy'⟩ := h'
  refine ⟨ht.append ht' hx' hy', ?_, ?_⟩
  · rw [String.toList_append]
    exact hx.append hx'
  · rw [String.toList_append]
    exact hy.append hy'

theorem ClausesAlike.of_keyword {x y k : String} (hk : IsSeparator k) (h : TokensAlike S x y) :
    ClausesAlike S (k ++ x) (k ++ y) :=
  ⟨h.prepend hk.1, hk.delimited x, hk.delimited y⟩

theorem clausesAlike_orderText (column : Option String) :
    ClausesAlike S (orderText column) (orderText column) := by
  cases column with
  | none => exact .none
  | some column =>
    have hdir : TokensAlike S " ASC" " ASC" :=
      .refl (by decide : sqlTokens " ASC".toList = some [.word "ASC".toList])
    have hd : Delimited " ASC".toList := delimited_blank "ASC".toList
    exact .of_keyword (by decide) ((TokensAlike.name column).append hdir hd hd)

theorem clausesAlike_limitText (limit : Option Nat) :
    ClausesAlike S (limitText limit) (limitText limit) := by
  cases limit with
  | none => exact .none
  | some n => exact .of_keyword (by decide) (.refl (sqlTokens_repr n))

theorem whereText_alike {collection : String} (hc : KeepsQuotes collection)
    {c d : Option SqlCondition} (h : Option.Rel (SqlCondition.Alike S collection) c d) :
    ∃ x y, whereText c = some x ∧ whereText d = some y ∧ ClausesAlike S x y := by
  cases h with
  | none => exact ⟨_, _, rfl, rfl, .none⟩
  | some h =>
    obtain ⟨x, y, hx, hy, h⟩ := h.textsAlike hc
    refine ⟨" WHERE " ++ x, " WHERE " ++ y, ?_, ?_, .of_keyword (by decide) h⟩
    · rw [whereText, hx, Option.map_some]
    · rw [whereText, hy, Option.map_some]

theorem Alike.textsAlike {collection : String} (hc : KeepsQuotes collection) {s t : Select}
    (h : s.Alike S collection t) : TextsAlike S s.toSql t.toSql := by
  obtain ⟨x, y, hx, hy, hw⟩ := whereText_alike hc h.condition
  have hselect : EndsBetween "SELECT * FROM " := by decide
  obtain ⟨hrest, hdx, hdy⟩ := hw.append ((clausesAlike_orderText s.orderBy).append
    (clausesAlike_limitText s.limit))
  have ht := ((TokensAlike.name s.table).append hrest hdx hdy).prepend hselect
  rw [toSql_eq, toSql_eq, hx, hy, ← h.table, ← h.orderBy, ← h.limit]
  exact ⟨_, _, rfl, rfl, ht⟩

/-- A name of the collection that keeps its quotes leaves every value in its place. -/
theorem isSome_toSql_of_ofQuery {config : Config} {q : Query}
    (hc : KeepsQuotes config.collection) {s : Select}
    (h : ofQuery config q = .ok s) : s.toSql.isSome := by
  rcases ofQuery_alike config (q.alike_refl (R := Eq)) with ⟨t, u, ht, hu, htu⟩ | ⟨f, -, hf, -⟩
  · cases h.symm.trans ht
    obtain ⟨x, -, hx, -⟩ := htu.textsAlike hc
    rw [hx]
    rfl
  · cases h.symm.trans hf

/-- Strings do not change the structure of a statement. Queries that differ in strings only both
have a statement or both have a fault of one kind, and the statements have the same tokens one by
one, except for those of strings that differ. -/
theorem tokens_ofQuery_alike {R : String → String → Prop} {config : Config}
    (hc : '\\' ∉ config.collection.toList) {q r : Query} (h : q.Alike R r) :
    (∃ s t x y ts us, ofQuery config q = .ok s ∧ ofQuery config r = .ok t ∧
      s.toSql = some x ∧ t.toSql = some y ∧
      sqlTokens x.toList = some ts ∧ sqlTokens y.toList = some us ∧
      List.Forall₂ (SqlToken.Alike (InStatement R)) ts us) ∨
    ∃ f g, ofQuery config q = .error f ∧ ofQuery config r = .error g ∧ f.SameKind g := by
  rcases ofQuery_alike config h with ⟨s, t, hs, ht, hst⟩ | hf
  · obtain ⟨x, y, hx, hy, ts, us, hts, hus, htu⟩ := hst.textsAlike (keepsQuotes_of_not_mem hc)
    exact .inl ⟨s, t, x, y, ts, us, hs, ht, hx, hy, hts, hus, htu⟩
  · exact .inr hf

theorem tokens_ofQuery_alike_quote :
    let harm := "\\' OR 1=1 --"
    let q : String → Query := fun value => {
      condition := some (.node (.connective .or)
        (.node (.comparison .like) (.field "points") (.literal (.text value)))
        (.node (.comparison .ne) (.field "status") (.literal (.text value))))
      modifiers := [⟨.orderBy, .field "key"⟩, ⟨.limit, .literal (.text value)⟩] }
    '\\' ∉ ({} : Config).collection.toList ∧
      (q "x").Alike (fun s t => s = "x" ∧ t = harm) (q harm) ∧
      ∃ s t x y ts us, ofQuery {} (q "x") = .ok s ∧ ofQuery {} (q harm) = .ok t ∧
        s.toSql = some x ∧ t.toSql = some y ∧
        sqlTokens x.toList = some ts ∧ sqlTokens y.toList = some us ∧
        List.Forall₂ (SqlToken.Alike (InStatement fun s t => s = "x" ∧ t = harm)) ts us := by
  intro harm q
  have hc : '\\' ∉ ({} : Config).collection.toList := by decide
  have hv : (Literal.text "x").Alike (fun s t => s = "x" ∧ t = harm) (.text harm) :=
    .text ⟨rfl, rfl⟩
  have h : (q "x").Alike (fun s t => s = "x" ∧ t = harm) (q harm) :=
    ⟨.some (.node _ (.node _ (.field _) (.literal hv)) (.node _ (.field _) (.literal hv))),
      .cons ⟨rfl, .field _⟩ (.cons ⟨rfl, .literal hv⟩ .nil)⟩
  refine ⟨hc, h, (tokens_ofQuery_alike hc h).resolve_right ?_⟩
  rintro ⟨f, g, hf, -⟩
  have hok : (ofQuery {} (q "x")).isOk = true := by decide +kernel
  rw [hf] at hok
  cases hok

end Select

end TicketQuery
