import TicketQuery.Proofs.JsonReading

/-! # What holds of the values that readers give

The integers of a text are ones of 64 bits. What the parts of a value satisfy is carried on to the
whole, whatever the text looks like. -/
namespace TicketQuery

/-- The scalar at a token, if there is one. -/
def JsonTokenKind.scalar? : JsonTokenKind → Option JsonScalar
  | text reading | bare reading => reading.value.toOption
  | _ => none

/-- An integer at the token is one of 64 bits. -/
def JsonToken.Fits (t : JsonToken) : Prop := ∀ n, t.kind.scalar? = some (.integer n) → n < 2 ^ 64

theorem JsonNumber.lt_of_value? {m : JsonNumber} {n : Int} (h : m.value? = some (.integer n)) :
    n < 2 ^ 64 := by
  have hi := value?_eq_integer_iff.1 h
  unfold integer? at hi
  split at hi
  · cases hi
  · split at hi
    · split at hi
      · cases hi
        omega
      · cases hi
    · split at hi
      · next hlt =>
        cases hi
        rw [Nat.pow_eq] at hlt
        omega
      · cases hi

namespace JsonLexeme

theorem fits_text (index : Nat) (cs : List Char) : (text index cs).token.Fits := by
  have hvalue : ∀ n, ((JsonText.decode (index + 1) cs).map fun d =>
      JsonScalar.text (String.ofList d.1)).toOption ≠ some (.integer n) := by
    intro n
    cases JsonText.decode (index + 1) cs <;> nofun
  intro n hn
  unfold text at hn
  split at hn <;> exact absurd hn (hvalue n)

theorem fits_word {v : JsonScalar} (hv : ∀ n, v ≠ .integer n) (letters : List Char) (index : Nat)
    (cs : List Char) : (word v letters index cs).token.Fits := by
  intro n hn
  unfold word at hn
  split at hn
  · exact absurd (Option.some.inj hn) (hv n)
  · cases hn

theorem fits_number (index : Nat) (c : Char) (cs : List Char) :
    (number index c cs).token.Fits := by
  intro n hn
  unfold number at hn
  split at hn
  · cases hn
  · next m rest hm =>
    cases hv : m.value? with
    | none => simp [hv, JsonTokenKind.scalar?, Except.toOption] at hn
    | some v =>
      simp only [hv, JsonTokenKind.scalar?, Except.toOption, Option.some.injEq] at hn
      exact JsonNumber.lt_of_value? (hn ▸ hv)

theorem fits_read (index : Nat) (c : Char) (cs : List Char) : (read index c cs).token.Fits := by
  unfold read
  split
  case h_7 => exact fits_text index cs
  case h_8 => exact fits_word (by simp) _ _ _
  case h_9 => exact fits_word (by simp) _ _ _
  case h_10 => exact fits_word (by simp) _ _ _
  case h_11 =>
    split
    · exact fits_number index _ cs
    · nofun
  all_goals nofun

end JsonLexeme

theorem fits_of_mem_jsonTokens {index : Nat} {cs : List Char} {t : JsonToken}
    (h : t ∈ jsonTokens index cs) : t.Fits := by
  fun_induction jsonTokens index cs with
  | case1 => cases h
  | case2 index c cs hc ih => exact ih h
  | case3 index c cs hc x hx =>
    obtain rfl := List.mem_singleton.1 h
    exact JsonLexeme.fits_read index c cs
  | case4 index c cs hc x p hx ih =>
    rcases List.mem_cons.1 h with rfl | h
    · exact JsonLexeme.fits_read index c cs
    · exact ih h

namespace JsonReader

variable {α β σ : Type}

/-- Whatever the reader makes of tokens has the property. -/
def Ensures (p : JsonReader α) (P : α → Prop) : Prop :=
  ∀ ts a us, Gives p ts a us → (∀ t ∈ ts, t.Fits) → P a ∧ ∀ t ∈ us, t.Fits

namespace Ensures

variable {p : JsonReader α} {P : α → Prop} {Q : β → Prop}

theorem pure {a : α} (h : P a) : Ensures (Pure.pure a : JsonReader α) P := by
  intro ts b us hb hts
  obtain ⟨rfl, rfl⟩ := gives_pure_iff.1 hb
  exact ⟨h, hts⟩

theorem bind (hp : Ensures p P) {f : α → JsonReader β} (hf : ∀ a, P a → Ensures (f a) Q) :
    Ensures (p >>= f) Q := by
  intro ts b us hb hts
  obtain ⟨a, vs, ha, hb⟩ := gives_bind_iff.1 hb
  obtain ⟨hPa, hvs⟩ := hp ts a vs ha hts
  exact hf a hPa vs b us hb hvs

theorem token {missing : JsonFault} {f : JsonToken → Except JsonFault α}
    (h : ∀ t a, t.Fits → f t = .ok a → P a) : Ensures (JsonReader.token missing f) P := by
  intro ts a us ha hts
  obtain ⟨t, rfl, ht⟩ := gives_token_iff.1 ha
  obtain ⟨htFits, husFits⟩ := List.forall_mem_cons.1 hts
  exact ⟨h t a htFits ht, husFits⟩

/-- A reader that only takes tokens from the front. -/
theorem of_suffix (h : ∀ ts r, p ts = .ok r → r.rest <:+ ts) : Ensures p fun _ => True := by
  rintro ts a us ⟨r, hr, rfl, rfl⟩ hts
  exact ⟨trivial, fun t ht => hts t ((h ts r hr).subset ht)⟩

end Ensures

variable {stop : Nat}

theorem skipFrom_cons (s : SkipState) (brackets : List JsonBracket) (t : JsonToken)
    (ts : List JsonToken) : skipFrom stop s brackets (t :: ts) =
      if s = .after ∧ brackets = [] then .ok ⟨(), t :: ts, Nat.le_refl _⟩
      else match s.step brackets t with
        | .error e => .error e
        | .ok (s, brackets) => match skipFrom stop s brackets ts with
          | .error e => .error e
          | .ok r => .ok ⟨(), r.rest, Nat.le_succ_of_le r.length_rest_le⟩ := rfl

theorem suffix_of_skipFrom {s : SkipState} {brackets : List JsonBracket} {ts : List JsonToken}
    {r : JsonRead Unit ts} (h : skipFrom stop s brackets ts = .ok r) : r.rest <:+ ts := by
  induction ts generalizing s brackets with
  | nil => exact List.suffix_nil.2 (List.length_eq_zero_iff.1 (Nat.le_zero.1 r.length_rest_le))
  | cons t ts ih =>
    rw [skipFrom_cons] at h
    split at h
    · cases h
      exact List.suffix_refl _
    · split at h
      · cases h
      · split at h
        · cases h
        · next r' hr' =>
          cases h
          exact (ih hr').trans (List.suffix_cons t ts)

theorem ensures_skip : Ensures (skip stop) fun _ => True :=
  .of_suffix fun _ _ hr => suffix_of_skipFrom hr

theorem ensures_hasElement (first : Bool) : Ensures (hasElement stop first) fun _ => True := by
  refine .of_suffix fun ts r hr => ?_
  unfold hasElement at hr
  split at hr
  · cases hr
  · split at hr
    · cases hr
      exact List.suffix_refl _
    · cases hr
      exact List.suffix_refl _
    · split at hr
      · cases hr
      · split at hr
        · cases hr
        · cases hr
          exact List.suffix_cons _ _
    · cases hr

theorem ensures_endOfList : Ensures (endOfList stop) fun _ => True := by
  refine .of_suffix fun ts r hr => ?_
  unfold endOfList at hr
  split at hr
  · cases hr
  · split at hr
    · cases hr
      exact List.suffix_cons _ _
    · split at hr
      · cases hr
      · split at hr <;> cases hr
    · cases hr

theorem ensures_colon : Ensures (colon stop) fun _ => True := .token fun _ _ _ _ => trivial

theorem ensures_duplicate (key : String) (P : α → Prop) : Ensures (duplicate stop key) P := by
  rintro ts a us ⟨r, hr, -⟩
  unfold duplicate at hr
  split at hr
  · cases hr
  · split at hr <;> cases hr

theorem exists_scalar? {t : JsonToken} {expected : JsonShape}
    {select : JsonScalar → Except JsonCause α} {a : α} (h : t.scalar expected select = .ok a) :
    ∃ v, t.kind.scalar? = some v ∧ select v = .ok a := by
  cases hk : t.kind with
  | text reading | bare reading =>
    cases hv : reading.value with
    | error e => simp [JsonToken.scalar, hk, hv] at h
    | ok v =>
      cases hs : select v with
      | error cause => simp [JsonToken.scalar, hk, hv, hs, JsonToken.reject] at h
      | ok b =>
        simp only [JsonToken.scalar, hk, hv, hs] at h
        cases h
        exact ⟨v, by simp [JsonTokenKind.scalar?, hv, Except.toOption], hs⟩
  | _ => simp [JsonToken.scalar, hk, JsonToken.refuse] at h

theorem ensures_size : Ensures (size stop) fun n => n < 2 ^ 64 := by
  refine .token fun t n ht hn => ?_
  obtain ⟨v, hv, hn⟩ := exists_scalar? hn
  cases v with
  | integer i =>
    simp only at hn
    split at hn
    · cases hn
      have := ht i hv
      omega
    · cases hn
  | null | boolean | real | text => cases hn

theorem suffix_of_key {ts : List JsonToken}
    {p : { p : String × List JsonToken // p.2.length < ts.length }}
    (h : JsonReader.key stop ts = .ok p) : p.1.2 <:+ ts := by
  unfold JsonReader.key at h
  split at h
  · cases h
  · split at h
    · split at h
      · cases h
      · cases h
        exact List.suffix_cons _ _
      · cases h
    · cases h
    · cases h

theorem exists_of_map_eq_ok {ε : Type} {x : Except ε α} {f : α → β} {b : β}
    (h : x.map f = .ok b) : ∃ a, x = .ok a ∧ f a = b := by
  cases x with
  | error e => cases h
  | ok a => exact ⟨a, rfl, Except.ok.inj h⟩

theorem suffix_of_nextKey {first : Bool} {ts : List JsonToken}
    {p : { p : String × List JsonToken // p.2.length < ts.length }}
    (h : nextKey stop first ts = .ok (some p)) : p.1.2 <:+ ts := by
  unfold nextKey at h
  split at h
  · cases h
  · split at h
    · cases h
    · obtain ⟨q, hq, he⟩ := exists_of_map_eq_ok h
      cases he
      exact suffix_of_key hq
    · obtain ⟨q, hq, he⟩ := exists_of_map_eq_ok h
      cases he
      exact (suffix_of_key hq).trans (List.suffix_cons _ _)
    · cases h

variable {P : σ → Prop} {member : σ → String → JsonReader σ}

theorem ensures_members (h : ∀ s key, P s → Ensures (member s key) P) (first : Bool) {s : σ}
    (hs : P s) : Ensures (members stop member first s) P := by
  intro ts s' us hs' hts
  induction hn : ts.length using Nat.strongRecOn generalizing ts s first with
  | ind n ih =>
    rcases gives_members_cases hs' with ⟨rfl, rfl⟩ | ⟨p, hp, m, vs, hm, hmore⟩
    · exact ⟨hs, hts⟩
    · have hrest : ∀ t ∈ p.1.2, t.Fits := fun t ht => hts t ((suffix_of_nextKey hp).subset ht)
      obtain ⟨hPm, hvs⟩ := h s p.1.1 hs _ _ _ hm hrest
      have hlt : vs.length < n := hn ▸ Nat.lt_of_le_of_lt hm.length_le p.2
      exact ih vs.length hlt false hPm vs hmore hvs rfl

theorem ensures_object (h : ∀ s key, P s → Ensures (member s key) P) (expected : JsonShape) {s : σ}
    (hs : P s) : Ensures (object stop expected member s) P := by
  refine Ensures.bind (P := fun _ => True) (.token fun _ _ _ _ => trivial) fun _ _ => ?_
  refine (ensures_members h true hs).bind fun s hs => ?_
  refine Ensures.bind (P := fun _ => True) (.token fun _ _ _ _ => trivial) fun _ _ => ?_
  exact .pure hs

section

variable {Q : α → Prop} {settings : List (JsonSetting α)}

theorem ensures_recordMember (h : ∀ s ∈ settings, ∀ a, Q a → Ensures (s.read a) Q)
    (d : JsonDraft α) (key : String) (hd : Q d.record) :
    Ensures (recordMember stop settings d key) fun d => Q d.record := by
  unfold recordMember
  split
  · exact ensures_colon.bind fun _ _ => ensures_skip.bind fun _ _ => .pure hd
  · next s hs =>
    split
    · exact ensures_duplicate key _
    · have hread := h s (List.mem_of_find?_eq_some hs) d.record hd
      exact ensures_colon.bind fun _ _ => hread.bind fun a ha => .pure ha

theorem ensures_recordItems (h : ∀ s ∈ settings, ∀ a, Q a → Ensures (s.read a) Q) (first : Bool)
    {a : α} (ha : Q a) : Ensures (recordItems stop settings first a) Q := by
  induction settings generalizing first a with
  | nil => exact .pure ha
  | cons s settings ih =>
    obtain ⟨hs, hsettings⟩ := List.forall_mem_cons.1 h
    refine (ensures_hasElement first).bind fun more _ => ?_
    cases more with
    | true => exact (hs a ha).bind fun a ha => ih hsettings false ha
    | false => exact .pure ha

/-- A record has the property if it has it at first and no setting takes it away. -/
theorem ensures_record (h : ∀ s ∈ settings, ∀ a, Q a → Ensures (s.read a) Q)
    (expected : JsonShape) {a : α} (ha : Q a) : Ensures (record stop expected settings a) Q := by
  have hlist : Ensures (recordList stop settings a) Q :=
    (ensures_recordItems h true ha).bind fun a ha => ensures_endOfList.bind fun _ _ => .pure ha
  have hobject : Ensures (recordObject stop expected settings a) Q :=
    (ensures_object (ensures_recordMember h) expected ha).bind fun d hd => .pure hd
  rintro ts b us ⟨r, hr, rfl, rfl⟩ hts
  unfold record at hr
  split at hr
  · cases hr
  · next t ts =>
    split at hr
    · split at hr
      · cases hr
      · next q hq =>
        cases hr
        exact hlist ts q.value q.rest ⟨q, hq, rfl, rfl⟩ (List.forall_mem_cons.1 hts).2
    · exact hobject (t :: ts) r.value r.rest ⟨r, hr, rfl, rfl⟩ hts

end

end JsonReader

end TicketQuery
