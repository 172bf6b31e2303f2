import TicketQuery.Proofs.JsonReading
import TicketQuery.Proofs.SpelledTokens

/-! # What readers make of a value

Of the tokens of a value a reader makes what the value holds, however it was written, or refuses it.
A value that is passed over is taken whole, and nothing is asked of it. -/
namespace TicketQuery

open JsonNumber (natOf)

theorem NumberLiteral.integer?_number (n : NumberLiteral) :
    n.number.integer? = if n.fraction.isNone ∧ n.exponent.isNone then
      if n.negative then
        if 0 < natOf n.whole ∧ natOf n.whole ≤ 2 ^ 63 then some (-(natOf n.whole : ℤ)) else none
      else if natOf n.whole < 2 ^ 64 then some (natOf n.whole : ℤ) else none
    else none := by
  cases hf : n.fraction with
  | some ds =>
    have hne : ds ≠ [] := (n.isDigits_fraction ds hf).1
    simp [JsonNumber.integer?, number, hf, hne]
  | none =>
    cases he : n.exponent with
    | some e => simp [JsonNumber.integer?, number, hf, he]
    | none => simp [JsonNumber.integer?, number, hf, he]

/-- A size is an integer that is not negative. -/
theorem NumberLiteral.size?_eq_some_iff {n : NumberLiteral} {k : ℕ} :
    n.size? = some k ↔ ∃ i : ℤ, n.number.value? = some (.integer i) ∧ 0 ≤ i ∧ i.toNat = k := by
  simp only [JsonNumber.value?_eq_integer_iff, integer?_number, size?]
  by_cases h : n.fraction.isNone ∧ n.exponent.isNone
  · simp only [h.1, h.2, true_and, if_true]
    cases n.negative with
    | true =>
      refine iff_of_false nofun ?_
      rintro ⟨i, hi, hnonneg, -⟩
      obtain ⟨hwhole, hi⟩ := Option.ite_none_right_eq_some.1 hi
      cases hi
      omega
    | false =>
      simp only [true_and, Bool.false_eq_true, if_false, Option.ite_none_right_eq_some]
      constructor
      · rintro ⟨hlt, hk⟩
        cases hk
        exact ⟨_, ⟨hlt, rfl⟩, by omega, by omega⟩
      · rintro ⟨i, ⟨hlt, hi⟩, -, rfl⟩
        cases hi
        exact ⟨hlt, rfl⟩
  · rw [if_neg h, if_neg fun hall => h ⟨hall.2.1, hall.2.2.1⟩]
    exact iff_of_false nofun fun ⟨i, hi, _⟩ => nomatch hi

namespace JsonTree

def text? : JsonTree → Option String
  | leaf (.text t) => t.text?
  | _ => none

def boolean? : JsonTree → Option Bool
  | leaf (.boolean b) => some b
  | _ => none

def size? : JsonTree → Option ℕ
  | leaf (.number n) => n.size?
  | _ => none

def scalar? : JsonTree → Option JsonScalar
  | leaf l => l.scalar?
  | _ => none

end JsonTree

namespace Shows

variable {k : JsonMark} {ks ls : List JsonMark} {ts : List JsonToken}

theorem exists_append (h : Shows (ks ++ ls) ts) :
    ∃ ts₁ ts₂, ts = ts₁ ++ ts₂ ∧ Shows ks ts₁ ∧ Shows ls ts₂ := by
  induction ks generalizing ts with
  | nil => exact ⟨[], ts, rfl, .nil, h⟩
  | cons k ks ih =>
    cases h with
    | cons hk h =>
      obtain ⟨ts₁, ts₂, rfl, h₁, h₂⟩ := ih h
      exact ⟨_ :: ts₁, ts₂, rfl, .cons hk h₁, h₂⟩

theorem exists_cons (h : Shows (k :: ks) ts) :
    ∃ t us, ts = t :: us ∧ k.IsReadAs t.kind ∧ Shows ks us := by
  cases h with
  | cons hk h => exact ⟨_, _, rfl, hk, h⟩

theorem exists_singleton (h : Shows [k] ts) : ∃ t, ts = [t] ∧ k.IsReadAs t.kind := by
  obtain ⟨t, us, rfl, hk, h⟩ := h.exists_cons
  cases h
  exact ⟨t, rfl, hk⟩

end Shows

namespace JsonReader

variable {α β σ : Type}

theorem Gives.unique {p : JsonReader α} {ts us vs : List JsonToken} {a b : α}
    (ha : Gives p ts a us) (hb : Gives p ts b vs) : a = b ∧ us = vs := by
  obtain ⟨r, hr, rfl, rfl⟩ := ha
  obtain ⟨s, hs, rfl, rfl⟩ := hb
  cases hr.symm.trans hs
  exact ⟨rfl, rfl⟩

/-- Of the tokens of the value, whatever follows them, the reader makes what `R` says and nothing
else. -/
def Understands (p : JsonReader α) (x : JsonTree) (R : α → Prop) : Prop :=
  ∀ ts us, Shows x.marks ts → ∀ a vs, Gives p (ts ++ us) a vs ↔ R a ∧ vs = us

namespace Understands

variable {p : JsonReader α} {x : JsonTree} {R S : α → Prop}

theorem congr (h : Understands p x R) (hR : ∀ a, R a ↔ S a) : Understands p x S := by
  intro ts us hts a vs
  rw [h ts us hts a vs, hR]

theorem map (h : Understands p x R) (f : α → β) :
    Understands (p >>= fun a => pure (f a)) x fun b => ∃ a, R a ∧ b = f a := by
  intro ts us hts b vs
  simp only [gives_bind_iff, gives_pure_iff, h ts us hts]
  constructor
  · rintro ⟨a, ws, ⟨ha, rfl⟩, rfl, rfl⟩
    exact ⟨⟨a, ha, rfl⟩, rfl⟩
  · rintro ⟨⟨a, ha, rfl⟩, rfl⟩
    exact ⟨a, vs, ⟨ha, rfl⟩, rfl, rfl⟩

end Understands

theorem gives_colon_bind_iff {stop : ℕ} {p : JsonReader α} {t : JsonToken} {ts us : List JsonToken}
    {a : α} (ht : t.kind = .colon) :
    Gives (colon stop >>= fun _ => p) (t :: ts) a us ↔ Gives p ts a us := by
  simp only [gives_bind_iff, colon, gives_token_iff]
  constructor
  · rintro ⟨-, vs, ⟨t', hts, -⟩, h⟩
    obtain ⟨rfl, rfl⟩ := List.cons.inj hts
    exact h
  · intro h
    exact ⟨(), ts, ⟨t, rfl, by simp [ht]⟩, h⟩

section

variable {missing : JsonFault} {expected : JsonShape} {select : JsonScalar → Except JsonCause α}

theorem scalar_eq_ok_iff {l : JsonLeaf} {t : JsonToken} (h : (JsonMark.leaf l).IsReadAs t.kind)
    {a : α} : t.scalar expected select = .ok a ↔ ∃ v, l.scalar? = some v ∧ select v = .ok a := by
  obtain ⟨r, hk, -, hr⟩ := h
  have hkind : t.kind = .text r ∨ t.kind = .bare r := by
    cases l with
    | text => exact .inl hk
    | _ => exact .inr hk
  rcases hkind with hkind | hkind
  all_goals
    simp only [JsonToken.scalar, hkind, ← hr]
    cases r.value with
    | error e => simp [Except.toOption]
    | ok v => cases hs : select v <;> simp [Except.toOption, hs, JsonToken.reject]

/-- A list or an object is no scalar. -/
theorem understands_scalar (x : JsonTree) :
    Understands (token missing (JsonToken.scalar expected select)) x
      fun a => ∃ v, x.scalar? = some v ∧ select v = .ok a := by
  intro ts us hts a vs
  rw [gives_token_iff]
  cases x with
  | leaf l =>
    obtain ⟨t, rfl, ht⟩ := hts.exists_singleton
    rw [List.singleton_append]
    constructor
    · rintro ⟨t', h, ha⟩
      obtain ⟨rfl, rfl⟩ := List.cons.inj h
      exact ⟨(scalar_eq_ok_iff ht).1 ha, rfl⟩
    · rintro ⟨ha, rfl⟩
      exact ⟨t, rfl, (scalar_eq_ok_iff ht).2 ha⟩
  | list xs =>
    obtain ⟨t, ts, rfl, ht, -⟩ := hts.exists_cons
    have ht : t.kind = .beginList := ht
    refine iff_of_false ?_ ?_
    · rintro ⟨t', h, ha⟩
      obtain ⟨rfl, -⟩ := List.cons.inj h
      simp [JsonToken.scalar, ht] at ha
    · rintro ⟨⟨v, hv, -⟩, -⟩
      cases hv
  | object ms =>
    obtain ⟨t, ts, rfl, ht, -⟩ := hts.exists_cons
    have ht : t.kind = .beginObject := ht
    refine iff_of_false ?_ ?_
    · rintro ⟨t', h, ha⟩
      obtain ⟨rfl, -⟩ := List.cons.inj h
      simp [JsonToken.scalar, ht] at ha
    · rintro ⟨⟨v, hv, -⟩, -⟩
      cases hv

end

section

variable (stop : ℕ) (x : JsonTree)

theorem understands_text : Understands (text stop) x (x.text? = some ·) := by
  refine (understands_scalar x).congr fun a => ?_
  cases x with
  | leaf l =>
    cases l with
    | number n =>
      refine iff_of_false ?_ nofun
      rintro ⟨v, hv, h⟩
      rcases JsonNumber.value?_cases hv with ⟨i, rfl⟩ | ⟨x, rfl⟩ <;> cases h
    | _ => simp [JsonTree.scalar?, JsonLeaf.scalar?, JsonTree.text?]
  | _ => simp [JsonTree.scalar?, JsonTree.text?]

theorem understands_boolean : Understands (boolean stop) x (x.boolean? = some ·) := by
  refine (understands_scalar x).congr fun a => ?_
  cases x with
  | leaf l =>
    cases l with
    | number n =>
      refine iff_of_false ?_ nofun
      rintro ⟨v, hv, h⟩
      rcases JsonNumber.value?_cases hv with ⟨i, rfl⟩ | ⟨x, rfl⟩ <;> cases h
    | _ => simp [JsonTree.scalar?, JsonLeaf.scalar?, JsonTree.boolean?]
  | _ => simp [JsonTree.scalar?, JsonTree.boolean?]

theorem understands_size : Understands (size stop) x (x.size? = some ·) := by
  refine (understands_scalar x).congr fun a => ?_
  cases x with
  | leaf l =>
    cases l with
    | number n =>
      rw [JsonTree.size?, NumberLiteral.size?_eq_some_iff]
      constructor
      · rintro ⟨v, hv, h⟩
        rcases JsonNumber.value?_cases hv with ⟨i, rfl⟩ | ⟨x, rfl⟩
        · dsimp only at h
          split at h
          · next hi =>
            cases h
            exact ⟨i, hv, hi, rfl⟩
          · cases h
        · cases h
      · rintro ⟨i, hv, hi, rfl⟩
        exact ⟨_, hv, if_pos hi⟩
    | _ => simp [JsonTree.scalar?, JsonLeaf.scalar?, JsonTree.size?]
  | _ => simp [JsonTree.scalar?, JsonTree.size?]

end

/-- From behind its key, colon included, the reader makes of a member what `R` says. -/
def TakesMember (p : JsonReader α) (x : JsonTree) (R : α → Prop) : Prop :=
  ∀ c ts us, c.kind = .colon → Shows x.marks ts →
    ∀ a vs, Gives p (c :: (ts ++ us)) a vs ↔ R a ∧ vs = us

theorem Understands.takesMember {p : JsonReader α} {x : JsonTree} {R : α → Prop}
    (h : Understands p x R) (stop : ℕ) : TakesMember (colon stop >>= fun _ => p) x R := by
  intro c ts us hc hts a vs
  rw [gives_colon_bind_iff hc]
  exact h ts us hts a vs

/-- Each member takes the state further. Its key must denote a text. -/
inductive Steps (step : String → JsonTree → σ → σ → Prop) :
    σ → List (TextLiteral × JsonTree) → σ → Prop where
  | nil (s : σ) : Steps step s [] s
  | cons {s s' s'' : σ} {m : TextLiteral × JsonTree} {ms : List (TextLiteral × JsonTree)}
      {key : String} (hkey : m.1.text? = some key) (h : step key m.2 s s')
      (hs : Steps step s' ms s'') : Steps step s (m :: ms) s''

theorem key_of_isReadAs {t : TextLiteral} {k : JsonToken}
    (hk : (JsonMark.leaf (.text t)).IsReadAs k.kind) (stop : ℕ) (us : List JsonToken) :
    (∀ s, t.text? = some s → ∃ p, key stop (k :: us) = .ok p ∧ p.1 = (s, us)) ∧
      (t.text? = none → ∃ e, key stop (k :: us) = .error e) := by
  obtain ⟨r, hk, -, hr⟩ := hk
  have hk : k.kind = .text r := hk
  rw [JsonLeaf.scalar?] at hr
  simp only [key, hk]
  cases hv : r.value with
  | error e =>
    rw [hv] at hr
    have hnone : t.text? = none := Option.map_eq_none_iff.1 hr.symm
    rw [hnone]
    exact ⟨fun s hs => absurd hs.symm (Option.some_ne_none s), fun _ => ⟨e, rfl⟩⟩
  | ok v =>
    rw [hv] at hr
    obtain ⟨s, hs, rfl⟩ := Option.map_eq_some_iff.1 hr.symm
    rw [hs]
    refine ⟨fun s' hs' => ?_, fun hs' => absurd hs' (Option.some_ne_none s)⟩
    cases hs'
    exact ⟨_, rfl, rfl⟩

theorem nextKey_of_shows {first : Bool} {t : TextLiteral} {ks : List JsonToken}
    (h : Shows (JsonMark.separator first ++ [.leaf (.text t)]) ks) (stop : ℕ)
    (us : List JsonToken) :
    (∀ s, t.text? = some s →
        ∃ p, nextKey stop first (ks ++ us) = .ok (some p) ∧ p.1 = (s, us)) ∧
      (t.text? = none → ∃ e, nextKey stop first (ks ++ us) = .error e) := by
  cases first with
  | true =>
    obtain ⟨k, rfl, hk⟩ := Shows.exists_singleton h
    obtain ⟨hsome, hnone⟩ := key_of_isReadAs hk stop us
    obtain ⟨r, hk, -⟩ := hk
    have hk : k.kind = .text r := hk
    have hnext : nextKey stop true ([k] ++ us) = (key stop (k :: us)).map some := by
      simp only [List.singleton_append, nextKey, hk]
    rw [hnext]
    refine ⟨fun s hs => ?_, fun hs => ?_⟩
    · obtain ⟨p, hp, hps⟩ := hsome s hs
      exact ⟨p, by rw [hp]; rfl, hps⟩
    · obtain ⟨e, he⟩ := hnone hs
      exact ⟨e, by rw [he]; rfl⟩
  | false =>
    obtain ⟨c, ks, rfl, hc, h⟩ := Shows.exists_cons h
    obtain ⟨k, rfl, hk⟩ := Shows.exists_singleton h
    have hc : c.kind = .comma := hc
    obtain ⟨hsome, hnone⟩ := key_of_isReadAs hk stop us
    have hnext : nextKey stop false ([c, k] ++ us) =
        (key stop (k :: us)).map fun p => some ⟨p.1, Nat.lt_succ_of_lt p.2⟩ := by
      simp only [List.cons_append, List.nil_append, nextKey, hc]
    rw [hnext]
    refine ⟨fun s hs => ?_, fun hs => ?_⟩
    · obtain ⟨p, hp, hps⟩ := hsome s hs
      exact ⟨⟨p.1, Nat.lt_succ_of_lt p.2⟩, by rw [hp]; rfl, hps⟩
    · obtain ⟨e, he⟩ := hnone hs
      exact ⟨e, by rw [he]; rfl⟩

section

variable {stop : ℕ} {member : σ → String → JsonReader σ} {step : String → JsonTree → σ → σ → Prop}

theorem gives_members_iff {ms : List (TextLiteral × JsonTree)}
    (hmember : ∀ m ∈ ms, ∀ key, m.1.text? = some key →
      ∀ s, TakesMember (member s key) m.2 (step key m.2 s))
    {first : Bool} {ts us : List JsonToken} {t : JsonToken} (ht : t.kind = .endObject)
    (hts : Shows (JsonTree.memberMarks first ms) ts) {s s' : σ} {vs : List JsonToken} :
    Gives (members stop member first s) (ts ++ t :: us) s' vs ↔
      Steps step s ms s' ∧ vs = t :: us := by
  induction ms generalizing first ts s with
  | nil =>
    cases hts
    have hnext : nextKey stop first (t :: us) = .ok none := by simp [nextKey, ht]
    rw [List.nil_append, gives_members_of_none hnext]
    constructor
    · rintro ⟨rfl, rfl⟩
      exact ⟨.nil s', rfl⟩
    · rintro ⟨h, rfl⟩
      cases h
      exact ⟨rfl, rfl⟩
  | cons m ms ih =>
    obtain ⟨hm, hms⟩ := List.forall_mem_cons.1 hmember
    rw [JsonTree.memberMarks_cons] at hts
    obtain ⟨ks, ts, rfl, hks, hts⟩ := hts.exists_append
    obtain ⟨c, ts, rfl, hc, hts⟩ := hts.exists_cons
    obtain ⟨xs, ts, rfl, hxs, hts⟩ := hts.exists_append
    have hassoc : ks ++ c :: (xs ++ ts) ++ t :: us = ks ++ c :: (xs ++ (ts ++ t :: us)) := by simp
    rw [hassoc]
    obtain ⟨hsome, hnone⟩ := nextKey_of_shows hks stop (c :: (xs ++ (ts ++ t :: us)))
    cases hkey : m.1.text? with
    | none =>
      obtain ⟨e, he⟩ := hnone hkey
      refine iff_of_false ?_ ?_
      · rintro h
        obtain ⟨r, hr, -⟩ := h
        rw [members] at hr
        simp [he] at hr
      · rintro ⟨h, -⟩
        cases h with
        | cons hkey' => cases hkey.symm.trans hkey'
    | some key =>
      obtain ⟨p, hp, hps⟩ := hsome key hkey
      rw [gives_members_of_some hp, hps]
      have hstep := fun a vs => hm key hkey s c xs (ts ++ t :: us) hc hxs a vs
      simp only [hstep]
      constructor
      · rintro ⟨a, ws, ⟨ha, rfl⟩, hrest⟩
        obtain ⟨hs, rfl⟩ := (ih hms hts).1 hrest
        exact ⟨.cons hkey ha hs, rfl⟩
      · rintro ⟨h, rfl⟩
        cases h with
        | cons hkey' ha hs =>
          cases hkey.symm.trans hkey'
          exact ⟨_, _, ⟨ha, rfl⟩, (ih hms hts).2 ⟨hs, rfl⟩⟩

theorem understands_object {ms : List (TextLiteral × JsonTree)}
    (hmember : ∀ m ∈ ms, ∀ key, m.1.text? = some key →
      ∀ s, TakesMember (member s key) m.2 (step key m.2 s)) (expected : JsonShape) (s : σ) :
    Understands (object stop expected member s) (.object ms) (Steps step s ms) := by
  intro ts us hts s' vs
  obtain ⟨o, ts, rfl, ho, hrest⟩ := hts.exists_cons
  obtain ⟨ts, es, rfl, hms, hes⟩ := hrest.exists_append
  obtain ⟨e, rfl, he⟩ := hes.exists_singleton
  have ho : o.kind = .beginObject := ho
  have he : e.kind = .endObject := he
  rw [List.cons_append, List.append_assoc, List.singleton_append]
  constructor
  · intro h
    obtain ⟨_, zs, hopen, h⟩ := gives_bind_iff.1 h
    obtain ⟨o', hzs, -⟩ := gives_token_iff.1 hopen
    obtain ⟨rfl, rfl⟩ := List.cons.inj hzs
    obtain ⟨s'', ws, hmembers, h⟩ := gives_bind_iff.1 h
    obtain ⟨hsteps, rfl⟩ := (gives_members_iff hmember he hms).1 hmembers
    obtain ⟨_, xs, hclose, h⟩ := gives_bind_iff.1 h
    obtain ⟨e', hxs, -⟩ := gives_token_iff.1 hclose
    obtain ⟨rfl, rfl⟩ := List.cons.inj hxs
    obtain ⟨rfl, rfl⟩ := gives_pure_iff.1 h
    exact ⟨hsteps, rfl⟩
  · rintro ⟨hsteps, rfl⟩
    have hmembers : Gives (members stop member true s) (ts ++ e :: vs) s' (e :: vs) :=
      (gives_members_iff hmember he hms).2 ⟨hsteps, rfl⟩
    refine gives_bind_iff.2 ⟨(), _, gives_token_iff.2 ⟨o, rfl, by simp only [ho]⟩, ?_⟩
    refine gives_bind_iff.2 ⟨s', _, hmembers, gives_bind_iff.2 ⟨(), vs, ?_, ?_⟩⟩
    · exact gives_token_iff.2 ⟨e, rfl, by simp only [he]⟩
    · exact gives_pure_iff.2 ⟨rfl, rfl⟩

/-- Nothing else is taken for an object. -/
theorem understands_object_of_ne {x : JsonTree} (hx : ∀ ms, x ≠ .object ms)
    (expected : JsonShape) (s : σ) :
    Understands (object stop expected member s) x fun _ => False := by
  intro ts us hts s' vs
  refine iff_of_false ?_ fun h => h.1
  intro h
  obtain ⟨_, zs, hopen, -⟩ := gives_bind_iff.1 h
  obtain ⟨o, hzs, ho⟩ := gives_token_iff.1 hopen
  cases x with
  | leaf l =>
    obtain ⟨t, rfl, ht⟩ := hts.exists_singleton
    obtain ⟨rfl, -⟩ := List.cons.inj hzs
    split at ho
    · next hk =>
      obtain ⟨r, hr, -⟩ := ht
      rw [hk] at hr
      cases l <;> cases hr
    · obtain ⟨v, -, hv⟩ := (scalar_eq_ok_iff ht).1 ho
      cases hv
  | list xs =>
    obtain ⟨t, ts, rfl, ht, -⟩ := hts.exists_cons
    obtain ⟨rfl, -⟩ := List.cons.inj hzs
    have ht : t.kind = .beginList := ht
    simp [JsonToken.scalar, ht] at ho
  | object ms => exact hx ms rfl

end

end JsonReader

end TicketQuery
