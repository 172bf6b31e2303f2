import Mathlib.Data.List.Perm.Basic
import TicketQuery.JsonRecord
import TicketQuery.Proofs.JsonValueText

/-! # What readers make of tokens

A reader that succeeds takes tokens from the front, gives a value and leaves the other tokens. Until
then it goes by the kinds of the tokens and not by their places. -/
namespace TicketQuery.JsonReader

variable {α β σ : Type}

/-- Of the tokens `ts` the reader makes the value `a`, and `us` are left. -/
def Gives (p : JsonReader α) (ts : List JsonToken) (a : α) (us : List JsonToken) : Prop :=
  ∃ r, p ts = .ok r ∧ r.value = a ∧ r.rest = us

section

variable {p : JsonReader α} {ts us : List JsonToken} {a : α}

theorem gives_pure_iff {b : α} : Gives (pure b : JsonReader α) ts a us ↔ a = b ∧ us = ts := by
  constructor
  · rintro ⟨r, hr, rfl, rfl⟩
    cases hr
    exact ⟨rfl, rfl⟩
  · rintro ⟨rfl, rfl⟩
    exact ⟨_, rfl, rfl, rfl⟩

theorem gives_bind_iff {f : α → JsonReader β} {b : β} :
    Gives (p >>= f) ts b us ↔ ∃ a vs, Gives p ts a vs ∧ Gives (f a) vs b us := by
  have hbind : (p >>= f) ts = JsonReader.bind p f ts := rfl
  constructor
  · rintro ⟨q, hq, rfl, rfl⟩
    rw [hbind, JsonReader.bind] at hq
    split at hq
    · cases hq
    · next r hr =>
      split at hq
      · cases hq
      · next s hs =>
        cases hq
        exact ⟨r.value, r.rest, ⟨r, hr, rfl, rfl⟩, ⟨s, hs, rfl, rfl⟩⟩
  · rintro ⟨-, -, ⟨r, hr, rfl, rfl⟩, ⟨s, hs, rfl, rfl⟩⟩
    refine ⟨⟨s.value, s.rest, Nat.le_trans s.length_rest_le r.length_rest_le⟩, ?_, rfl, rfl⟩
    simp only [hbind, JsonReader.bind, hr, hs]

theorem gives_token_iff {missing : JsonFault} {f : JsonToken → Except JsonFault α} :
    Gives (token missing f) ts a us ↔ ∃ t, ts = t :: us ∧ f t = .ok a := by
  cases ts with
  | nil =>
    constructor
    · rintro ⟨r, hr, -⟩
      cases hr
    · rintro ⟨t, ht, -⟩
      cases ht
  | cons t ts =>
    constructor
    · rintro ⟨r, hr, rfl, rfl⟩
      cases hf : f t with
      | error e => simp [token, hf, Except.map] at hr
      | ok a =>
        simp only [token, hf, Except.map] at hr
        cases hr
        exact ⟨t, rfl, hf⟩
    · rintro ⟨t', ht, hf⟩
      obtain ⟨rfl, rfl⟩ := List.cons.inj ht
      exact ⟨⟨a, ts, Nat.le_succ _⟩, by simp [token, hf, Except.map], rfl, rfl⟩

end

theorem Gives.length_le {p : JsonReader α} {ts us : List JsonToken} {a : α}
    (h : Gives p ts a us) : us.length ≤ ts.length := by
  obtain ⟨r, -, -, rfl⟩ := h
  exact r.length_rest_le

section

variable {stop : Nat} {member : σ → String → JsonReader σ} {first : Bool} {s s' : σ}
  {ts us : List JsonToken}

theorem gives_members_of_none (h : nextKey stop first ts = .ok none) :
    Gives (members stop member first s) ts s' us ↔ s' = s ∧ us = ts := by
  have hm : members stop member first s ts = .ok ⟨s, ts, Nat.le_refl _⟩ := by
    rw [members]
    simp only [h]
  constructor
  · rintro ⟨r, hr, rfl, rfl⟩
    cases hm.symm.trans hr
    exact ⟨rfl, rfl⟩
  · rintro ⟨rfl, rfl⟩
    exact ⟨_, hm, rfl, rfl⟩

theorem gives_members_of_some
    {p : { p : String × List JsonToken // p.2.length < ts.length }}
    (h : nextKey stop first ts = .ok (some p)) :
    Gives (members stop member first s) ts s' us ↔
      ∃ m vs, Gives (member s p.1.1) p.1.2 m vs ∧ Gives (members stop member false m) vs s' us := by
  constructor
  · rintro ⟨q, hq, rfl, rfl⟩
    rw [members] at hq
    simp only [h] at hq
    split at hq
    · cases hq
    · next m hm =>
      split at hq
      · cases hq
      · next r hr =>
        cases hq
        exact ⟨m.value, m.rest, ⟨m, hm, rfl, rfl⟩, ⟨r, hr, rfl, rfl⟩⟩
  · rintro ⟨-, -, ⟨m, hm, rfl, rfl⟩, ⟨r, hr, rfl, rfl⟩⟩
    rw [Gives, members]
    simp only [h, hm, hr]
    exact ⟨_, rfl, rfl, rfl⟩

theorem gives_members_cases (h : Gives (members stop member first s) ts s' us) :
    (s' = s ∧ us = ts) ∨
      ∃ p : { p : String × List JsonToken // p.2.length < ts.length },
        nextKey stop first ts = .ok (some p) ∧ ∃ m vs, Gives (member s p.1.1) p.1.2 m vs ∧
          Gives (members stop member false m) vs s' us := by
  cases hkey : nextKey stop first ts with
  | error e =>
    obtain ⟨r, hr, -⟩ := h
    rw [members] at hr
    simp [hkey] at hr
  | ok o =>
    cases o with
    | none => exact .inl ((gives_members_of_none hkey).1 h)
    | some p => exact .inr ⟨p, rfl, (gives_members_of_some hkey).1 h⟩

end

/-- The reader makes the value of tokens of these kinds, whatever follows them. -/
def Reads (p : JsonReader α) (ks : List JsonTokenKind) (a : α) : Prop :=
  ∀ ts us : List JsonToken, ts.map JsonToken.kind = ks → Gives p (ts ++ us) a us

namespace Reads

variable {p : JsonReader α} {a : α} {ks ls : List JsonTokenKind}

theorem pure (a : α) : Reads (Pure.pure a : JsonReader α) [] a := by
  intro ts us hts
  obtain rfl := List.map_eq_nil_iff.1 hts
  exact gives_pure_iff.2 ⟨rfl, rfl⟩

theorem bind (hp : Reads p ks a) {f : α → JsonReader β} {b : β} (hf : Reads (f a) ls b) :
    Reads (p >>= f) (ks ++ ls) b := by
  intro ts us hts
  obtain ⟨ts₁, ts₂, rfl, h₁, h₂⟩ := List.map_eq_append_iff.1 hts
  rw [List.append_assoc]
  exact gives_bind_iff.2 ⟨a, ts₂ ++ us, hp ts₁ (ts₂ ++ us) h₁, hf ts₂ us h₂⟩

theorem map (hp : Reads p ks a) (f : α → β) :
    Reads (p >>= fun a => Pure.pure (f a)) ks (f a) := by
  have h := hp.bind (f := fun a => Pure.pure (f a)) (.pure (f a))
  rwa [List.append_nil] at h

theorem token {missing : JsonFault} {f : JsonToken → Except JsonFault α} {k : JsonTokenKind}
    (h : ∀ t, t.kind = k → f t = .ok a) : Reads (JsonReader.token missing f) [k] a := by
  intro ts us hts
  obtain ⟨t, ts', rfl, ht, hts'⟩ := List.map_eq_cons_iff.1 hts
  obtain rfl := List.map_eq_nil_iff.1 hts'
  exact gives_token_iff.2 ⟨t, rfl, h t ht⟩

end Reads

section

variable (stop : Nat)

theorem reads_text (s : String) : Reads (text stop) (JsonValue.text s).kinds s :=
  .token fun t ht => by simp [JsonToken.scalar, ht]

theorem reads_boolean (b : Bool) : Reads (boolean stop) (JsonValue.boolean b).kinds b :=
  .token fun t ht => by simp [JsonToken.scalar, ht]

theorem reads_size (n : Nat) : Reads (size stop) (JsonValue.integer n).kinds n :=
  .token fun t ht => by simp [JsonToken.scalar, ht]

theorem reads_colon : Reads (colon stop) [.colon] () := .token fun t ht => by simp [ht]

theorem reads_endOfObject : Reads (endOfObject stop) [.endObject] () :=
  .token fun t ht => by simp [ht]

end

/-- Each member takes the reader from one state to the next. -/
inductive ReadsMembers (member : σ → String → JsonReader σ) :
    σ → List (String × JsonValue) → σ → Prop where
  | nil (s : σ) : ReadsMembers member s [] s
  | cons {s s' s'' : σ} {key : String} {v : JsonValue} {ms : List (String × JsonValue)}
      (h : Reads (member s key) (.colon :: v.kinds) s') (hs : ReadsMembers member s' ms s'') :
      ReadsMembers member s ((key, v) :: ms) s''

/-- The members of an object one after the other, with a comma before each but the first. -/
def rowKinds (first : Bool) : List (List JsonTokenKind) → List JsonTokenKind
  | [] => []
  | ks :: kss => (if first then ks else .comma :: ks) ++ rowKinds false kss

theorem rowKinds_true (kss : List (List JsonTokenKind)) :
    rowKinds true kss = [.comma].intercalate kss := by
  have hfalse : ∀ ks kss, rowKinds false (ks :: kss) = .comma :: rowKinds true (ks :: kss) :=
    fun _ _ => rfl
  induction kss with
  | nil => rfl
  | cons ks kss ih =>
    cases kss with
    | nil => simp [rowKinds]
    | cons ls kss =>
      rw [List.intercalate_cons_cons, ← ih, rowKinds, hfalse, List.append_assoc]
      rfl

section

variable {stop : Nat} {member : σ → String → JsonReader σ}

/-- The key of a member is taken, with the comma before it. -/
theorem exists_nextKey {first : Bool} {key : String} {ks : List JsonTokenKind} {ts : List JsonToken}
    (hts : ts.map JsonToken.kind = (if first then .text ⟨.ok (.text key), .ok ()⟩ :: ks
      else .comma :: .text ⟨.ok (.text key), .ok ()⟩ :: ks)) (us : List JsonToken) :
    ∃ p vs, nextKey stop first (ts ++ us) = .ok (some p) ∧ p.1 = (key, vs ++ us) ∧
      vs.map JsonToken.kind = ks := by
  cases first with
  | true =>
    obtain ⟨t, vs, rfl, ht, hvs⟩ := List.map_eq_cons_iff.1 hts
    refine ⟨⟨(key, vs ++ us), Nat.lt_succ_self _⟩, vs, ?_, rfl, hvs⟩
    simp [nextKey, JsonReader.key, ht, Except.map]
  | false =>
    obtain ⟨c, vs', rfl, hc, hvs'⟩ := List.map_eq_cons_iff.1 hts
    obtain ⟨t, vs, rfl, ht, hvs⟩ := List.map_eq_cons_iff.1 hvs'
    refine ⟨⟨(key, vs ++ us), Nat.lt_succ_of_lt (Nat.lt_succ_self _)⟩, vs, ?_, rfl, hvs⟩
    simp [nextKey, JsonReader.key, hc, ht, Except.map]

theorem ReadsMembers.gives_members {s s' : σ} {ms : List (String × JsonValue)}
    (h : ReadsMembers member s ms s') {first : Bool} {ts us : List JsonToken} {t : JsonToken}
    (ht : t.kind = .endObject)
    (hts : ts.map JsonToken.kind = rowKinds first (JsonValue.memberKinds ms)) :
    Gives (members stop member first s) (ts ++ t :: us) s' (t :: us) := by
  induction h generalizing first ts with
  | nil s =>
    obtain rfl := List.map_eq_nil_iff.1 hts
    refine (gives_members_of_none ?_).2 ⟨rfl, rfl⟩
    simp [nextKey, ht]
  | @cons s s' s'' key v ms h hs ih =>
    obtain ⟨xs, ys, rfl, hxs, hys⟩ := List.map_eq_append_iff.1 hts
    obtain ⟨p, vs, hp, hpv, hvs⟩ := @exists_nextKey stop first _ _ _ hxs (ys ++ t :: us)
    have hmember := h vs (ys ++ t :: us) hvs
    rw [List.append_assoc]
    refine (gives_members_of_some hp).2 ⟨s', ys ++ t :: us, ?_, ih hys⟩
    rw [hpv]
    exact hmember

theorem ReadsMembers.reads_object {s s' : σ} {ms : List (String × JsonValue)}
    (h : ReadsMembers member s ms s') (stop : Nat) (expected : JsonShape) :
    Reads (object stop expected member s) (JsonValue.object ms).kinds s' := by
  rw [JsonValue.kinds, ← List.singleton_append]
  refine Reads.bind (a := ()) (.token fun t ht => by simp [ht]) ?_
  intro ts us hts
  rw [← rowKinds_true] at hts
  obtain ⟨xs, ys, rfl, hxs, hys⟩ := List.map_eq_append_iff.1 hts
  obtain ⟨t, zs, rfl, ht, hzs⟩ := List.map_eq_cons_iff.1 hys
  obtain rfl := List.map_eq_nil_iff.1 hzs
  rw [List.append_assoc]
  refine gives_bind_iff.2 ⟨s', t :: us, h.gives_members ht hxs, ?_⟩
  exact (reads_endOfObject stop).bind (.pure s') [t] us (by simp [ht])

end

/-- A setting that is given with a value, and what it sets. -/
structure GivenSetting (stop : Nat) (settings : List (JsonSetting α)) where
  key : String
  value : JsonValue
  set : α → α
  isRead : ∃ s, settings.find? (fun s => s.key = key) = some s ∧
    ∀ a, Reads (s.read a) value.kinds (set a)

namespace GivenSetting

variable {stop : Nat} {settings : List (JsonSetting α)}

def member (g : GivenSetting stop settings) : String × JsonValue := (g.key, g.value)

theorem reads_recordMember (g : GivenSetting stop settings) {d : JsonDraft α}
    (hd : g.key ∉ d.given) : Reads (recordMember stop settings d g.key) (.colon :: g.value.kinds)
      ⟨g.set d.record, g.key :: d.given⟩ := by
  obtain ⟨s, hs, hread⟩ := g.isRead
  simp only [recordMember, hs, if_neg hd]
  exact (reads_colon stop).bind ((hread d.record).map fun a => JsonDraft.mk a (g.key :: d.given))

/-- Settings with different keys are all read. -/
theorem exists_readsMembers (gs : List (GivenSetting stop settings))
    (hkeys : (gs.map key).Nodup) (d : JsonDraft α) (hd : ∀ g ∈ gs, g.key ∉ d.given) :
    ∃ given, ReadsMembers (recordMember stop settings) d (gs.map member)
      ⟨gs.foldl (fun a g => g.set a) d.record, given⟩ := by
  induction gs generalizing d with
  | nil => exact ⟨d.given, .nil d⟩
  | cons g gs ih =>
    obtain ⟨hg, hgs⟩ := List.nodup_cons.1 hkeys
    obtain ⟨hdg, hdgs⟩ := List.forall_mem_cons.1 hd
    obtain ⟨given, h⟩ := ih hgs ⟨g.set d.record, g.key :: d.given⟩ (by
      intro k hk hm
      rcases List.mem_cons.1 hm with he | hm
      · exact hg (he ▸ List.mem_map_of_mem hk)
      · exact hdgs k hk hm)
    exact ⟨given, .cons (g.reads_recordMember hdg) h⟩

theorem reads_record (gs : List (GivenSetting stop settings)) (hkeys : (gs.map key).Nodup)
    (expected : JsonShape) (a : α) :
    Reads (record stop expected settings a) (JsonValue.object (gs.map member)).kinds
      (gs.foldl (fun a g => g.set a) a) := by
  obtain ⟨given, h⟩ := exists_readsMembers gs hkeys ⟨a, []⟩ (by simp)
  have hobject := (h.reads_object stop expected).map JsonDraft.record
  intro ts us hts
  obtain ⟨t, ts', rfl, ht, -⟩ := List.map_eq_cons_iff.1 hts
  obtain ⟨r, hr, hvalue, hrest⟩ := hobject (t :: ts') us hts
  have hrecord : record stop expected settings a (t :: ts' ++ us) =
      recordObject stop expected settings a (t :: ts' ++ us) := by
    simp [record, ht]
  exact ⟨r, hrecord.trans hr, hvalue, hrest⟩

/-- The order in which settings are given does not matter if they do not touch each other. -/
theorem reads_record_of_perm {gs : List (GivenSetting stop settings)} (hkeys : (gs.map key).Nodup)
    (hset : ∀ g ∈ gs, ∀ k ∈ gs, ∀ a, k.set (g.set a) = g.set (k.set a))
    {ms : List (String × JsonValue)} (hms : ms.Perm (gs.map member)) (expected : JsonShape)
    (a : α) :
    Reads (record stop expected settings a) (JsonValue.object ms).kinds
      (gs.foldl (fun a g => g.set a) a) := by
  obtain ⟨ks, rfl, hks⟩ : ∃ ks : List (GivenSetting stop settings),
      ms = ks.map member ∧ ks.Perm gs := by
    have hself : List.Forall₂ (fun m g => m = member g) (gs.map member) gs :=
      List.forall₂_map_left_iff.2 (List.forall₂_same.2 fun _ _ => rfl)
    obtain ⟨ks, hms, hks⟩ := List.perm_comp_forall₂ hms hself
    refine ⟨ks, ?_, hks⟩
    rwa [← List.forall₂_eq_eq_eq, List.forall₂_map_right_iff]
  have hfold := hks.symm.foldl_eq' (f := fun a g => g.set a) (fun g hg k hk a => hset g hg k hk a) a
  rw [hfold]
  exact reads_record ks ((hks.map key).nodup_iff.2 hkeys) expected a

end GivenSetting

end TicketQuery.JsonReader
