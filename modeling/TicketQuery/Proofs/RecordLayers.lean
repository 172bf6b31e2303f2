import TicketQuery.Proofs.SkippedValues

/-! # Records that are read from objects

Each member with the key of a field says what the field is, and a field without a member stays what
it was. Other members are passed over. So neither their order nor they themselves matter. -/
namespace TicketQuery

abbrev JsonMember : Type := TextLiteral × JsonTree

def withKey (key : String) (ms : List JsonMember) : List JsonMember :=
  ms.filter fun m => m.1.text? = some key

/-- The value of the last member with the key. -/
def lastValue? (key : String) (ms : List JsonMember) : Option JsonTree :=
  (withKey key ms).getLast?.map Prod.snd

section

variable {key : String} {m : JsonMember} {ms ms' : List JsonMember}

theorem withKey_append (key : String) (ms ms' : List JsonMember) :
    withKey key (ms ++ ms') = withKey key ms ++ withKey key ms' := List.filter_append ..

theorem withKey_cons_of_eq (h : m.1.text? = some key) (ms : List JsonMember) :
    withKey key (m :: ms) = m :: withKey key ms := List.filter_cons_of_pos (by simpa using h)

theorem withKey_cons_of_ne (h : m.1.text? ≠ some key) (ms : List JsonMember) :
    withKey key (m :: ms) = withKey key ms := List.filter_cons_of_neg (by simpa using h)

theorem withKey_eq_nil (h : ∀ m ∈ ms, m.1.text? ≠ some key) : withKey key ms = [] :=
  List.filter_eq_nil_iff.2 fun m hm => by simpa using h m hm

theorem lastValue?_of_withKey_eq (h : withKey key ms = withKey key ms') :
    lastValue? key ms = lastValue? key ms' := by rw [lastValue?, lastValue?, h]

theorem exists_mem_of_lastValue? {x : JsonTree} (h : lastValue? key ms = some x) :
    ∃ m ∈ ms, m.1.text? = some key ∧ m.2 = x := by
  obtain ⟨m, hm, hx⟩ := Option.map_eq_some_iff.1 h
  obtain ⟨hm, hkey⟩ := List.mem_filter.1 (List.mem_of_getLast? hm)
  exact ⟨m, hm, by simpa using hkey, hx⟩

theorem lastValue?_append (key : String) (ms ms' : List JsonMember) :
    lastValue? key (ms ++ ms') = (lastValue? key ms').or (lastValue? key ms) := by
  rw [lastValue?, withKey_append, List.getLast?_append, Option.map_or]
  rfl

theorem lastValue?_cons (m : JsonMember) (ms : List JsonMember) : lastValue? key (m :: ms) =
    (lastValue? key ms).or (if m.1.text? = some key then some m.2 else none) := by
  by_cases h : m.1.text? = some key
  · rw [lastValue?, withKey_cons_of_eq h, List.getLast?_cons, if_pos h, lastValue?]
    cases (withKey key ms).getLast? <;> rfl
  · rw [lastValue?, withKey_cons_of_ne h, if_neg h, Option.or_none, lastValue?]

end

structure RecordField (α : Type) where
  key : String
  Value : Type
  get : α → Value
  set : Value → α → α
  /-- What is written can be read as the value. -/
  Means : JsonTree → Value → Prop

/-- The fields have different keys, do not share anything and are all that there is. -/
structure AreFields {α : Type} (fields : List (RecordField α)) : Prop where
  key_inj : ∀ f ∈ fields, ∀ g ∈ fields, f.key = g.key → f = g
  get_set : ∀ f ∈ fields, ∀ v a, f.get (f.set v a) = v
  get_set_of_ne : ∀ f ∈ fields, ∀ g ∈ fields, f.key ≠ g.key → ∀ v a, g.get (f.set v a) = g.get a
  ext : ∀ a b, (∀ f ∈ fields, f.get a = f.get b) → a = b

namespace RecordField

variable {α : Type}

/-- The value that the field has if the members are layered over another record. -/
def IsLayered (f : RecordField α) (below : α) (ms : List JsonMember) (a : α) : Prop :=
  (lastValue? f.key ms).elim (f.get a = f.get below) fun x => f.Means x (f.get a)

end RecordField

/-- The record is what the members give if they are layered over another one. All keys denote texts,
and no field is given twice. -/
structure IsRecord {α : Type} (fields : List (RecordField α)) (below : α) (ms : List JsonMember)
    (a : α) : Prop where
  keys : ∀ m ∈ ms, m.1.text?.isSome
  once : ∀ f ∈ fields, (withKey f.key ms).length ≤ 1
  layered : ∀ f ∈ fields, f.IsLayered below ms a

section

variable {α : Type} {fields : List (RecordField α)} {below a : α} {m : JsonMember}
  {ms ms' : List JsonMember} {f : RecordField α}

theorem RecordField.isLayered_iff_of_withKey_eq (h : withKey f.key ms = withKey f.key ms') :
    f.IsLayered below ms a ↔ f.IsLayered below ms' a := by
  rw [IsLayered, IsLayered, lastValue?_of_withKey_eq h]

theorem RecordField.isLayered_iff_of_get_eq {below' : α} (h : f.get below = f.get below') :
    f.IsLayered below ms a ↔ f.IsLayered below' ms a := by
  rw [IsLayered, IsLayered, h]

theorem RecordField.isLayered_iff_of_withKey_eq_nil (h : withKey f.key ms = []) :
    f.IsLayered below ms a ↔ f.get a = f.get below := by
  rw [IsLayered, lastValue?, h]
  rfl

theorem RecordField.isLayered_iff_of_withKey_eq_singleton (h : withKey f.key ms = [m]) :
    f.IsLayered below ms a ↔ f.Means m.2 (f.get a) := by
  rw [IsLayered, lastValue?, h]
  rfl

theorem isRecord_nil_iff (hfields : AreFields fields) : IsRecord fields below [] a ↔ a = below := by
  constructor
  · intro h
    exact hfields.ext a below fun f hf =>
      (RecordField.isLayered_iff_of_withKey_eq_nil rfl).1 (h.layered f hf)
  · rintro rfl
    exact ⟨nofun, fun _ _ => Nat.zero_le 1, fun f hf => rfl⟩

/-- A member without a field only needs a key. -/
theorem isRecord_cons_iff_of_ne {key : String} (hkey : m.1.text? = some key)
    (h : ∀ f ∈ fields, f.key ≠ key) :
    IsRecord fields below (m :: ms) a ↔ IsRecord fields below ms a := by
  have hwith : ∀ f ∈ fields, withKey f.key (m :: ms) = withKey f.key ms := fun f hf =>
    withKey_cons_of_ne (fun he => h f hf (Option.some.inj (he.symm.trans hkey))) ms
  constructor
  · rintro ⟨hkeys, honce, hlayered⟩
    exact ⟨(List.forall_mem_cons.1 hkeys).2, fun f hf => hwith f hf ▸ honce f hf, fun f hf =>
      (RecordField.isLayered_iff_of_withKey_eq (hwith f hf)).1 (hlayered f hf)⟩
  · rintro ⟨hkeys, honce, hlayered⟩
    refine ⟨List.forall_mem_cons.2 ⟨Option.isSome_of_eq_some hkey, hkeys⟩, fun f hf => ?_,
      fun f hf => (RecordField.isLayered_iff_of_withKey_eq (hwith f hf)).2 (hlayered f hf)⟩
    rw [hwith f hf]
    exact honce f hf

/-- A member with a field is the only one, and the other members are layered over the record that
has been changed by it. -/
theorem isRecord_cons_iff (hfields : AreFields fields) (hf : f ∈ fields)
    (hkey : m.1.text? = some f.key) : IsRecord fields below (m :: ms) a ↔
      withKey f.key ms = [] ∧ f.Means m.2 (f.get a) ∧
        IsRecord fields (f.set (f.get a) below) ms a := by
  have hwith : ∀ g ∈ fields, f.key ≠ g.key → withKey g.key (m :: ms) = withKey g.key ms :=
    fun g hg hne => withKey_cons_of_ne (fun he => hne (Option.some.inj (hkey.symm.trans he))) ms
  have hself : withKey f.key (m :: ms) = m :: withKey f.key ms := withKey_cons_of_eq hkey ms
  constructor
  · rintro ⟨hkeys, honce, hlayered⟩
    have hnil : withKey f.key ms = [] := by
      have := honce f hf
      rw [hself] at this
      exact List.length_eq_zero_iff.1 (Nat.le_zero.1 (Nat.le_of_succ_le_succ this))
    rw [hnil] at hself
    refine ⟨hnil, (RecordField.isLayered_iff_of_withKey_eq_singleton hself).1 (hlayered f hf),
      (List.forall_mem_cons.1 hkeys).2, fun g hg => ?_, fun g hg => ?_⟩
    all_goals by_cases hfg : f.key = g.key
    · rw [← hfg, hnil]
      exact Nat.zero_le 1
    · exact hwith g hg hfg ▸ honce g hg
    · obtain rfl := hfields.key_inj f hf g hg hfg
      exact (RecordField.isLayered_iff_of_withKey_eq_nil hnil).2 (hfields.get_set f hf _ _).symm
    · refine (RecordField.isLayered_iff_of_get_eq (hfields.get_set_of_ne f hf g hg hfg _ _)).2 ?_
      exact (RecordField.isLayered_iff_of_withKey_eq (hwith g hg hfg)).1 (hlayered g hg)
  · rintro ⟨hnil, hmeans, hkeys, honce, hlayered⟩
    rw [hnil] at hself
    refine ⟨List.forall_mem_cons.2 ⟨Option.isSome_of_eq_some hkey, hkeys⟩, fun g hg => ?_,
      fun g hg => ?_⟩
    all_goals by_cases hfg : f.key = g.key
    · rw [← hfg, hself]
      exact Nat.le_refl 1
    · rw [hwith g hg hfg]
      exact honce g hg
    · obtain rfl := hfields.key_inj f hf g hg hfg
      exact (RecordField.isLayered_iff_of_withKey_eq_singleton hself).2 hmeans
    · refine (RecordField.isLayered_iff_of_withKey_eq (hwith g hg hfg)).2 ?_
      exact (RecordField.isLayered_iff_of_get_eq (hfields.get_set_of_ne f hf g hg hfg _ _)).1
        (hlayered g hg)

end

namespace JsonReader

section

variable {α : Type} {fields : List (RecordField α)}

/-- A member takes a draft further. -/
def recordStep (fields : List (RecordField α)) (key : String) (x : JsonTree) (d d' : JsonDraft α) :
    Prop :=
  match fields.find? fun f => f.key = key with
  | none => d' = d
  | some f => key ∉ d.given ∧ ∃ v, f.Means x v ∧ d' = ⟨f.set v d.record, key :: d.given⟩

theorem recordStep_iff_of_none {key : String} {x : JsonTree} {d d' : JsonDraft α}
    (h : (fields.find? fun f => f.key = key) = none) :
    recordStep fields key x d d' ↔ d' = d := by
  unfold recordStep
  rw [h]

theorem recordStep_iff_of_some {key : String} {x : JsonTree} {d d' : JsonDraft α}
    {f : RecordField α} (h : (fields.find? fun f => f.key = key) = some f) :
    recordStep fields key x d d' ↔
      key ∉ d.given ∧ ∃ v, f.Means x v ∧ d' = ⟨f.set v d.record, key :: d.given⟩ := by
  unfold recordStep
  rw [h]

/-- The setting reads the field from the member, if the key is that of the field. -/
def ReadsField (m : JsonMember) (s : JsonSetting α) (f : RecordField α) : Prop :=
  s.key = f.key ∧ (m.1.text? = some f.key →
    ∀ a, Understands (s.read a) m.2 fun b => ∃ v, f.Means m.2 v ∧ b = f.set v a)

theorem find?_cases {m : JsonMember} {settings : List (JsonSetting α)}
    (h : List.Forall₂ (ReadsField m) settings fields) (key : String) :
    ((settings.find? fun s => s.key = key) = none ∧ (fields.find? fun f => f.key = key) = none) ∨
      ∃ s f, (settings.find? fun s => s.key = key) = some s ∧
        (fields.find? fun f => f.key = key) = some f ∧ f.key = key ∧ ReadsField m s f := by
  induction h with
  | nil => exact .inl ⟨rfl, rfl⟩
  | @cons s f settings fields hsf _ ih =>
    by_cases hk : f.key = key
    · have hs : s.key = key := hsf.1.trans hk
      exact .inr ⟨s, f, by simp [hs], by simp [hk], hk, hsf⟩
    · have hs : s.key ≠ key := fun hs => hk (hsf.1.symm.trans hs)
      simpa [hk, hs] using ih

theorem takesMember_duplicate (stop : ℕ) (key : String) (x : JsonTree) {R : JsonDraft α → Prop}
    (h : ∀ d, ¬ R d) : TakesMember (duplicate stop key) x R := by
  rintro c ts us hc - d vs
  refine iff_of_false ?_ fun hd => h d hd.1
  rintro ⟨r, hr, -⟩
  simp only [duplicate, hc] at hr
  cases hr

theorem takesMember_recordMember (stop : ℕ) {settings : List (JsonSetting α)} {m : JsonMember}
    (h : List.Forall₂ (ReadsField m) settings fields) {key : String}
    (hkey : m.1.text? = some key) (d : JsonDraft α) :
    TakesMember (recordMember stop settings d key) m.2 (recordStep fields key m.2 d) := by
  rcases find?_cases h key with ⟨hs, hf⟩ | ⟨s, f, hs, hf, rfl, -, hread⟩
  · simp only [recordMember, hs]
    refine (((understands_skip stop m.2).map fun _ => d).congr fun d' => ?_).takesMember stop
    rw [recordStep_iff_of_none hf]
    simp
  by_cases hgiven : f.key ∈ d.given
  · simp only [recordMember, hs, if_pos hgiven]
    exact takesMember_duplicate stop f.key m.2 fun d' hd =>
      ((recordStep_iff_of_some hf).1 hd).1 hgiven
  · simp only [recordMember, hs, if_neg hgiven]
    have hset := (hread hkey d.record).map fun a => JsonDraft.mk a (f.key :: d.given)
    refine (hset.congr fun d' => ?_).takesMember stop
    rw [recordStep_iff_of_some hf]
    constructor
    · rintro ⟨-, ⟨v, hv, rfl⟩, rfl⟩
      exact ⟨hgiven, v, hv, rfl⟩
    · rintro ⟨-, v, hv, rfl⟩
      exact ⟨_, ⟨v, hv, rfl⟩, rfl⟩

theorem exists_steps_cons_iff {m : JsonMember} {ms : List JsonMember} {key : String}
    (hkey : m.1.text? = some key) {d : JsonDraft α} {a : α} :
    (∃ given, Steps (recordStep fields) d (m :: ms) ⟨a, given⟩) ↔
      ∃ d', recordStep fields key m.2 d d' ∧
        ∃ given, Steps (recordStep fields) d' ms ⟨a, given⟩ := by
  constructor
  · rintro ⟨given, h⟩
    cases h with
    | cons hkey' h hs =>
      cases hkey.symm.trans hkey'
      exact ⟨_, h, given, hs⟩
  · rintro ⟨d', h, given, hs⟩
    exact ⟨given, .cons hkey h hs⟩

variable (hfields : AreFields fields)
include hfields

theorem exists_steps_recordStep_iff {ms : List JsonMember} {below a : α} {given : List String} :
    (∃ given', Steps (recordStep fields) ⟨below, given⟩ ms ⟨a, given'⟩) ↔
      IsRecord fields below ms a ∧ ∀ f ∈ fields, f.key ∈ given → withKey f.key ms = [] := by
  induction ms generalizing below given with
  | nil =>
    rw [isRecord_nil_iff hfields]
    constructor
    · rintro ⟨given', h⟩
      cases h
      exact ⟨rfl, fun _ _ _ => rfl⟩
    · rintro ⟨rfl, -⟩
      exact ⟨given, .nil _⟩
  | cons m ms ih =>
    cases hkey : m.1.text? with
    | none =>
      refine iff_of_false ?_ fun ⟨h, _⟩ => ?_
      · rintro ⟨given', h⟩
        cases h with
        | cons hkey' => cases hkey.symm.trans hkey'
      · have := (List.forall_mem_cons.1 h.keys).1
        rw [hkey] at this
        cases this
    | some key =>
      rw [exists_steps_cons_iff hkey]
      cases hfind : fields.find? fun f => f.key = key with
      | none =>
        have hne : ∀ f ∈ fields, f.key ≠ key := by simpa using List.find?_eq_none.1 hfind
        have hwith : ∀ f ∈ fields, withKey f.key (m :: ms) = withKey f.key ms := fun f hf =>
          withKey_cons_of_ne (fun he => hne f hf (Option.some.inj (he.symm.trans hkey))) ms
        simp only [recordStep_iff_of_none hfind, exists_eq_left, ih,
          isRecord_cons_iff_of_ne hkey hne]
        exact and_congr_right fun _ => forall₂_congr fun f hf => by rw [hwith f hf]
      | some f =>
        have hf : f ∈ fields := List.mem_of_find?_eq_some hfind
        obtain rfl : f.key = key := by simpa using List.find?_some hfind
        simp only [recordStep_iff_of_some hfind, isRecord_cons_iff hfields hf hkey]
        constructor
        · rintro ⟨-, ⟨hnew, v, hv, rfl⟩, hs⟩
          obtain ⟨hrecord, hnil⟩ := ih.1 hs
          have hself : withKey f.key ms = [] := hnil f hf List.mem_cons_self
          have hget : f.get a = v :=
            ((RecordField.isLayered_iff_of_withKey_eq_nil hself).1 (hrecord.layered f hf)).trans
              (hfields.get_set f hf _ _)
          subst hget
          refine ⟨⟨hself, hv, hrecord⟩, fun g hg hgiven => ?_⟩
          have hne : m.1.text? ≠ some g.key := by
            rw [hkey]
            exact fun he => hnew (Option.some.inj he ▸ hgiven)
          rw [withKey_cons_of_ne hne]
          exact hnil g hg (List.mem_cons_of_mem _ hgiven)
        · rintro ⟨⟨hself, hv, hrecord⟩, hnil⟩
          have hnew : f.key ∉ given := fun hgiven => by
            have := hnil f hf hgiven
            rw [withKey_cons_of_eq hkey] at this
            cases this
          refine ⟨_, ⟨hnew, _, hv, rfl⟩, ih.2 ⟨hrecord, fun g hg hgiven => ?_⟩⟩
          rcases List.mem_cons.1 hgiven with he | hgiven
          · rw [he, hself]
          · have hne : m.1.text? ≠ some g.key := by
              rw [hkey]
              exact fun he => hnew (Option.some.inj he ▸ hgiven)
            rw [← withKey_cons_of_ne hne]
            exact hnil g hg hgiven

theorem understands_record {stop : ℕ} {settings : List (JsonSetting α)} {ms : List JsonMember}
    (h : ∀ m ∈ ms, List.Forall₂ (ReadsField m) settings fields) (expected : JsonShape)
    (below : α) :
    Understands (record stop expected settings below) (.object ms) (IsRecord fields below ms) := by
  have hobject : Understands (object stop expected (recordMember stop settings) ⟨below, []⟩)
      (.object ms) (Steps (recordStep fields) ⟨below, []⟩ ms) :=
    understands_object (fun m hm _ hkey => takesMember_recordMember stop (h m hm) hkey) _ _
  have hrecordObject : Understands (recordObject stop expected settings below) (.object ms)
      (IsRecord fields below ms) := by
    refine (hobject.map JsonDraft.record).congr fun a => ?_
    have hsteps : (∃ given, Steps (recordStep fields) ⟨below, []⟩ ms ⟨a, given⟩) ↔
        IsRecord fields below ms a ∧ ∀ f ∈ fields, f.key ∈ [] → withKey f.key ms = [] :=
      exists_steps_recordStep_iff hfields
    constructor
    · rintro ⟨⟨a, given⟩, hs, rfl⟩
      exact (hsteps.1 ⟨given, hs⟩).1
    · intro ha
      obtain ⟨given, hs⟩ := hsteps.2 ⟨ha, fun _ _ => nofun⟩
      exact ⟨_, hs, rfl⟩
  intro ts us hts a vs
  obtain ⟨o, ts, rfl, ho, -⟩ := id hts.exists_cons
  have ho : o.kind = .beginObject := ho
  have hrecord : record stop expected settings below (o :: (ts ++ us)) =
      recordObject stop expected settings below (o :: (ts ++ us)) := by
    simp only [record, ho]
  have hgives : Gives (record stop expected settings below) (o :: (ts ++ us)) a vs ↔
      Gives (recordObject stop expected settings below) (o :: (ts ++ us)) a vs := by
    rw [Gives, hrecord]
    rfl
  rw [List.cons_append, hgives]
  exact hrecordObject _ us hts a vs

end

end JsonReader

/-- The members in another order, with some more whose keys are texts but no keys of fields. -/
def IsRearranged (keys : List String) (ms ms' : List JsonMember) : Prop :=
  ∃ added, (∀ m ∈ added, ∃ key, m.1.text? = some key ∧ key ∉ keys) ∧ ms'.Perm (ms ++ added)

section

variable {α : Type} {fields : List (RecordField α)} {below a : α} {ms ms' : List JsonMember}

theorem IsRecord.of_perm (h : IsRecord fields below ms a) (hkeys : ∀ m ∈ ms', m.1.text?.isSome)
    (hperm : ∀ f ∈ fields, (withKey f.key ms').Perm (withKey f.key ms)) :
    IsRecord fields below ms' a := by
  have hwith : ∀ f ∈ fields, withKey f.key ms' = withKey f.key ms := fun f hf => by
    have hp := hperm f hf
    have hlength := h.once f hf
    match hms : withKey f.key ms with
    | [] => exact (hms ▸ hp).eq_nil
    | [m] => exact List.perm_singleton.1 (hms ▸ hp)
    | m :: n :: ms => simp [hms] at hlength
  refine ⟨hkeys, fun f hf => ?_, fun f hf => ?_⟩
  · rw [hwith f hf]
    exact h.once f hf
  · exact (RecordField.isLayered_iff_of_withKey_eq (hwith f hf)).2 (h.layered f hf)

theorem IsRearranged.isRecord_iff (h : IsRearranged (fields.map RecordField.key) ms ms') :
    IsRecord fields below ms a ↔ IsRecord fields below ms' a := by
  obtain ⟨added, hadded, hperm⟩ := h
  have hkeys : (∀ m ∈ ms', m.1.text?.isSome) ↔ ∀ m ∈ ms, m.1.text?.isSome := by
    have hsome : ∀ m ∈ added, m.1.text?.isSome := fun m hm => by
      obtain ⟨key, hkey, -⟩ := hadded m hm
      exact Option.isSome_of_eq_some hkey
    constructor
    · exact fun h m hm => h m (hperm.mem_iff.2 (List.mem_append_left _ hm))
    · intro h m hm
      exact (List.mem_append.1 (hperm.mem_iff.1 hm)).elim (h m) (hsome m)
  have hwith : ∀ f ∈ fields, (withKey f.key ms').Perm (withKey f.key ms) := fun f hf => by
    have hnil : withKey f.key added = [] := withKey_eq_nil fun m hm he => by
      obtain ⟨key, hkey, hnot⟩ := hadded m hm
      cases hkey.symm.trans he
      exact hnot (List.mem_map_of_mem hf)
    have hfilter : (withKey f.key ms').Perm (withKey f.key (ms ++ added)) := hperm.filter _
    rwa [withKey_append, hnil, List.append_nil] at hfilter
  exact ⟨fun h => h.of_perm (hkeys.2 h.keys) hwith,
    fun h => h.of_perm (hkeys.1 h.keys) fun f hf => (hwith f hf).symm⟩

/-- A value can be put in the place of one that means the same. -/
theorem IsRecord.replace {before after : List JsonMember} {t : TextLiteral} {x x' : JsonTree}
    (hx : ∀ f ∈ fields, t.text? = some f.key → ∀ v, f.Means x v → f.Means x' v)
    (h : IsRecord fields below (before ++ (t, x) :: after) a) :
    IsRecord fields below (before ++ (t, x') :: after) a := by
  obtain ⟨hkeys, honce, hlayered⟩ := h
  refine ⟨?_, fun f hf => ?_, fun f hf => ?_⟩
  · simpa only [List.forall_mem_append, List.forall_mem_cons] using hkeys
  · have := honce f hf
    by_cases ht : t.text? = some f.key
    · rw [withKey_append, withKey_cons_of_eq ht, List.length_append, List.length_cons] at this ⊢
      exact this
    · rw [withKey_append, withKey_cons_of_ne ht] at this ⊢
      exact this
  · have := hlayered f hf
    rw [RecordField.IsLayered, lastValue?_append, lastValue?_cons] at this ⊢
    cases hafter : lastValue? f.key after with
    | some y => simpa only [hafter, Option.some_or] using this
    | none =>
      by_cases ht : t.text? = some f.key
      · simp only [hafter, ht, if_true, Option.none_or, Option.some_or] at this ⊢
        exact hx f hf ht _ this
      · simpa only [hafter, ht, if_false, Option.none_or] using this

end

end TicketQuery
