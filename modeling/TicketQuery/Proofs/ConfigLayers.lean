import TicketQuery.Proofs.ConfigRoundTrip
import TicketQuery.Proofs.RecordLayers

/-! # Configurations over the default

A text that holds a configuration as an object is layered over the default: setting by setting,
limit by limit, and path by path. What it gives of that is found wherever it stands, with whatever
else around it. -/
namespace TicketQuery

open JsonReader

namespace FieldPaths

/-- Both the field and its path are texts. Of a field that is given again the last path counts, and
the fields that are not given keep the paths that they had. -/
structure IsLayered (below : FieldPaths) (es : List JsonMember) (paths : FieldPaths) : Prop where
  texts : ∀ e ∈ es, e.1.text?.isSome ∧ e.2.text?.isSome
  getElem? : ∀ field : String,
    paths[field]? = (lastValue? field es).elim below[field]? JsonTree.text?

/-- An entry puts its path in the place of another one. -/
def step (field : String) (x : JsonTree) (paths paths' : FieldPaths) : Prop :=
  ∃ path, x.text? = some path ∧ paths' = paths.insert field path

theorem steps_iff {below paths : FieldPaths} {es : List JsonMember} :
    Steps step below es paths ↔ IsLayered below es paths := by
  induction es generalizing below with
  | nil =>
    constructor
    · intro h
      cases h
      exact ⟨nofun, fun _ => rfl⟩
    · rintro ⟨-, h⟩
      obtain rfl : below = paths := Std.ExtTreeMap.ext_getElem? fun field => (h field).symm
      exact .nil _
  | cons e es ih =>
    have hlookup : ∀ {key path : String}, e.1.text? = some key → e.2.text? = some path →
        ∀ field : String, (lastValue? field (e :: es)).elim below[field]? JsonTree.text? =
          (lastValue? field es).elim (below.insert key path)[field]? JsonTree.text? := by
      intro key path hkey hpath field
      rw [lastValue?_cons, getElem?_insert_eq, hkey]
      cases lastValue? field es with
      | some x => rfl
      | none =>
        by_cases hf : key = field
        · simp [hf, hpath]
        · simp [hf]
    constructor
    · intro h
      cases h with
      | cons hkey h hs =>
        obtain ⟨path, hpath, rfl⟩ := h
        obtain ⟨htexts, hget⟩ := ih.1 hs
        refine ⟨List.forall_mem_cons.2 ⟨?_, htexts⟩, fun field => ?_⟩
        · exact ⟨Option.isSome_of_eq_some hkey, Option.isSome_of_eq_some hpath⟩
        · rw [hget, hlookup hkey hpath]
    · rintro ⟨htexts, hget⟩
      obtain ⟨⟨hkey, hpath⟩, htexts⟩ := List.forall_mem_cons.1 htexts
      obtain ⟨key, hkey⟩ := Option.isSome_iff_exists.1 hkey
      obtain ⟨path, hpath⟩ := Option.isSome_iff_exists.1 hpath
      refine .cons hkey ⟨path, hpath, rfl⟩ (ih.2 ⟨htexts, fun field => ?_⟩)
      rw [hget, hlookup hkey hpath]

end FieldPaths

theorem JsonReader.understands_fieldPaths (stop : ℕ) (x : JsonTree) :
    Understands (fieldPaths stop) x
      fun paths => ∃ es, x = .object es ∧ FieldPaths.IsLayered .standard es paths := by
  by_cases hx : ∃ es, x = .object es
  · obtain ⟨es, rfl⟩ := hx
    have hmember : ∀ e ∈ es, ∀ field, e.1.text? = some field → ∀ paths : FieldPaths,
        TakesMember (do
          colon stop
          return paths.insert field (← text stop)) e.2 (FieldPaths.step field e.2 paths) :=
      fun e _ field _ paths => ((understands_text stop e.2).map _).takesMember stop
    refine (understands_object hmember .map _).congr fun paths => ?_
    rw [FieldPaths.steps_iff]
    constructor
    · exact fun h => ⟨es, rfl, h⟩
    · rintro ⟨es', he, h⟩
      cases he
      exact h
  · have hne : ∀ es, x ≠ .object es := not_exists.1 hx
    refine (understands_object_of_ne hne .map _).congr fun paths => ?_
    exact iff_of_false id fun ⟨es, he, _⟩ => hne es he

def limitFields : List (RecordField Limits) :=
  [⟨"max_query_length", ℕ, Limits.maxLength, fun n l => { l with maxLength := n },
      (·.size? = some ·)⟩,
    ⟨"max_depth", ℕ, Limits.maxDepth, fun n l => { l with maxDepth := n }, (·.size? = some ·)⟩]

def configFields : List (RecordField Config) :=
  [⟨"field_paths", FieldPaths, Config.fieldPaths, fun v c => { c with fieldPaths := v },
      fun x paths => ∃ es, x = .object es ∧ FieldPaths.IsLayered .standard es paths⟩,
    ⟨"custom_field_collection", String, Config.collection, fun v c => { c with collection := v },
      (·.text? = some ·)⟩,
    ⟨"case_insensitive_like", Bool, Config.ignoreCase, fun v c => { c with ignoreCase := v },
      (·.boolean? = some ·)⟩,
    ⟨"table", String, Config.table, fun v c => { c with table := v }, (·.text? = some ·)⟩,
    ⟨"limits", Limits, Config.limits, fun v c => { c with limits := v },
      fun x l => ∃ ls, x = .object ls ∧ IsRecord limitFields {} ls l⟩]

theorem areFields_limitFields : AreFields limitFields := by
  refine ⟨by simp [limitFields], by simp [limitFields], by simp [limitFields], ?_⟩
  rintro ⟨⟩ ⟨⟩ h
  simpa [limitFields] using h

theorem areFields_configFields : AreFields configFields := by
  refine ⟨by simp [configFields], by simp [configFields], by simp [configFields], ?_⟩
  rintro ⟨⟩ ⟨⟩ h
  simpa [configFields] using h

namespace JsonReader

theorem readsField_limits (stop : ℕ) (m : JsonMember) :
    List.Forall₂ (ReadsField m) (limitSettings stop) limitFields :=
  .cons ⟨rfl, fun _ _ => (understands_size stop m.2).map _⟩ <|
  .cons ⟨rfl, fun _ _ => (understands_size stop m.2).map _⟩ .nil

/-- Limits could be a list too, so they have to be said to be an object. -/
theorem readsField_config (stop : ℕ) {m : JsonMember}
    (hm : m.1.text? = some "limits" → ∃ ls, m.2 = .object ls) :
    List.Forall₂ (ReadsField m) (configSettings stop) configFields := by
  have hlimits (hkey : m.1.text? = some "limits") : Understands
      (record stop .limits (limitSettings stop) {}) m.2
      fun l => ∃ ls, m.2 = .object ls ∧ IsRecord limitFields {} ls l := by
    obtain ⟨ls, hls⟩ := hm hkey
    have hrecord : Understands (record stop .limits (limitSettings stop) {}) (.object ls)
        (IsRecord limitFields {} ls) :=
      understands_record areFields_limitFields (fun k _ => readsField_limits stop k) .limits {}
    rw [hls]
    refine hrecord.congr fun l => ?_
    simp
  exact
    .cons ⟨rfl, fun _ _ => (understands_fieldPaths stop m.2).map _⟩ <|
    .cons ⟨rfl, fun _ _ => (understands_text stop m.2).map _⟩ <|
    .cons ⟨rfl, fun _ _ => (understands_boolean stop m.2).map _⟩ <|
    .cons ⟨rfl, fun _ _ => (understands_text stop m.2).map _⟩ <|
    .cons ⟨rfl, fun hkey _ => (hlimits hkey).map _⟩ .nil

end JsonReader

namespace Config

/-- Limits, if there are any, are written as an object. -/
def LimitsAreObject (ms : List JsonMember) : Prop :=
  ∀ m ∈ ms, m.1.text? = some "limits" → ∃ ls, m.2 = .object ls

/-- What makes a text one that is read as the configuration. -/
theorem ofJsonText_eq_ok_iff_isRecord {ms : List JsonMember} {text : String} {c : Config}
    (htext : (JsonTree.object ms).IsSpelled text) (hlimits : LimitsAreObject ms) :
    ofJsonText text = .ok c ↔ IsRecord configFields {} ms c := by
  have hconfig : Understands (JsonReader.config text.utf8ByteSize) (.object ms)
      (IsRecord configFields {} ms) :=
    understands_record areFields_configFields (fun m hm => readsField_config _ (hlimits m hm)) _ _
  have hgives := hconfig _ [] (htext.shows_jsonTokens 0) c []
  rw [List.append_nil] at hgives
  rw [ofJsonText_eq_ok_iff]
  exact hgives.trans (and_iff_left rfl)

/-- The members of the object that a member is. -/
def membersOf (key : String) (ms : List JsonMember) : List JsonMember :=
  match lastValue? key ms with
  | some (.object es) => es
  | _ => []

/-- What a member gives, or the default if it is not there. -/
def valueOr {β : Type} (key : String) (value? : JsonTree → Option β) (default : β)
    (ms : List JsonMember) : Option β :=
  (lastValue? key ms).elim (some default) value?

/-- The configuration is the default with what the members give in place of it. -/
structure IsLayered (c : Config) (ms : List JsonMember) : Prop where
  path : ∀ field x, lastValue? field (membersOf "field_paths" ms) = some x →
    ∃ path, x.text? = some path ∧ c.path? field = some path
  standardPath : ∀ field, lastValue? field (membersOf "field_paths" ms) = none →
    c.path? field =
      [("status", "status.name"), ("statusCategory", "status.type"), ("key", "_id")].lookup field
  collection : valueOr "custom_field_collection" JsonTree.text? "fields" ms = some c.collection
  ignoreCase : valueOr "case_insensitive_like" JsonTree.boolean? false ms = some c.ignoreCase
  table : valueOr "table" JsonTree.text? "tickets" ms = some c.table
  maxLength : valueOr "max_query_length" JsonTree.size? 4096 (membersOf "limits" ms) =
    some c.limits.maxLength
  maxDepth : valueOr "max_depth" JsonTree.size? 64 (membersOf "limits" ms) = some c.limits.maxDepth

/-- Changes that a configuration does not notice: members are put in another order, or members
without a setting are added, among the settings or among the limits. -/
inductive IsRewritten : List JsonMember → List JsonMember → Prop where
  | settings {ms ms' : List JsonMember}
      (h : IsRearranged ["field_paths", "custom_field_collection", "case_insensitive_like", "table",
        "limits"] ms ms') : IsRewritten ms ms'
  | limits {before after ls ls' : List JsonMember} {t : TextLiteral}
      (ht : t.text? = some "limits") (h : IsRearranged ["max_query_length", "max_depth"] ls ls') :
      IsRewritten (before ++ (t, .object ls) :: after) (before ++ (t, .object ls') :: after)
  | trans {ms ms' ms'' : List JsonMember} (h : IsRewritten ms ms') (h' : IsRewritten ms' ms'') :
      IsRewritten ms ms''

theorem IsRewritten.limitsAreObject {ms ms' : List JsonMember} (h : IsRewritten ms ms')
    (hms : LimitsAreObject ms) : LimitsAreObject ms' := by
  induction h with
  | settings h =>
    obtain ⟨added, hadded, hperm⟩ := h
    intro m hm hkey
    rcases List.mem_append.1 (hperm.mem_iff.1 hm) with hm | hm
    · exact hms m hm hkey
    · obtain ⟨key, hkey', hnot⟩ := hadded m hm
      cases hkey.symm.trans hkey'
      exact absurd hnot (by decide)
  | limits =>
    simp only [LimitsAreObject, List.forall_mem_append, List.forall_mem_cons] at hms ⊢
    exact ⟨hms.1, fun _ => ⟨_, rfl⟩, hms.2.2⟩
  | trans _ _ ih ih' => exact ih' (ih hms)

theorem IsRewritten.isRecord {ms ms' : List JsonMember} (h : IsRewritten ms ms') {c : Config}
    (hc : IsRecord configFields {} ms c) : IsRecord configFields {} ms' c := by
  induction h with
  | @settings ms ms' h =>
    have h : IsRearranged (configFields.map RecordField.key) ms ms' := h
    exact h.isRecord_iff.1 hc
  | @limits before after ls ls' t ht h =>
    refine hc.replace fun f hf hkey v hv => ?_
    have hf : f.key = "limits" ∧ f ∈ configFields := ⟨Option.some.inj (hkey.symm.trans ht), hf⟩
    simp only [configFields, List.mem_cons, List.not_mem_nil, or_false] at hf
    obtain ⟨hlimits, rfl | rfl | rfl | rfl | rfl⟩ := hf
    case inr.inr.inr.inr =>
      have h : IsRearranged (limitFields.map RecordField.key) ls ls' := h
      obtain ⟨ls₀, he, hrecord⟩ := hv
      cases he
      exact ⟨ls', rfl, h.isRecord_iff.1 hrecord⟩
    all_goals exact absurd hlimits (by decide)
  | trans _ _ ih ih' => exact ih' (ih hc)

theorem valueOr_eq_some {β : Type} {key : String} {value? : JsonTree → Option β} {default v : β}
    {ms : List JsonMember}
    (h : (lastValue? key ms).elim (v = default) fun x => value? x = some v) :
    valueOr key value? default ms = some v := by
  unfold valueOr
  cases hx : lastValue? key ms with
  | none =>
    rw [hx] at h
    exact congrArg some (Eq.symm h)
  | some x =>
    rw [hx] at h
    exact h

theorem path?_of_isLayered {ms : List JsonMember} {c : Config}
    (h : (lastValue? "field_paths" ms).elim (c.fieldPaths = FieldPaths.standard) fun x =>
      ∃ es, x = .object es ∧ FieldPaths.IsLayered .standard es c.fieldPaths) :
    (∀ field x, lastValue? field (membersOf "field_paths" ms) = some x →
      ∃ path, x.text? = some path ∧ c.path? field = some path) ∧
    ∀ field, lastValue? field (membersOf "field_paths" ms) = none →
      c.path? field = FieldPaths.standard[field]? := by
  unfold membersOf
  cases hx : lastValue? "field_paths" ms with
  | none =>
    rw [hx] at h
    have h : c.fieldPaths = FieldPaths.standard := h
    exact ⟨fun field x => nofun, fun field _ => by rw [path?, h]⟩
  | some x =>
    rw [hx] at h
    obtain ⟨es, rfl, htexts, hget⟩ := h
    refine ⟨fun field y hy => ?_, fun field hnone => ?_⟩
    · obtain ⟨e, he, -, rfl⟩ := exists_mem_of_lastValue? hy
      obtain ⟨path, hpath⟩ := Option.isSome_iff_exists.1 (htexts e he).2
      refine ⟨path, hpath, ?_⟩
      rw [path?, hget, hy, Option.elim_some, hpath]
    · rw [path?, hget, hnone, Option.elim_none]

theorem limits_of_isLayered {ms : List JsonMember} {c : Config}
    (h : (lastValue? "limits" ms).elim (c.limits = {}) fun x =>
      ∃ ls, x = .object ls ∧ IsRecord limitFields {} ls c.limits) :
    valueOr "max_query_length" JsonTree.size? 4096 (membersOf "limits" ms) =
        some c.limits.maxLength ∧
      valueOr "max_depth" JsonTree.size? 64 (membersOf "limits" ms) = some c.limits.maxDepth := by
  unfold membersOf
  cases hx : lastValue? "limits" ms with
  | none =>
    rw [hx] at h
    have h : c.limits = {} := h
    rw [h]
    exact ⟨rfl, rfl⟩
  | some x =>
    rw [hx] at h
    obtain ⟨ls, rfl, hrecord⟩ := h
    have hfields := hrecord.layered
    simp only [limitFields, List.forall_mem_cons] at hfields
    obtain ⟨hlength, hdepth, -⟩ := hfields
    exact ⟨valueOr_eq_some hlength, valueOr_eq_some hdepth⟩

theorem isLayered_of_isRecord {ms : List JsonMember} {c : Config}
    (h : IsRecord configFields {} ms c) : c.IsLayered ms := by
  have hfields := h.layered
  simp only [configFields, List.forall_mem_cons] at hfields
  obtain ⟨hpaths, hcollection, hignoreCase, htable, hlimits, -⟩ := hfields
  obtain ⟨hpath, hstandard⟩ := path?_of_isLayered hpaths
  have hstandard := fun field h => (hstandard field h).trans (FieldPaths.getElem?_standard field)
  obtain ⟨hlength, hdepth⟩ := limits_of_isLayered hlimits
  exact ⟨hpath, hstandard, valueOr_eq_some hcollection, valueOr_eq_some hignoreCase,
    valueOr_eq_some htable, hlength, hdepth⟩

/-- A text that is read as a configuration gives what is layered over the default, and so does each
text that is like it but for the order of its settings and for members that are none. -/
theorem isLayered_of_ofJsonText {ms : List JsonMember} {text : String} {c : Config}
    (htext : (JsonTree.object ms).IsSpelled text) (hlimits : LimitsAreObject ms)
    (hc : ofJsonText text = .ok c) :
    c.IsLayered ms ∧ ∀ ms' text', IsRewritten ms ms' → (JsonTree.object ms').IsSpelled text' →
      ofJsonText text' = .ok c := by
  have hrecord := (ofJsonText_eq_ok_iff_isRecord htext hlimits).1 hc
  refine ⟨isLayered_of_isRecord hrecord, fun ms' text' h htext' => ?_⟩
  exact (ofJsonText_eq_ok_iff_isRecord htext' (h.limitsAreObject hlimits)).2 (h.isRecord hrecord)

/-- A path is given twice, once with an escape in its name, and the smaller limit alone. -/
theorem isLayered_of_ofJsonText_twice :
    let zero : HexDigit := ⟨'0', by decide⟩
    let letter : TextPiece := .number ⟨zero, zero, ⟨'6', by decide⟩, ⟨'1', by decide⟩⟩
    let half : TextPiece := .number ⟨⟨'d', by decide⟩, ⟨'8', by decide⟩, zero, zero⟩
    let eight : JsonTree := .leaf (.number
      ⟨false, ['8'], none, none, by simp [IsDigits], by simp, by simp⟩)
    let paths : JsonMember := (.plain "field_paths" rfl, .object
      [(.plain "status" rfl, .leaf (.text (.plain "a" rfl))),
        (TextLiteral.plain "st" rfl ++ letter :: TextLiteral.plain "tus" rfl,
          .leaf (.text (.plain "b" rfl)))])
    let limits (ls : List JsonMember) : JsonMember := (.plain "limits" rfl, .object ls)
    let depth : JsonMember := (.plain "max_depth" rfl, eight)
    let unknown : JsonMember := (.plain "x" rfl, .leaf (.text [half]))
    let ms : List JsonMember := [paths, limits [depth]]
    let ms' : List JsonMember := [unknown, limits [unknown, depth], paths]
    let text := "\x7b\"field_paths\":\x7b\"status\":\"a\",\"st\\u0061tus\":\"b\"\x7d," ++
      "\"limits\":\x7b\"max_depth\":8\x7d\x7d"
    let text' := "\x7b\"x\":\"\\ud800\",\"limits\":\x7b\"x\":\"\\ud800\",\"max_depth\":8\x7d," ++
      "\"field_paths\":\x7b\"status\":\"a\",\"st\\u0061tus\":\"b\"\x7d\x7d"
    let c : Config := { fieldPaths := FieldPaths.standard.insert "status" "b",
                        limits := { maxDepth := 8 } }
    (JsonTree.object ms).IsSpelled text ∧ ofJsonText text = .ok c ∧ c.IsLayered ms ∧
      (JsonTree.object ms').IsSpelled text' ∧ IsRewritten ms ms' ∧ ofJsonText text' = .ok c := by
  intro zero letter half eight paths limits depth unknown ms ms' text text' c
  have htext : (JsonTree.object ms).IsSpelled text := by
    have h : (JsonTree.object ms).compact = text := by decide +kernel
    exact h ▸ JsonTree.isSpelled_compact _
  have htext' : (JsonTree.object ms').IsSpelled text' := by
    have h : (JsonTree.object ms').compact = text' := by decide +kernel
    exact h ▸ JsonTree.isSpelled_compact _
  have hc : ofJsonText text = .ok c := by decide +kernel
  have hunknown : unknown.1.text? = some "x" := by decide
  have hinner : IsRewritten ms [paths, limits [unknown, depth]] := by
    refine @IsRewritten.limits [paths] [] [depth] [unknown, depth] _ (by decide)
      ⟨[unknown], ?_, .swap ..⟩
    exact List.forall_mem_singleton.2 ⟨"x", hunknown, by decide⟩
  have houter : IsRewritten [paths, limits [unknown, depth]] ms' := by
    refine .settings ⟨[unknown], ?_, (List.reverse_perm ms').symm⟩
    exact List.forall_mem_singleton.2 ⟨"x", hunknown, by decide⟩
  have hrewritten : IsRewritten ms ms' := hinner.trans houter
  have hlimits : LimitsAreObject ms := by
    simp [LimitsAreObject, ms, paths, limits]
  obtain ⟨hlayered, hall⟩ := isLayered_of_ofJsonText htext hlimits hc
  exact ⟨htext, hc, hlayered, htext', hrewritten, hall ms' text' hrewritten htext'⟩

end Config

end TicketQuery
