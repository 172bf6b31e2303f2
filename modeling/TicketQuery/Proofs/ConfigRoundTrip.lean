import TicketQuery.ConfigReader
import TicketQuery.Proofs.JsonReadValues

/-! # Configurations that are written and read back

What is read is what was written, but for the standard paths that were not among its paths. A
configuration that has been read has those, so it is read back as it is. -/
namespace TicketQuery

open JsonReader

namespace FieldPaths

/-- The paths with others added or put in their places, one after the other. -/
def layered (paths : FieldPaths) (ps : List (String × String)) : FieldPaths :=
  ps.foldl (fun paths p => paths.insert p.1 p.2) paths

theorem getElem?_insert_eq (paths : FieldPaths) (field path other : String) :
    (paths.insert field path)[other]? = if field = other then some path else paths[other]? := by
  rw [Std.ExtTreeMap.getElem?_insert]
  simp only [Std.compare_eq_iff_eq]

theorem getElem?_standard (field : String) :
    standard[field]? =
      [("status", "status.name"), ("statusCategory", "status.type"), ("key", "_id")].lookup
        field := by
  have hstandard : standard =
      (((∅ : FieldPaths).insert "status" "status.name").insert
        "statusCategory" "status.type").insert "key" "_id" := by
    decide +kernel
  rw [hstandard]
  simp only [getElem?_insert_eq, List.lookup_cons, List.lookup_nil, Std.ExtTreeMap.getElem?_empty]
  grind

theorem getElem?_layered_of_not_mem {ps : List (String × String)} {field : String}
    (h : ∀ p ∈ ps, p.1 ≠ field) (paths : FieldPaths) :
    (paths.layered ps)[field]? = paths[field]? := by
  induction ps generalizing paths with
  | nil => rfl
  | cons p ps ih =>
    obtain ⟨hp, hps⟩ := List.forall_mem_cons.1 h
    have := ih hps (paths.insert p.1 p.2)
    rw [getElem?_insert_eq, if_neg hp] at this
    exact this

theorem getElem?_layered_of_mem {ps : List (String × String)}
    (hps : ps.Pairwise fun p q => p.1 ≠ q.1) {field path : String} (h : (field, path) ∈ ps)
    (paths : FieldPaths) :
    (paths.layered ps)[field]? = some path := by
  induction ps generalizing paths with
  | nil => cases h
  | cons p ps ih =>
    obtain ⟨hp, hps⟩ := List.pairwise_cons.1 hps
    rcases List.mem_cons.1 h with rfl | h
    · have hrest : ∀ q ∈ ps, q.1 ≠ field := fun q hq he => hp q hq he.symm
      have := getElem?_layered_of_not_mem hrest (paths.insert field path)
      rw [getElem?_insert_eq, if_pos rfl] at this
      exact this
    · exact ih hps h (paths.insert p.1 p.2)

/-- Layering the paths of a map over others, in any order. -/
theorem getElem?_layered_of_perm {new : FieldPaths} {ps : List (String × String)}
    (h : ps.Perm new.toList) (paths : FieldPaths) (field : String) :
    (paths.layered ps)[field]? = (new[field]?).or paths[field]? := by
  have hmem : ∀ field path, (field, path) ∈ ps ↔ new[field]? = some path := fun field path =>
    h.mem_iff.trans Std.ExtTreeMap.mem_toList_iff_getElem?_eq_some
  cases hnew : new[field]? with
  | none =>
    refine getElem?_layered_of_not_mem (fun p hp he => ?_) paths
    have := (hmem p.1 p.2).1 hp
    rw [he, hnew] at this
    cases this
  | some path =>
    have hkeys : new.toList.Pairwise fun p q => p.1 ≠ q.1 :=
      Std.ExtTreeMap.distinct_keys_toList.imp fun hpq he => hpq (Std.compare_eq_iff_eq.2 he)
    have hps : ps.Pairwise fun p q => p.1 ≠ q.1 := hkeys.perm h.symm fun hpq he => hpq he.symm
    exact getElem?_layered_of_mem hps ((hmem field path).2 hnew) paths

end FieldPaths

namespace Config

/-- The value writes the configuration. The members of each object are in any order. -/
inductive IsWrittenAs (c : Config) : JsonValue → Prop where
  | intro {paths : List (String × String)} {limits members : List (String × JsonValue)}
      (hpaths : paths.Perm c.fieldPaths.toList)
      (hlimits : limits.Perm [("max_depth", .integer c.limits.maxDepth),
        ("max_query_length", .integer c.limits.maxLength)])
      (hmembers : members.Perm [("case_insensitive_like", .boolean c.ignoreCase),
        ("custom_field_collection", .text c.collection),
        ("field_paths", .object (paths.map fun p => (p.1, .text p.2))),
        ("limits", .object limits), ("table", .text c.table)]) :
      IsWrittenAs c (.object members)

theorem isWrittenAs_toJson (c : Config) : c.IsWrittenAs c.toJson :=
  .intro (.refl _) (.refl _) (.refl _)

theorem IsWrittenAs.fits {c : Config} {v : JsonValue} (h : c.IsWrittenAs v)
    (hlength : c.limits.maxLength < 2 ^ 64) (hdepth : c.limits.maxDepth < 2 ^ 64) : v.Fits := by
  obtain @⟨paths, limits, members, -, hlimits, hmembers⟩ := h
  have hsize : ∀ n : Nat, n < 2 ^ 64 → (JsonValue.integer n).Fits := by
    intro n hn
    simp only [JsonValue.Fits, JsonValue.Is64Bit]
    omega
  have hpathsFit : JsonValue.MembersFit (paths.map fun p => (p.1, .text p.2)) := by
    refine JsonValue.membersFit_iff.2 fun m hm => ?_
    obtain ⟨p, -, rfl⟩ := List.mem_map.1 hm
    trivial
  have hlimitsFit : JsonValue.MembersFit limits :=
    .of_perm hlimits ⟨hsize _ hdepth, hsize _ hlength, trivial⟩
  exact .of_perm hmembers ⟨trivial, trivial, hpathsFit, hlimitsFit, trivial, trivial⟩

section

variable (stop : Nat)

theorem readsMembers_fieldPaths (ps : List (String × String)) (paths : FieldPaths) :
    ReadsMembers (fun paths field => do
        colon stop
        return paths.insert field (← text stop))
      paths (ps.map fun p => (p.1, .text p.2)) (paths.layered ps) := by
  induction ps generalizing paths with
  | nil => exact .nil paths
  | cons p ps ih =>
    have hpath := (reads_text stop p.2).map fun path => paths.insert p.1 path
    exact .cons ((reads_colon stop).bind hpath) (ih _)

theorem reads_fieldPaths (ps : List (String × String)) :
    Reads (JsonReader.fieldPaths stop) (JsonValue.object (ps.map fun p => (p.1, .text p.2))).kinds
      (FieldPaths.standard.layered ps) :=
  (readsMembers_fieldPaths stop ps .standard).reads_object stop .map

def givenLimits (l : Limits) : List (GivenSetting stop (limitSettings stop)) :=
  [⟨"max_depth", .integer l.maxDepth, fun k => { k with maxDepth := l.maxDepth },
      ⟨_, rfl, fun _ => (reads_size stop l.maxDepth).map _⟩⟩,
    ⟨"max_query_length", .integer l.maxLength, fun k => { k with maxLength := l.maxLength },
      ⟨_, rfl, fun _ => (reads_size stop l.maxLength).map _⟩⟩]

theorem reads_limits {l : Limits} {limits : List (String × JsonValue)}
    (h : limits.Perm [("max_depth", .integer l.maxDepth),
      ("max_query_length", .integer l.maxLength)]) (d : Limits) :
    Reads (record stop .limits (limitSettings stop) d) (JsonValue.object limits).kinds l := by
  have hkeys : ((givenLimits stop l).map GivenSetting.key).Nodup := by
    simp [givenLimits]
  have hset : ∀ g ∈ givenLimits stop l, ∀ k ∈ givenLimits stop l, ∀ a,
      k.set (g.set a) = g.set (k.set a) := by
    simp [givenLimits]
  exact GivenSetting.reads_record_of_perm hkeys hset h .limits d

def givenSettings (c : Config) (ps : List (String × String)) {limits : List (String × JsonValue)}
    (h : limits.Perm [("max_depth", .integer c.limits.maxDepth),
      ("max_query_length", .integer c.limits.maxLength)]) :
    List (GivenSetting stop (configSettings stop)) :=
  [⟨"case_insensitive_like", .boolean c.ignoreCase, fun d => { d with ignoreCase := c.ignoreCase },
      ⟨_, rfl, fun _ => (reads_boolean stop c.ignoreCase).map _⟩⟩,
    ⟨"custom_field_collection", .text c.collection, fun d => { d with collection := c.collection },
      ⟨_, rfl, fun _ => (reads_text stop c.collection).map _⟩⟩,
    ⟨"field_paths", .object (ps.map fun p => (p.1, .text p.2)),
      fun d => { d with fieldPaths := FieldPaths.standard.layered ps },
      ⟨_, rfl, fun _ => (reads_fieldPaths stop ps).map _⟩⟩,
    ⟨"limits", .object limits, fun d => { d with limits := c.limits },
      ⟨_, rfl, fun _ => (reads_limits stop h {}).map _⟩⟩,
    ⟨"table", .text c.table, fun d => { d with table := c.table },
      ⟨_, rfl, fun _ => (reads_text stop c.table).map _⟩⟩]

theorem reads_config {c : Config} {v : JsonValue} (h : c.IsWrittenAs v) :
    ∃ paths : FieldPaths, Reads (JsonReader.config stop) v.kinds { c with fieldPaths := paths } ∧
      ∀ field : String, paths[field]? = c.fieldPaths[field]?.or FieldPaths.standard[field]? := by
  obtain @⟨ps, limits, members, hps, hlimits, hmembers⟩ := h
  have hkeys : ((givenSettings stop c ps hlimits).map GivenSetting.key).Nodup := by
    simp [givenSettings]
  have hset : ∀ g ∈ givenSettings stop c ps hlimits, ∀ k ∈ givenSettings stop c ps hlimits, ∀ a,
      k.set (g.set a) = g.set (k.set a) := by
    simp [givenSettings]
  refine ⟨FieldPaths.standard.layered ps, ?_, FieldPaths.getElem?_layered_of_perm hps .standard⟩
  exact GivenSetting.reads_record_of_perm hkeys hset hmembers .config {}

end

theorem ofJsonText_eq_ok_iff {text : String} {c : Config} : ofJsonText text = .ok c ↔
    Gives (JsonReader.config text.utf8ByteSize) (jsonTokens 0 text.toList) c [] := by
  unfold ofJsonText
  constructor
  · intro h
    split at h
    · cases h
    · next r hr =>
      split at h
      · next hrest =>
        cases h
        exact ⟨r, hr, rfl, hrest⟩
      · cases h
  · rintro ⟨r, hr, rfl, hrest⟩
    simp only [hr, hrest]

theorem ofJsonText_of_reads {text : String} {ks : List JsonTokenKind} {c : Config}
    (htext : IsLexed text.toList ks) (h : Reads (JsonReader.config text.utf8ByteSize) ks c) :
    ofJsonText text = .ok c := by
  obtain ⟨ts, stop, hts, htokens⟩ := htext 0 [] (startsOutside_nil _)
  have hgives := h ts [] hts
  rw [List.append_nil, jsonTokens] at htokens
  rw [ofJsonText_eq_ok_iff, htokens]
  exact hgives

theorem exists_ofJsonText_of_isWrittenAs {c : Config} {v : JsonValue} (h : c.IsWrittenAs v)
    {text : String} (htext : text = v.compact ∨ text = v.pretty)
    (hlength : c.limits.maxLength < 2 ^ 64) (hdepth : c.limits.maxDepth < 2 ^ 64) :
    ∃ paths : FieldPaths, ofJsonText text = .ok { c with fieldPaths := paths } ∧
      ∀ field : String, paths[field]? = c.fieldPaths[field]?.or FieldPaths.standard[field]? := by
  have hfits := h.fits hlength hdepth
  have hlexed : IsLexed text.toList v.kinds := by
    rcases htext with rfl | rfl
    · exact v.isLexed_compact hfits
    · exact v.isLexed_indented hfits 0
  obtain ⟨paths, hreads, hpaths⟩ := reads_config text.utf8ByteSize h
  exact ⟨paths, ofJsonText_of_reads hlexed hreads, hpaths⟩

/-- A configuration that a text can hold: standard paths are not missing, and limits are sizes. -/
structure IsReadable (c : Config) : Prop where
  isSome_path : ∀ field : String, FieldPaths.standard[field]?.isSome → c.fieldPaths[field]?.isSome
  maxLength_lt : c.limits.maxLength < 2 ^ 64
  maxDepth_lt : c.limits.maxDepth < 2 ^ 64

section

variable (stop : Nat)

theorem ensures_text : Ensures (text stop) fun _ => True := .token fun _ _ _ _ => trivial

theorem ensures_boolean : Ensures (boolean stop) fun _ => True := .token fun _ _ _ _ => trivial

theorem ensures_fieldPaths : Ensures (JsonReader.fieldPaths stop) fun paths =>
    ∀ field : String, FieldPaths.standard[field]?.isSome → paths[field]?.isSome := by
  refine ensures_object (fun paths field hpaths => ?_) .map fun _ h => h
  refine ensures_colon.bind fun _ _ => (ensures_text stop).bind fun path _ => .pure ?_
  intro other hother
  rw [FieldPaths.getElem?_insert_eq]
  split
  · rfl
  · exact hpaths other hother

theorem ensures_limits (d : Limits) (hd : d.maxLength < 2 ^ 64 ∧ d.maxDepth < 2 ^ 64) :
    Ensures (record stop .limits (limitSettings stop) d)
      fun l => l.maxLength < 2 ^ 64 ∧ l.maxDepth < 2 ^ 64 := by
  refine ensures_record ?_ .limits hd
  simp only [limitSettings, List.forall_mem_cons]
  refine ⟨fun l hl => ?_, fun l hl => ?_, nofun⟩
  · exact ensures_size.bind fun n hn => .pure ⟨hn, hl.2⟩
  · exact ensures_size.bind fun n hn => .pure ⟨hl.1, hn⟩

theorem ensures_config : Ensures (JsonReader.config stop) IsReadable := by
  refine ensures_record ?_ .config ⟨fun _ h => h, by decide, by decide⟩
  simp only [configSettings, List.forall_mem_cons]
  refine ⟨fun c hc => ?_, fun c hc => ?_, fun c hc => ?_, fun c hc => ?_, fun c hc => ?_, nofun⟩
  · exact (ensures_fieldPaths stop).bind fun _ h => .pure { hc with isSome_path := h }
  · exact (ensures_text stop).bind fun _ _ => .pure { hc with }
  · exact (ensures_boolean stop).bind fun _ _ => .pure { hc with }
  · exact (ensures_text stop).bind fun _ _ => .pure { hc with }
  · refine (ensures_limits stop {} (by decide)).bind fun _ h => .pure ?_
    exact { hc with maxLength_lt := h.1, maxDepth_lt := h.2 }

end

theorem isReadable_of_ofJsonText {text : String} {c : Config} (h : ofJsonText text = .ok c) :
    c.IsReadable :=
  (ensures_config _ _ c [] (ofJsonText_eq_ok_iff.1 h) fun _ ht => fits_of_mem_jsonTokens ht).1

theorem IsReadable.fieldPaths_eq {c : Config} (hc : c.IsReadable) {paths : FieldPaths}
    (h : ∀ field : String, paths[field]? = c.fieldPaths[field]?.or FieldPaths.standard[field]?) :
    paths = c.fieldPaths := by
  refine Std.ExtTreeMap.ext_getElem? fun field => ?_
  rw [h]
  cases hown : c.fieldPaths[field]? with
  | some path => rfl
  | none =>
    have := hc.isSome_path field
    simpa [hown] using this

/-- A configuration that is written and read back is the same but for standard paths that were not
among its own, and one that has been read before is exactly the same. -/
theorem ofJsonText_of_isWrittenAs {c : Config} {v : JsonValue} (h : c.IsWrittenAs v) {text : String}
    (htext : text = v.compact ∨ text = v.pretty) :
    (c.limits.maxLength < 2 ^ 64 → c.limits.maxDepth < 2 ^ 64 →
      ∃ paths : FieldPaths, ofJsonText text = .ok { c with fieldPaths := paths } ∧
        ∀ field : String, paths[field]? = c.fieldPaths[field]?.or FieldPaths.standard[field]?) ∧
    ∀ source, ofJsonText source = .ok c → ofJsonText text = .ok c := by
  refine ⟨exists_ofJsonText_of_isWrittenAs h htext, fun source hsource => ?_⟩
  have hc := isReadable_of_ofJsonText hsource
  obtain ⟨paths, hok, hpaths⟩ :=
    exists_ofJsonText_of_isWrittenAs h htext hc.maxLength_lt hc.maxDepth_lt
  rwa [hc.fieldPaths_eq hpaths] at hok

/-- A configuration with a path of its own and the largest limit there is. -/
theorem ofJsonText_of_isWrittenAs_largest :
    let c : Config := { fieldPaths := FieldPaths.standard.insert "points" "a\"b",
                        limits := { maxDepth := 2 ^ 64 - 1 } }
    (∃ paths : FieldPaths, ofJsonText c.toJson.pretty = .ok { c with fieldPaths := paths }) ∧
      ofJsonText c.toJson.compact = .ok c := by
  intro c
  have hsource : ofJsonText ("\x7b\"limits\": \x7b\"max_depth\": 18446744073709551615\x7d, " ++
      "\"field_paths\": \x7b\"points\": \"a\\\"b\"\x7d\x7d") = .ok c := by
    decide +kernel
  have hpretty := ofJsonText_of_isWrittenAs c.isWrittenAs_toJson (.inr rfl)
  have hcompact := ofJsonText_of_isWrittenAs c.isWrittenAs_toJson (.inl rfl)
  obtain ⟨paths, hpaths, -⟩ := hpretty.1 (by decide) (by decide)
  exact ⟨⟨paths, hpaths⟩, hcompact.2 _ hsource⟩

end Config

end TicketQuery
