import TicketQuery.FilterText

/-! # The document of a filter determines it

Documents are compared as JSON values, so the order of members does not count. Keys come from paths
and names as well as from operators, and still no two shapes of filter share a document: what stands
behind a key is a list, a test or the test of a member. Only the values of patterns are not all kept
apart, as a number and its digits are one pattern. -/
namespace TicketQuery

namespace JsonValue

mutual

/-- One JSON value, whatever the order of members. The keys of an object are all different. -/
def Same : JsonValue → JsonValue → Prop
  | integer m, integer n => m = n
  | boolean a, boolean b => a = b
  | text s, text t => s = t
  | list vs, list ws => SameItems vs ws
  | object ms, object ns => ms.length = ns.length ∧ HasMembers ms ns
  | _, _ => False

def SameItems : List JsonValue → List JsonValue → Prop
  | [], [] => True
  | v :: vs, w :: ws => v.Same w ∧ SameItems vs ws
  | _, _ => False

/-- The second object has the members of the first. -/
def HasMembers : List (String × JsonValue) → List (String × JsonValue) → Prop
  | [], _ => True
  | (key, v) :: ms, ns => (∃ w, (key, w) ∈ ns ∧ v.Same w) ∧ HasMembers ms ns

end

mutual

theorem same_refl : ∀ v : JsonValue, v.Same v
  | integer _ | boolean _ | text _ => by simp only [Same]
  | list vs => by
    rw [Same]
    exact sameItems_refl vs
  | object ms => by
    rw [Same]
    exact ⟨rfl, hasMembers_of_subset ms (List.Subset.refl ms)⟩

theorem sameItems_refl : ∀ vs : List JsonValue, SameItems vs vs
  | [] => by simp only [SameItems]
  | v :: vs => by
    rw [SameItems]
    exact ⟨same_refl v, sameItems_refl vs⟩

theorem hasMembers_of_subset : ∀ (ms : List (String × JsonValue)) {ns : List (String × JsonValue)},
    ms ⊆ ns → HasMembers ms ns
  | [], ns, _ => by simp only [HasMembers]
  | (key, v) :: ms, ns, h => by
    obtain ⟨hm, hms⟩ := List.cons_subset.1 h
    rw [HasMembers]
    exact ⟨⟨v, hm, same_refl v⟩, hasMembers_of_subset ms hms⟩

end

theorem hasMembers_iff {ms ns : List (String × JsonValue)} :
    HasMembers ms ns ↔ ∀ m ∈ ms, ∃ w, (m.1, w) ∈ ns ∧ m.2.Same w := by
  induction ms with
  | nil => simp [HasMembers]
  | cons m ms ih => rw [HasMembers, ih, List.forall_mem_cons]

/-- Objects that are the same have the same keys. -/
theorem subset_keys_of_same {ms ns : List (String × JsonValue)}
    (h : (object ms).Same (object ns)) : ms.map Prod.fst ⊆ ns.map Prod.fst := by
  rw [Same, hasMembers_iff] at h
  intro key hkey
  obtain ⟨m, hm, rfl⟩ := List.mem_map.1 hkey
  obtain ⟨w, hw, -⟩ := h.2 m hm
  exact List.mem_map.2 ⟨_, hw, rfl⟩

theorem same_singleton_iff {key key' : String} {v w : JsonValue} :
    (object [(key, v)]).Same (object [(key', w)]) ↔ key = key' ∧ v.Same w := by
  rw [Same, hasMembers_iff]
  simp only [List.length_singleton, List.mem_singleton, forall_eq, Prod.mk.injEq, true_and]
  constructor
  · rintro ⟨u, ⟨rfl, rfl⟩, h⟩
    exact ⟨rfl, h⟩
  · rintro ⟨rfl, h⟩
    exact ⟨w, ⟨rfl, rfl⟩, h⟩

/-- Objects with the same two keys. -/
theorem same_pair_iff {key key' : String} (hne : key ≠ key') {v w v' w' : JsonValue} :
    (object [(key, v), (key', v')]).Same (object [(key, w), (key', w')]) ↔
      v.Same w ∧ v'.Same w' := by
  have hfirst : ∀ u, (key, u) ∈ [(key, w), (key', w')] ↔ u = w := by simp [hne]
  have hsecond : ∀ u, (key', u) ∈ [(key, w), (key', w')] ↔ u = w' := by simp [hne.symm]
  rw [Same, hasMembers_iff]
  simp only [List.forall_mem_cons, List.length_cons, hfirst, hsecond, exists_eq_left, true_and,
    List.not_mem_nil, false_implies, implies_true, and_true]

theorem not_same_list_object (vs : List JsonValue) (ms : List (String × JsonValue)) :
    ¬ (list vs).Same (object ms) ∧ ¬ (object ms).Same (list vs) := by
  rw [Same, Same]
  · exact ⟨not_false, not_false⟩
  all_goals exact nofun

theorem same_text_iff {s t : String} : (text s).Same (text t) ↔ s = t := by rw [Same]

end JsonValue

/-- What a document says of the value that is tested for: of a pattern only its text. -/
def Literal.tested (op : Comparison) (v : Literal) : Literal :=
  if op = .like then .text v.patternText else v

def Literal.IsDate (v : Literal) : Prop := ∃ t, v = .date t

/-- Numbers and texts are different in JSON, while dates are texts. -/
theorem Literal.same_toJson_iff {v w : Literal} (hv : ¬ v.IsDate) (hw : ¬ w.IsDate) :
    v.toJson.Same w.toJson ↔ v = w := by
  cases v with
  | date t => exact absurd ⟨t, rfl⟩ hv
  | integer m =>
    cases w with
    | date t => exact absurd ⟨t, rfl⟩ hw
    | integer n => simp [toJson, JsonValue.Same]
    | text s => simp [toJson, JsonValue.Same]
  | text s =>
    cases w with
    | date t => exact absurd ⟨t, rfl⟩ hw
    | integer n => simp [toJson, JsonValue.Same]
    | text t => simp [toJson, JsonValue.Same]

namespace Filter

/-- The keys of a test. -/
def testKeys (ignoreCase : Bool) (op : Comparison) : List String :=
  if op = .like then (if ignoreCase then ["$options"] else []) ++ ["$regex"]
  else ["$" ++ op.word]

theorem exists_testDocument_eq (ignoreCase : Bool) (op : Comparison) (v : Literal) :
    ∃ ms, testDocument ignoreCase op v = .object ms ∧ ms.map Prod.fst = testKeys ignoreCase op := by
  unfold testDocument testKeys
  split
  · refine ⟨_, rfl, ?_⟩
    cases ignoreCase <;> rfl
  · exact ⟨_, rfl, rfl⟩

/-- The keys tell the comparison. -/
theorem eq_of_testKeys_subset {ignoreCase : Bool} {op op' : Comparison}
    (h : testKeys ignoreCase op ⊆ testKeys ignoreCase op') : op = op' := by
  have hkeys : ∀ b, ∀ op ∈ Comparison.all, ∀ op' ∈ Comparison.all,
      testKeys b op ⊆ testKeys b op' → op = op' := by decide
  exact hkeys ignoreCase op op.mem_all op' op'.mem_all h

/-- A test tells its comparison and its value. -/
theorem same_testDocument_iff (ignoreCase : Bool) {op op' : Comparison} {v w : Literal}
    (hv : ¬ v.IsDate) (hw : ¬ w.IsDate) :
    (testDocument ignoreCase op v).Same (testDocument ignoreCase op' w) ↔
      op = op' ∧ v.tested op = w.tested op' := by
  have hvalue : (testDocument ignoreCase op v).Same (testDocument ignoreCase op w) ↔
      v.tested op = w.tested op := by
    by_cases hop : op = .like
    · have htext : v.tested op = w.tested op ↔ v.patternText = w.patternText := by
        simp only [Literal.tested, if_pos hop, Literal.text.injEq]
      rw [htext, ← JsonValue.same_text_iff]
      simp only [testDocument, if_pos hop]
      cases ignoreCase with
      | false => exact JsonValue.same_singleton_iff.trans (and_iff_right rfl)
      | true =>
        exact (JsonValue.same_pair_iff (by decide)).trans (and_iff_right (JsonValue.same_refl _))
    · simp only [testDocument, Literal.tested, if_neg hop, JsonValue.same_singleton_iff, true_and]
      exact Literal.same_toJson_iff hv hw
  constructor
  · intro h
    obtain ⟨ms, hms, hkeys⟩ := exists_testDocument_eq ignoreCase op v
    obtain ⟨ns, hns, hkeys'⟩ := exists_testDocument_eq ignoreCase op' w
    have hsubset := JsonValue.subset_keys_of_same (hns ▸ hms ▸ h)
    rw [hkeys, hkeys'] at hsubset
    obtain rfl := eq_of_testKeys_subset hsubset
    exact ⟨rfl, hvalue.1 h⟩
  · rintro ⟨rfl, h⟩
    exact hvalue.2 h

/-- A test of a value is never the test of a member. -/
theorem not_same_elemMatch (ignoreCase : Bool) (op : Comparison) (v : Literal) (d : JsonValue) :
    ¬ (testDocument ignoreCase op v).Same (.object [("$elemMatch", d)]) ∧
      ¬ (JsonValue.object [("$elemMatch", d)]).Same (testDocument ignoreCase op v) := by
  have hkeys : ∀ b, ∀ op ∈ Comparison.all,
      ¬ testKeys b op ⊆ ["$elemMatch"] ∧ ¬ ["$elemMatch"] ⊆ testKeys b op := by decide
  obtain ⟨ms, hms, hms'⟩ := exists_testDocument_eq ignoreCase op v
  obtain ⟨hnot, hnot'⟩ := hkeys ignoreCase op op.mem_all
  rw [hms, ← hms'] at *
  exact ⟨fun h => hnot (JsonValue.subset_keys_of_same h),
    fun h => hnot' (JsonValue.subset_keys_of_same h)⟩

mutual

/-- The filter with the text of every pattern in place of the value it comes from. -/
def withPatternTexts : Filter → Filter
  | combined k fs => combined k (withPatternTextsAll fs)
  | stored path op v => stored path op (v.tested op)
  | custom collection name op v => custom collection name op (v.tested op)

def withPatternTextsAll : List Filter → List Filter
  | [] => []
  | f :: fs => f.withPatternTexts :: withPatternTextsAll fs

end

mutual

/-- The values that are tested for, from left to right. -/
def values : Filter → List Literal
  | combined _ fs => valuesOfAll fs
  | stored _ _ v => [v]
  | custom _ _ _ v => [v]

def valuesOfAll : List Filter → List Literal
  | [] => []
  | f :: fs => f.values ++ valuesOfAll fs

end

def IsDateless (f : Filter) : Prop := ∀ v ∈ f.values, ¬ v.IsDate

theorem toDocument_tested (ignoreCase : Bool) (op : Comparison) (v : Literal) :
    testDocument ignoreCase op (v.tested op) = testDocument ignoreCase op v := by
  by_cases hop : op = .like
  · simp [testDocument, Literal.tested, hop, Literal.patternText]
  · simp [testDocument, Literal.tested, hop]

mutual

/-- A document says of patterns only their texts. -/
theorem toDocument_withPatternTexts (ignoreCase : Bool) : ∀ f : Filter,
    f.withPatternTexts.toDocument ignoreCase = f.toDocument ignoreCase
  | combined k fs => by
    rw [withPatternTexts, toDocument, toDocument, toDocumentAll_withPatternTextsAll]
  | stored path op v => by rw [withPatternTexts, toDocument, toDocument, toDocument_tested]
  | custom collection name op v => by
    rw [withPatternTexts, toDocument, toDocument, toDocument_tested]

theorem toDocumentAll_withPatternTextsAll (ignoreCase : Bool) : ∀ fs : List Filter,
    toDocumentAll ignoreCase (withPatternTextsAll fs) = toDocumentAll ignoreCase fs
  | [] => rfl
  | f :: fs => by
    rw [withPatternTextsAll, toDocumentAll, toDocumentAll, toDocument_withPatternTexts,
      toDocumentAll_withPatternTextsAll]

end

section

variable {ignoreCase : Bool} {k l : Connective} {fs gs : List Filter}
  {path path' collection collection' name name' : String} {op op' : Comparison} {v w : Literal}

theorem same_toDocument_combined_iff :
    ((combined k fs).toDocument ignoreCase).Same ((combined l gs).toDocument ignoreCase) ↔
      k = l ∧ JsonValue.SameItems (toDocumentAll ignoreCase fs) (toDocumentAll ignoreCase gs) := by
  have hkey : "$" ++ k.word = "$" ++ l.word ↔ k = l := by
    cases k <;> cases l <;> decide
  rw [toDocument, toDocument, JsonValue.same_singleton_iff, hkey, JsonValue.Same]

theorem same_toDocument_stored_iff :
    ((stored path op v).toDocument ignoreCase).Same ((stored path' op' w).toDocument ignoreCase) ↔
      path = path' ∧
        (testDocument ignoreCase op v).Same (testDocument ignoreCase op' w) := by
  rw [toDocument, toDocument, JsonValue.same_singleton_iff]

theorem same_toDocument_custom_iff :
    ((custom collection name op v).toDocument ignoreCase).Same
        ((custom collection' name' op' w).toDocument ignoreCase) ↔
      collection = collection' ∧ name = name' ∧
        (testDocument ignoreCase op v).Same (testDocument ignoreCase op' w) := by
  rw [toDocument, toDocument, JsonValue.same_singleton_iff, JsonValue.same_singleton_iff,
    JsonValue.same_pair_iff (by decide), JsonValue.same_text_iff]
  simp only [true_and]

/-- Behind the key of a test stands an object. -/
theorem exists_toDocument_stored_eq (ignoreCase : Bool) (path : String) (op : Comparison)
    (v : Literal) : ∃ ms, (stored path op v).toDocument ignoreCase =
      .object [(path, .object ms)] := by
  obtain ⟨ms, hms, -⟩ := exists_testDocument_eq ignoreCase op v
  exact ⟨ms, by rw [toDocument, hms]⟩

/-- Behind the key of a connective stands a list. -/
theorem not_same_toDocument_combined {d : JsonValue}
    (hd : ∃ key ms, d = .object [(key, .object ms)]) :
    ¬ ((combined k fs).toDocument ignoreCase).Same d ∧
      ¬ d.Same ((combined k fs).toDocument ignoreCase) := by
  obtain ⟨key, ms, rfl⟩ := hd
  have hlist := JsonValue.not_same_list_object (toDocumentAll ignoreCase fs) ms
  rw [toDocument, JsonValue.same_singleton_iff, JsonValue.same_singleton_iff]
  exact ⟨fun h => hlist.1 h.2, fun h => hlist.2 h.2⟩

theorem not_same_toDocument_stored :
    ¬ ((stored path op v).toDocument ignoreCase).Same
        ((custom collection name op' w).toDocument ignoreCase) ∧
      ¬ ((custom collection name op' w).toDocument ignoreCase).Same
        ((stored path op v).toDocument ignoreCase) := by
  have htest := not_same_elemMatch ignoreCase op v
    (.object [("name", .text name), ("value", testDocument ignoreCase op' w)])
  rw [toDocument, toDocument, JsonValue.same_singleton_iff, JsonValue.same_singleton_iff]
  exact ⟨fun h => htest.1 h.2, fun h => htest.2 h.2⟩

end

mutual

/-- By the constructors of both filters: one key stands at the top of either document, and what
stands behind it tells which constructor it is. -/
theorem withPatternTexts_eq_of_same (ignoreCase : Bool) : ∀ {f g : Filter}, f.IsDateless →
    g.IsDateless → (f.toDocument ignoreCase).Same (g.toDocument ignoreCase) →
      f.withPatternTexts = g.withPatternTexts
  | combined k fs, combined l gs, hf, hg, h => by
    obtain ⟨rfl, hitems⟩ := same_toDocument_combined_iff.1 h
    rw [withPatternTexts, withPatternTexts, withPatternTextsAll_eq_of_same ignoreCase hf hg hitems]
  | stored path op v, stored path' op' w, hf, hg, h => by
    obtain ⟨rfl, htest⟩ := same_toDocument_stored_iff.1 h
    have hv : ¬ v.IsDate := hf v List.mem_cons_self
    have hw : ¬ w.IsDate := hg w List.mem_cons_self
    obtain ⟨rfl, hvalue⟩ := (same_testDocument_iff ignoreCase hv hw).1 htest
    rw [withPatternTexts, withPatternTexts, hvalue]
  | custom collection name op v, custom collection' name' op' w, hf, hg, h => by
    obtain ⟨rfl, rfl, htest⟩ := same_toDocument_custom_iff.1 h
    have hv : ¬ v.IsDate := hf v List.mem_cons_self
    have hw : ¬ w.IsDate := hg w List.mem_cons_self
    obtain ⟨rfl, hvalue⟩ := (same_testDocument_iff ignoreCase hv hw).1 htest
    rw [withPatternTexts, withPatternTexts, hvalue]
  | combined k fs, stored path op v, _, _, h =>
    absurd h (not_same_toDocument_combined ⟨path, exists_toDocument_stored_eq ignoreCase ..⟩).1
  | combined k fs, custom collection name op v, _, _, h =>
    absurd h (not_same_toDocument_combined ⟨collection, _, rfl⟩).1
  | stored path op v, combined k fs, _, _, h =>
    absurd h (not_same_toDocument_combined ⟨path, exists_toDocument_stored_eq ignoreCase ..⟩).2
  | custom collection name op v, combined k fs, _, _, h =>
    absurd h (not_same_toDocument_combined ⟨collection, _, rfl⟩).2
  | stored path op v, custom collection name op' w, _, _, h =>
    absurd h not_same_toDocument_stored.1
  | custom collection name op v, stored path op' w, _, _, h =>
    absurd h not_same_toDocument_stored.2

theorem withPatternTextsAll_eq_of_same (ignoreCase : Bool) : ∀ {fs gs : List Filter},
    (∀ v ∈ valuesOfAll fs, ¬ v.IsDate) → (∀ v ∈ valuesOfAll gs, ¬ v.IsDate) →
      JsonValue.SameItems (toDocumentAll ignoreCase fs) (toDocumentAll ignoreCase gs) →
        withPatternTextsAll fs = withPatternTextsAll gs
  | [], [], _, _, _ => rfl
  | [], _ :: _, _, _, h => h.elim
  | _ :: _, [], _, _, h => h.elim
  | f :: fs, g :: gs, hfs, hgs, h => by
    rw [valuesOfAll, List.forall_mem_append] at hfs hgs
    rw [toDocumentAll, toDocumentAll, JsonValue.SameItems] at h
    rw [withPatternTextsAll, withPatternTextsAll,
      withPatternTexts_eq_of_same ignoreCase hfs.1 hgs.1 h.1,
      withPatternTextsAll_eq_of_same ignoreCase hfs.2 hgs.2 h.2]

end

/-- Filters without dates have the same document if and only if they differ at most in the values of
patterns, and there only by a number in the place of its digits. -/
theorem same_toDocument_iff (ignoreCase : Bool) {f g : Filter} (hf : f.IsDateless)
    (hg : g.IsDateless) : (f.toDocument ignoreCase).Same (g.toDocument ignoreCase) ↔
      f.withPatternTexts = g.withPatternTexts := by
  constructor
  · exact withPatternTexts_eq_of_same ignoreCase hf hg
  · intro h
    rw [← toDocument_withPatternTexts ignoreCase f, h, toDocument_withPatternTexts]
    exact JsonValue.same_refl _

/-- A path that is called like a connective, and a pattern that is a number. -/
theorem same_toDocument_iff_number :
    let f (pattern : Literal) : Filter := .combined .and [.stored "$and" .like pattern,
      .combined .or [], .custom "$and" "value" .eq (.integer 5)]
    (f (.integer 5)).IsDateless ∧ (f (.text "5")).IsDateless ∧ (f (.text "05")).IsDateless ∧
      ((f (.integer 5)).toDocument true).Same ((f (.text "5")).toDocument true) ∧
      ¬ ((f (.integer 5)).toDocument true).Same ((f (.text "05")).toDocument true) := by
  intro f
  have hf : ∀ v : Literal, ¬ v.IsDate → (f v).IsDateless := by
    intro v hv
    simpa [f, IsDateless, values, valuesOfAll, Literal.IsDate] using hv
  have hfive := hf (.integer 5) nofun
  have htext : ∀ s, (f (.text s)).IsDateless := fun s => hf (.text s) nofun
  refine ⟨hfive, htext "5", htext "05", ?_, ?_⟩
  · rw [same_toDocument_iff true hfive (htext "5")]
    decide
  · rw [same_toDocument_iff true hfive (htext "05")]
    decide

end Filter

end TicketQuery
