import TicketQuery.Proofs.Lowering

/-! # Storage that a query can reach

Names of fields are looked up before they are used, so a filter looks at the paths of the
configuration, the built-in fields and the members of the collection, and at nothing else. Its
document has no other keys either, apart from operators. -/
namespace TicketQuery

namespace Config

/-- The path of some field. -/
def Names (c : Config) (path : String) : Prop := ∃ field : String, c.fieldPaths[field]? = some path

/-- The paths that hold fields of the ticket itself: configured ones, and the names of built-in
fields in letters of any case. -/
def Stores (c : Config) (path : String) : Prop :=
  c.Names path ∨ path.map asciiSmall ∈ builtInFields

theorem stores_of_not_isCustom {c : Config} {field : String} (h : ¬ c.IsCustom field) :
    c.Stores ((c.fieldPaths[field]?).getD field) := by
  cases hp : c.fieldPaths[field]? with
  | some path => exact .inl ⟨field, hp⟩
  | none => exact .inr (by_contra fun hb => h ⟨hp, hb⟩)

end Config

/-- All that the filter looks at is stored in the ticket or among its custom fields. -/
inductive Filter.IsWithin (config : Config) : Filter → Prop where
  | combined (k : Connective) {fs : List Filter} (h : ∀ f ∈ fs, IsWithin config f) :
      IsWithin config (.combined k fs)
  | stored {path : String} (h : config.Stores path) (op : Comparison) (v : Literal) :
      IsWithin config (.stored path op v)
  | custom {name : String} (h : config.IsCustom name) (op : Comparison) (v : Literal) :
      IsWithin config (.custom config.collection name op v)

namespace Filter

theorem isWithin_ofComparison (config : Config) (field : String) (op : Comparison) (v : Literal) :
    (ofComparison config field op v).IsWithin config := by
  by_cases h : config.IsCustom field
  · rw [ofComparison_of_isCustom op v h]
    exact .custom h op v
  · rw [ofComparison_of_not_isCustom op v h]
    exact .stored (Config.stores_of_not_isCustom h) op v

theorem isWithin_ofExpr (config : Config) (e : Expr) :
    ∀ f, ofExpr config e = some f → f.IsWithin config := by
  induction e with
  | field | literal => exact nofun
  | node op left right ihl ihr =>
    intro f hf
    cases op with
    | connective k =>
      cases hf
      refine .combined k fun g hg => ?_
      rcases List.mem_append.1 hg with hg | hg
      · exact ihl g (Option.mem_toList.1 hg)
      · exact ihr g (Option.mem_toList.1 hg)
    | comparison c =>
      unfold ofExpr at hf
      split at hf
      · next h => cases h
      · next name v =>
        cases hf
        exact isWithin_ofComparison config _ _ _
      · cases hf

theorem isWithin_ofQuery {config : Config} {q : Query} {f : Filter}
    (h : ofQuery config q = some f) : f.IsWithin config := by
  obtain ⟨e, -, he⟩ := Option.bind_eq_some_iff.1 h
  exact isWithin_ofExpr config e f he

end Filter

namespace JsonValue

mutual

/-- The keys of all objects in a value. -/
def keys : JsonValue → List String
  | list items => keysOfAll items
  | object members => keysOfMembers members
  | integer _ | boolean _ | text _ => []

def keysOfAll : List JsonValue → List String
  | [] => []
  | v :: vs => v.keys ++ keysOfAll vs

def keysOfMembers : List (String × JsonValue) → List String
  | [] => []
  | (key, v) :: ms => key :: (v.keys ++ keysOfMembers ms)

end

theorem keysOfAll_eq_flatMap (vs : List JsonValue) : keysOfAll vs = vs.flatMap keys := by
  induction vs with
  | nil => rfl
  | cons v vs ih => rw [keysOfAll, ih, List.flatMap_cons]

end JsonValue

/-- The operators of the document store that filters are made of. -/
def documentOperators : List String :=
  ["$and", "$or", "$eq", "$ne", "$lt", "$gt", "$lte", "$gte", "$elemMatch", "$regex", "$options"]

/-- The names of the parts that a member of the collection has. -/
def memberKeys : List String := ["name", "value"]

/-- What may stand as a key in the document of a filter. -/
inductive Config.IsDocumentKey (c : Config) : String → Prop where
  | path {key : String} (h : c.Stores key) : IsDocumentKey c key
  | collection : IsDocumentKey c c.collection
  | member {key : String} (h : key ∈ memberKeys) : IsDocumentKey c key
  | operator {key : String} (h : key ∈ documentOperators) : IsDocumentKey c key

namespace Filter

theorem mem_documentOperators_of_testDocument (ignoreCase : Bool) (op : Comparison) (v : Literal) :
    ∀ key ∈ (testDocument ignoreCase op v).keys, key ∈ documentOperators := by
  have hv : v.toJson.keys = [] := by cases v <;> rfl
  have hword : op ≠ .like → "$" ++ op.word ∈ documentOperators := by cases op <;> decide
  unfold testDocument
  split
  · cases ignoreCase <;>
      simp [JsonValue.keys, JsonValue.keysOfMembers, documentOperators]
  · next hop =>
    simpa only [JsonValue.keys, JsonValue.keysOfMembers, hv, List.append_nil,
      List.forall_mem_singleton] using hword hop

theorem isDocumentKey_of_toDocument {config : Config} {f : Filter} (h : f.IsWithin config)
    (ignoreCase : Bool) : ∀ key ∈ (f.toDocument ignoreCase).keys, config.IsDocumentKey key := by
  induction h with
  | @combined k fs _ ih =>
    have hk : "$" ++ k.word ∈ documentOperators := by cases k <;> decide
    simp only [toDocument, toDocumentAll_eq_map, JsonValue.keys, JsonValue.keysOfMembers,
      JsonValue.keysOfAll_eq_flatMap, List.append_nil, List.forall_mem_cons]
    refine ⟨.operator hk, fun key hkey => ?_⟩
    obtain ⟨_, hm, hkey⟩ := List.mem_flatMap.1 hkey
    obtain ⟨f, hf, rfl⟩ := List.mem_map.1 hm
    exact ih f hf key hkey
  | stored h op v =>
    simp only [toDocument, JsonValue.keys, JsonValue.keysOfMembers, List.append_nil,
      List.forall_mem_cons]
    exact ⟨.path h, fun key hkey =>
      .operator (mem_documentOperators_of_testDocument _ op v key hkey)⟩
  | custom h op v =>
    simp only [toDocument, JsonValue.keys, JsonValue.keysOfMembers, List.append_nil,
      List.nil_append, List.forall_mem_cons]
    exact ⟨.collection, .operator (by decide), .member (by decide), .member (by decide),
      fun key hkey => .operator (mem_documentOperators_of_testDocument _ op v key hkey)⟩

end Filter

/-- A key that a query could do harm with: an operator of the document store that filters are not
made of, or a path into a part of the ticket. -/
def IsForeignKey (key : String) : Prop :=
  key.toList.head? = some '$' ∧ key ∉ documentOperators ∨ '.' ∈ key.toList

/-- The names of built-in fields are plain words. -/
theorem not_isForeignKey_of_builtIn {key : String} (h : key.map asciiSmall ∈ builtInFields) :
    ¬ IsForeignKey key := by
  have hplain : ∀ name ∈ builtInFields, name.toList.head? ≠ some '$' ∧ '.' ∉ name.toList := by
    decide
  obtain ⟨hdollar, hdot⟩ := hplain _ h
  rw [String.toList_map] at hdollar hdot
  rintro (⟨hd, -⟩ | hd)
  · rw [List.head?_map, hd] at hdollar
    exact hdollar rfl
  · exact hdot (List.mem_map.2 ⟨'.', hd, rfl⟩)

/-- Such a key only stands in a document if the configuration has it. -/
theorem Config.IsDocumentKey.names_or_eq {c : Config} {key : String} (h : c.IsDocumentKey key)
    (hf : IsForeignKey key) : c.Names key ∨ key = c.collection := by
  cases h with
  | path h => exact .inl (h.resolve_right fun hb => not_isForeignKey_of_builtIn hb hf)
  | collection => exact .inr rfl
  | member h =>
    have hplain : ∀ key ∈ memberKeys, key.toList.head? ≠ some '$' ∧ '.' ∉ key.toList := by decide
    exact absurd hf fun hf => hf.elim (fun hd => (hplain key h).1 hd.1) (hplain key h).2
  | operator h =>
    have hplain : ∀ key ∈ documentOperators, '.' ∉ key.toList := by decide
    exact absurd hf fun hf => hf.elim (fun hd => hd.2 h) (hplain key h)

end TicketQuery
