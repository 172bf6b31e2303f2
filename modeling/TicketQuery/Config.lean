import Std.Data.ExtTreeMap
import TicketQuery.JsonValue

/-! # Configuration

Where the fields of a ticket are stored, how text is matched, and how large a query may be. A field
with a configured path is found there; every other field is built in, and then stored under its own
name, or custom. Configured paths go by the exact name, built-in fields by the name in small
letters. -/
namespace TicketQuery

/-- Storage paths by field name. -/
abbrev FieldPaths := Std.ExtTreeMap String String compare

def FieldPaths.standard : FieldPaths :=
  .ofList [("status", "status.name"), ("statusCategory", "status.type"), ("key", "_id")]

/-- The largest query, in bytes and in levels of nesting. -/
structure Limits where
  maxLength : Nat := 4096
  maxDepth : Nat := 64
  deriving DecidableEq

structure Config where
  fieldPaths : FieldPaths := .standard
  /-- The name of the collection of custom fields. -/
  collection : String := "fields"
  ignoreCase : Bool := false
  table : String := "tickets"
  limits : Limits := {}
  deriving DecidableEq

/-- The small letter of a capital, as far as it is ASCII: U+212A is the sign of the unit kelvin. -/
def asciiSmall (c : Char) : Char := if c = '\u212a' then 'k' else c.toLower

/-- The fields that every ticket has, in small letters. -/
def builtInFields : List String :=
  ["createddate", "updateddate", "key", "summary", "description", "status", "reporter", "assignee",
    "type", "labels", "project"]

def isBuiltIn (field : String) : Bool := builtInFields.contains (field.map asciiSmall)

namespace Config

def path? (c : Config) (field : String) : Option String := c.fieldPaths[field]?

/-- The field is neither configured nor built in. -/
def IsCustom (c : Config) (field : String) : Prop :=
  c.fieldPaths[field]? = none ∧ field.map asciiSmall ∉ builtInFields

instance (c : Config) (field : String) : Decidable (c.IsCustom field) :=
  inferInstanceAs (Decidable (_ ∧ _))

theorem isCustom_iff {c : Config} {field : String} :
    c.IsCustom field ↔ c.path? field = none ∧ isBuiltIn field = false := by
  simp [IsCustom, path?, isBuiltIn]

theorem isBuiltIn_of_not_isCustom {c : Config} {field : String} (h : ¬ c.IsCustom field)
    (hp : c.path? field = none) : isBuiltIn field = true :=
  (Bool.eq_false_or_eq_true _).resolve_right fun hb => h (isCustom_iff.2 ⟨hp, hb⟩)

def limitsToJson (l : Limits) : JsonValue :=
  .object [("max_depth", .integer l.maxDepth), ("max_query_length", .integer l.maxLength)]

/-- The keys of every object are in ascending order. -/
def toJson (c : Config) : JsonValue :=
  .object [("case_insensitive_like", .boolean c.ignoreCase),
    ("custom_field_collection", .text c.collection),
    ("field_paths", .object (c.fieldPaths.toList.map fun p => (p.1, .text p.2))),
    ("limits", limitsToJson c.limits),
    ("table", .text c.table)]

end Config

end TicketQuery
