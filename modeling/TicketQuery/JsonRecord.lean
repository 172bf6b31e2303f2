import TicketQuery.JsonSkip

/-! # Reading records of settings

A record has settings with keys and starts from a value that holds for whatever the text leaves out.
It is written as an object, or as the list of its settings in their order, which may end early. In
an object a key that is no setting is passed over with its value, and no setting may be given twice.
-/
namespace TicketQuery

/-- A key, and how reading its value changes the record. -/
structure JsonSetting (α : Type) where
  key : String
  read : α → JsonReader α

/-- A record as far as it has been read, and the keys of the settings that were given. -/
structure JsonDraft (α : Type) where
  record : α
  given : List String

namespace JsonReader

/-- A key that was given before is reported where reading would go on. -/
def duplicate {α : Type} (stop : Nat) (key : String) : JsonReader α
  | [] => .error ⟨.duplicateKey key, stop⟩
  | t :: _ =>
    match t.kind with
    | .endObject => t.reject (.duplicateKey key)
    | _ => .error ⟨.duplicateKey key, t.start⟩

/-- A member of a record, from behind its key. -/
def recordMember {α : Type} (stop : Nat) (settings : List (JsonSetting α)) (d : JsonDraft α)
    (key : String) : JsonReader (JsonDraft α) :=
  match settings.find? fun s => s.key = key with
  | none => do
    colon stop
    skip stop
    pure d
  | some s =>
    if key ∈ d.given then duplicate stop key
    else do
      colon stop
      return ⟨← s.read d.record, key :: d.given⟩

/-- The settings of a record that is written as a list, one after the other. -/
def recordItems {α : Type} (stop : Nat) : List (JsonSetting α) → Bool → α → JsonReader α
  | [], _, a => pure a
  | s :: settings, first, a => do
    if ← hasElement stop first then recordItems stop settings false (← s.read a) else pure a

/-- The settings of a record as a list, from behind its opening bracket. -/
def recordList {α : Type} (stop : Nat) (settings : List (JsonSetting α)) (a : α) :
    JsonReader α := do
  let a ← recordItems stop settings true a
  endOfList stop
  pure a

def recordObject {α : Type} (stop : Nat) (expected : JsonShape) (settings : List (JsonSetting α))
    (a : α) : JsonReader α := do
  return (← object stop expected (recordMember stop settings) ⟨a, []⟩).record

/-- A record, written as an object or as the list of its settings. -/
def record {α : Type} (stop : Nat) (expected : JsonShape) (settings : List (JsonSetting α))
    (a : α) : JsonReader α
  | [] => .error (valueEnds stop)
  | t :: ts =>
    match t.kind with
    | .beginList =>
      match recordList stop settings a ts with
      | .error e => .error e
      | .ok r => .ok ⟨r.value, r.rest, Nat.le_succ_of_le r.length_rest_le⟩
    | _ => recordObject stop expected settings a (t :: ts)

end JsonReader

end TicketQuery
