import TicketQuery.Config
import TicketQuery.JsonRecord

/-! # Reading a configuration

Every setting may be left out. Paths that are given add to the standard ones and replace those of
the same field; of equal keys among them the last one counts. -/
namespace TicketQuery

namespace JsonReader

def fieldPaths (stop : Nat) : JsonReader FieldPaths :=
  object stop .map
    (fun paths field => do
      colon stop
      return paths.insert field (← text stop))
    FieldPaths.standard

def limitSettings (stop : Nat) : List (JsonSetting Limits) :=
  [⟨"max_query_length", fun l => return { l with maxLength := ← size stop }⟩,
    ⟨"max_depth", fun l => return { l with maxDepth := ← size stop }⟩]

def configSettings (stop : Nat) : List (JsonSetting Config) :=
  [⟨"field_paths", fun c => return { c with fieldPaths := ← fieldPaths stop }⟩,
    ⟨"custom_field_collection", fun c => return { c with collection := ← text stop }⟩,
    ⟨"case_insensitive_like", fun c => return { c with ignoreCase := ← boolean stop }⟩,
    ⟨"table", fun c => return { c with table := ← text stop }⟩,
    ⟨"limits", fun c => return { c with limits := ← record stop .limits (limitSettings stop) {} }⟩]

def config (stop : Nat) : JsonReader Config := record stop .config (configSettings stop) {}

end JsonReader

/-- The configuration that a text holds and nothing else. -/
def Config.ofJsonText (text : String) : Except JsonFault Config :=
  match JsonReader.config text.utf8ByteSize (jsonTokens 0 text.toList) with
  | .error e => .error e
  | .ok r =>
    match r.rest with
    | [] => .ok r.value
    | t :: _ => t.refuse .trailingCharacters

end TicketQuery
