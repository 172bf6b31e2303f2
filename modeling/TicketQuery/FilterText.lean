import TicketQuery.Filter
import TicketQuery.QueryText

/-! # Filters as JSON

The plain form names its parts. The document form is a query of a document store: operators start
with `$`, and the place of a value is a key. The keys of every document are in ascending order. -/
namespace TicketQuery

def Connective.word : Connective → String
  | .and => "and" | .or => "or"

def Literal.toJson : Literal → JsonValue
  | integer n => .integer n
  | text s => .text s
  | date t => .text t.inJson

/-- The text that a literal stands for in patterns. -/
def Literal.patternText : Literal → String
  | integer n => toString n
  | text s => s
  | date t => t.inPattern

namespace Filter

mutual

def toJson : Filter → JsonValue
  | combined k fs => .object [(k.word, .list (toJsonAll fs))]
  | stored path op v =>
    .object [("compare",
      .object [("path", .text path), ("op", .text op.word), ("value", v.toJson)])]
  | custom collection name op v =>
    .object [("custom_field",
      .object [("collection", .text collection), ("name", .text name), ("op", .text op.word),
        ("value", v.toJson)])]

def toJsonAll : List Filter → List JsonValue
  | [] => []
  | f :: fs => f.toJson :: toJsonAll fs

end

/-- What a value has to pass: a pattern, or a comparison. -/
def testDocument (ignoreCase : Bool) (op : Comparison) (v : Literal) : JsonValue :=
  if op = .like then
    .object ((if ignoreCase then [("$options", .text "i")] else []) ++
      [("$regex", .text v.patternText)])
  else .object [("$" ++ op.word, v.toJson)]

mutual

def toDocument (ignoreCase : Bool) : Filter → JsonValue
  | combined k fs => .object [("$" ++ k.word, .list (toDocumentAll ignoreCase fs))]
  | stored path op v => .object [(path, testDocument ignoreCase op v)]
  | custom collection name op v =>
    .object [(collection,
      .object [("$elemMatch",
        .object [("name", .text name), ("value", testDocument ignoreCase op v)])])]

def toDocumentAll (ignoreCase : Bool) : List Filter → List JsonValue
  | [] => []
  | f :: fs => f.toDocument ignoreCase :: toDocumentAll ignoreCase fs

end

theorem toDocumentAll_eq_map (ignoreCase : Bool) (fs : List Filter) :
    toDocumentAll ignoreCase fs = fs.map (toDocument ignoreCase) := by
  induction fs with
  | nil => rfl
  | cons f fs ih => simp [toDocumentAll, ih]

end Filter

end TicketQuery
