import TicketQuery.Query

/-! # The written form of queries

Every node stands in parentheses, so the text shows the tree. -/
namespace TicketQuery

def quote (s : String) : String := "\"" ++ s ++ "\""

def Literal.inQuery : Literal → String
  | integer n => toString n
  | text s => quote s
  | date t => quote t.inQuery

def Expr.inQuery : Expr → String
  | field name => name
  | literal v => v.inQuery
  | node op left right => "(" ++ left.inQuery ++ " " ++ op.symbol ++ " " ++ right.inQuery ++ ")"

def ModifierKind.keyword : ModifierKind → String
  | orderBy => "ORDER_BY"
  | limit => "LIMIT"

def Modifier.inQuery (m : Modifier) : String := m.kind.keyword ++ " " ++ m.operand.inQuery

def Query.inQuery (q : Query) : String :=
  (q.condition.map Expr.inQuery).getD "" ++
    String.join (q.modifiers.map fun m => " " ++ m.inQuery)

end TicketQuery
