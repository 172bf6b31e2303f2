import TicketQuery.Lexer
import TicketQuery.Parser

/-! # Queries that the language can write

Conditions compare a field with a literal and are combined by connectives. Names of fields are words
that are no keywords, integers are those of 63 bits, strings have no quote in them, and there are no
dates. -/
namespace TicketQuery

/-- A non-empty word that is no keyword in whatever letters. -/
structure IsFieldName (name : String) : Prop where
  ne_nil : name.toList ≠ []
  isIdentChar : ∀ c ∈ name.toList, isIdentChar c = true
  not_keyword : name.toList.map Char.toLower ∉ TokenKind.keywords.map Prod.fst

def Literal.IsWritable : Literal → Prop
  | integer n => 0 ≤ n ∧ n ≤ maxInteger
  | text s => '"' ∉ s.toList
  | date _ => False

/-- Comparisons of a field with a literal, and conditions linked by a connective. -/
inductive Expr.IsCondition : Expr → Prop where
  | comparison {c : Comparison} {name : String} {v : Literal} (hn : IsFieldName name)
      (hv : v.IsWritable) : IsCondition (.node (.comparison c) (.field name) (.literal v))
  | connective {k : Connective} {left right : Expr} (hl : IsCondition left)
      (hr : IsCondition right) : IsCondition (.node (.connective k) left right)

inductive Expr.IsWritable : Expr → Prop where
  | field {name : String} (hn : IsFieldName name) : IsWritable (.field name)
  | literal {v : Literal} (hv : v.IsWritable) : IsWritable (.literal v)
  | condition {e : Expr} (he : e.IsCondition) : IsWritable e

/-- A sort order of a field, or a limit. -/
inductive Modifier.IsWritable : Modifier → Prop where
  | orderBy {name : String} (hn : IsFieldName name) : IsWritable ⟨.orderBy, .field name⟩
  | limit {n : Int} (hn : (Literal.integer n).IsWritable) :
      IsWritable ⟨.limit, .literal (.integer n)⟩

structure Query.IsWritable (q : Query) : Prop where
  condition : ∀ e, q.condition = some e → e.IsWritable
  modifiers : ∀ m ∈ q.modifiers, m.IsWritable

theorem IsFieldName.ofWord_eq {name : String} (h : IsFieldName name) :
    TokenKind.ofWord name.toList = .ident := by
  have hl : TokenKind.keywords.lookup (name.toList.map Char.toLower) = none := by
    rw [List.lookup_eq_none_iff]
    intro p hp
    exact bne_iff_ne.2 fun hk => h.not_keyword (hk ▸ List.mem_map_of_mem hp)
  rw [TokenKind.ofWord, hl]
  rfl

theorem Expr.IsCondition.isNode {e : Expr} (h : e.IsCondition) : e.isNode = true := by
  cases h <;> rfl

end TicketQuery
