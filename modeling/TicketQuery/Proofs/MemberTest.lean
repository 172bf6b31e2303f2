import TicketQuery.Proofs.TemplateFilling

/-! # The test of a member

Its template with the values in their places, whatever the values are. -/
namespace TicketQuery

def SqlValue.isInteger : SqlValue → Bool
  | integer _ => true
  | text _ => false

namespace SqlTest

/-- The test of a member up to its name. -/
def memberStart (numeric : Bool) : String :=
  if numeric then ") AS cf WHERE CASE WHEN cf->>'name' = " else ") AS cf WHERE cf->>'name' = "

/-- The test of a member between its name and the operator. -/
def memberMiddle (numeric : Bool) : String :=
  if numeric then
    " AND jsonb_typeof(cf->'value') = 'number' THEN CAST(cf->>'value' AS numeric) END "
  else " AND cf->>'value' "

/-- Pieces of a text put together in another way. -/
private theorem append_regroup {a b c d e f g h i j k : String} (h₁ : b ++ c = d ++ (e ++ f))
    (h₂ : g = h ++ i) : a ++ j ++ b ++ (c ++ k ++ g) ++ ")" =
      a ++ (j ++ (d ++ (e ++ (f ++ (k ++ (h ++ (i ++ ")"))))))) := by
  have hb : ∀ t, b ++ (c ++ t) = d ++ (e ++ (f ++ t)) := by
    intro t
    rw [← String.append_assoc, h₁]
    simp only [String.append_assoc]
  rw [h₂]
  simp only [String.append_assoc, hb]

theorem memberTemplate_eq (collection : String) (op : SqlOperator) (operand : SqlValue) :
    memberTemplate collection op operand = "EXISTS (SELECT 1 FROM jsonb_array_elements(" ++
      (sqlName collection ++ (memberStart operand.isInteger ++ ("$1" ++
        (memberMiddle operand.isInteger ++ (op.symbol ++ (" " ++ ("$2" ++ ")"))))))) := by
  have hlast : " $2" = " " ++ "$2" := by decide +kernel
  cases operand with
  | integer n =>
    have h : ") AS cf WHERE " ++
        ("CASE WHEN cf->>'name' = $1 AND jsonb_typeof(cf->'value') = 'number' " ++
          "THEN CAST(cf->>'value' AS numeric) END ") =
        ") AS cf WHERE CASE WHEN cf->>'name' = " ++ ("$1" ++
          " AND jsonb_typeof(cf->'value') = 'number' THEN CAST(cf->>'value' AS numeric) END ") := by
      decide +kernel
    exact append_regroup h hlast
  | text s =>
    have h : ") AS cf WHERE " ++ "cf->>'name' = $1 AND cf->>'value' " =
        ") AS cf WHERE cf->>'name' = " ++ ("$1" ++ " AND cf->>'value' ") := by
      decide +kernel
    exact append_regroup h hlast

theorem toSql_member {collection : String} (h : KeepsQuotes collection) (name : String)
    (op : SqlOperator) (operand : SqlValue) :
    (member collection name op operand).toSql =
      some ("EXISTS (SELECT 1 FROM jsonb_array_elements(" ++ (sqlName collection ++
        (memberStart operand.isInteger ++ (sqlString name ++ (memberMiddle operand.isInteger ++
          (op.symbol ++ (" " ++ (operand.toSql ++ ")")))))))) := by
  rw [toSql, memberTemplate_eq]
  generalize sqlString name = x
  generalize operand.toSql = y
  generalize operand.isInteger = numeric
  have hname : IsPlainBefore '$' (memberStart numeric) ∧
      (memberStart numeric).toList.head? = some ')' := by
    cases numeric <;> decide +kernel
  have hmiddle : (memberMiddle numeric).toList.head? = some ' ' ∧
      .sign '$' ∉ templateTokens (memberMiddle numeric).toList ∧
      (templateTokens (memberMiddle numeric).toList).getLast? = some (.blank [' ']) := by
    cases numeric <;> decide +kernel
  have hop : IsPlainBefore ' ' op.symbol := by
    cases op <;> decide +kernel
  obtain ⟨c, hopen, hc⟩ : ∃ c, op.symbol.toList.head? = some c ∧ isTemplateBlank c = false := by
    cases op <;> exact ⟨_, rfl, rfl⟩
  have hquote : (sqlName collection).toList.head? = some '"' := by
    rw [toList_sqlName]
    rfl
  have h₉ : fillTemplate ")" [x, y] = some ")" := by
    have hts : templateTokens ")".toList = [.sign ')'] := by decide +kernel
    rw [fillTemplate_eq, hts]
    rfl
  have h₈ : fillTemplate ("$2" ++ ")") [x, y] = some (y ++ ")") :=
    fillTemplate_mark rfl (by decide) (by decide : _ = some 2) rfl (by decide : _ = some ')')
      (by decide) h₉
  have h₇ : fillTemplate (" " ++ ("$2" ++ ")")) [x, y] = some (" " ++ (y ++ ")")) :=
    fillTemplate_append (by decide +kernel : IsPlainBefore '$' " ") (head?_toList_append rfl) h₈
  have h₆ := fillTemplate_append hop (head?_toList_append (s := " ") rfl) h₇
  have h₅ := fillTemplate_append (isPlainBefore_of_blank hmiddle.2.1 hmiddle.2.2 hc)
    (head?_toList_append hopen) h₆
  have h₄ := fillTemplate_mark (m := "$1") rfl (by decide) (by decide : _ = some 1) rfl
    (head?_toList_append hmiddle.1) (by decide) h₅
  have h₃ := fillTemplate_append hname.1 (head?_toList_append (s := "$1") rfl) h₄
  have h₂ := fillTemplate_sqlName h (head?_toList_append hname.2) (by decide) h₃
  have h₁ : IsPlainBefore '"' "EXISTS (SELECT 1 FROM jsonb_array_elements(" := by decide +kernel
  exact fillTemplate_append h₁ (head?_toList_append hquote) h₂

end SqlTest

end TicketQuery
