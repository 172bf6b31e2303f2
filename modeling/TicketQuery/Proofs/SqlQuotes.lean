import TicketQuery.SqlText

/-! # The characters of quoted names and strings -/
namespace TicketQuery

/-- Every quote written twice. -/
def doubledQuotes (cs : List Char) : List Char :=
  cs.flatMap fun c => if c = '"' then ['"', '"'] else [c]

theorem doubledQuotes_cons_of_ne {c : Char} (h : c ≠ '"') (cs : List Char) :
    doubledQuotes (c :: cs) = c :: doubledQuotes cs := by
  simp [doubledQuotes, h]

theorem doubledQuotes_append (cs ds : List Char) :
    doubledQuotes (cs ++ ds) = doubledQuotes cs ++ doubledQuotes ds := List.flatMap_append

theorem doubledQuotes_of_not_mem {cs : List Char} (h : '"' ∉ cs) : doubledQuotes cs = cs := by
  induction cs with
  | nil => rfl
  | cons c cs ih =>
    simp only [List.mem_cons, not_or] at h
    rw [doubledQuotes_cons_of_ne fun he => h.1 he.symm, ih h.2]

theorem cons_eq_doubledQuotes {c : Char} {us cs : List Char} (h : c :: us = doubledQuotes cs) :
    ∃ cs', if c = '"' then us = '"' :: doubledQuotes cs' else us = doubledQuotes cs' := by
  cases cs with
  | nil => cases h
  | cons d cs =>
    refine ⟨cs, ?_⟩
    by_cases hd : d = '"'
    · subst hd
      obtain ⟨rfl, rfl⟩ := List.cons.inj h
      rw [if_pos rfl]
      rfl
    · rw [doubledQuotes_cons_of_ne hd] at h
      obtain ⟨rfl, rfl⟩ := List.cons.inj h
      rw [if_neg hd]

theorem append_eq_doubledQuotes {w us cs : List Char} (hw : '"' ∉ w)
    (h : w ++ us = doubledQuotes cs) : ∃ cs', us = doubledQuotes cs' := by
  induction w generalizing cs with
  | nil => exact ⟨cs, h⟩
  | cons c w ih =>
    simp only [List.mem_cons, not_or] at hw
    obtain ⟨cs', hcs⟩ := cons_eq_doubledQuotes h
    rw [if_neg fun he => hw.1 he.symm] at hcs
    exact ih hw.2 hcs

theorem toList_sqlName (name : String) :
    (sqlName name).toList = '"' :: (doubledQuotes name.toList ++ ['"']) := String.toList_ofList

/-- What stands between the quotes of a string. -/
def sqlEscaped (s : String) : List Char := s.toList.flatMap sqlEscapedChar

theorem toList_sqlString (s : String) : (sqlString s).toList =
    (if '\\' ∈ sqlEscaped s then ['E'] else []) ++ '\x27' :: (sqlEscaped s ++ ['\x27']) :=
  String.toList_ofList

/-- A quote or a backslash only stands behind a backslash. -/
theorem sqlEscapedChar_cases (c : Char) :
    sqlEscapedChar c = [c] ∧ c ≠ '\x27' ∧ c ≠ '\\' ∨ ∃ d, sqlEscapedChar c = ['\\', d] := by
  unfold sqlEscapedChar
  split <;> simp_all

theorem quote_not_mem_sqlString {s : String} (h : '"' ∉ s.toList) : '"' ∉ (sqlString s).toList := by
  have hc : ∀ c ∈ s.toList, '"' ∉ sqlEscapedChar c := by
    intro c hc
    have hne : '"' ≠ c := fun he => h (he ▸ hc)
    unfold sqlEscapedChar
    split <;> simp_all
  have hs : '"' ∉ sqlEscaped s := by
    simp only [sqlEscaped, List.mem_flatMap, not_exists, not_and]
    exact hc
  rw [toList_sqlString]
  split <;> simp [hs]

end TicketQuery
