/-! # Where a run of characters ends -/
namespace TicketQuery

/-- The first character, if there is one, is outside the class. -/
def StartsOutside (p : Char → Bool) (cs : List Char) : Prop :=
  ∀ c rest, cs = c :: rest → p c = false

theorem startsOutside_nil (p : Char → Bool) : StartsOutside p [] := by
  rintro c rest ⟨⟩

theorem startsOutside_cons {p : Char → Bool} {c : Char} (hc : p c = false) (rest : List Char) :
    StartsOutside p (c :: rest) := by
  rintro d ds ⟨⟩
  exact hc

theorem startsOutside_append_of_head? {p : Char → Bool} {cs : List Char} {c : Char}
    (h : cs.head? = some c) (hc : p c = false) (rest : List Char) :
    StartsOutside p (cs ++ rest) := by
  obtain ⟨cs', rfl⟩ := List.head?_eq_some_iff.1 h
  rintro d ds ⟨⟩
  exact hc

theorem StartsOutside.of_append {p : Char → Bool} {cs rest : List Char}
    (h : StartsOutside p (cs ++ rest)) : StartsOutside p cs := by
  rintro c cs' rfl
  exact h c (cs' ++ rest) rfl

theorem StartsOutside.append {p : Char → Bool} {cs rest : List Char} (hc : StartsOutside p cs)
    (hr : StartsOutside p rest) : StartsOutside p (cs ++ rest) := by
  cases cs with
  | nil => exact hr
  | cons c cs =>
    rintro d ds ⟨⟩
    exact hc c cs rfl

theorem startsOutside_dropWhile (p : Char → Bool) (cs : List Char) :
    StartsOutside p (cs.dropWhile p) := by
  intro c rest h
  have := List.head?_dropWhile_not p cs
  rw [h] at this
  simpa using this

theorem takeWhile_append_of_startsOutside {p : Char → Bool} {cs rest : List Char}
    (h : ∀ c ∈ cs, p c = true) (hr : StartsOutside p rest) :
    (cs ++ rest).takeWhile p = cs ∧ (cs ++ rest).dropWhile p = rest := by
  rw [List.takeWhile_append_of_pos h, List.dropWhile_append_of_pos h]
  cases rest with
  | nil => simp
  | cons c rest => simp [hr c rest rfl]

/-- Characters behind a run that has ended do not change it. -/
theorem takeWhile_append_of_dropWhile {p : Char → Bool} {cs rest : List Char}
    (h : cs.dropWhile p ≠ [] ∨ StartsOutside p rest) :
    (cs ++ rest).takeWhile p = cs.takeWhile p ∧
      (cs ++ rest).dropWhile p = cs.dropWhile p ++ rest := by
  induction cs with
  | nil =>
    have hr : StartsOutside p rest := h.resolve_left fun h => h rfl
    exact takeWhile_append_of_startsOutside (by simp) hr
  | cons c cs ih =>
    by_cases hc : p c = true
    · simp only [List.dropWhile_cons, hc, if_true] at h
      simp [hc, ih h]
    · simp [hc]

theorem toList_repr_negSucc (n : Nat) :
    (Int.negSucc n).repr.toList = '-' :: (n + 1).repr.toList := by
  have h : (Int.negSucc n).repr = "-" ++ (n + 1).repr := rfl
  rw [h, String.toList_append]
  rfl

theorem isDigit_of_mem_repr {n : Nat} {c : Char} (h : c ∈ n.repr.toList) : c.isDigit = true := by
  rw [Nat.toList_repr] at h
  exact Nat.isDigit_of_mem_toDigits (by decide) (by decide) h

theorem exists_toString_eq_cons (n : Int) :
    ∃ c cs, (toString n).toList = c :: cs ∧ (c = '-' ∨ c.isDigit = true) := by
  cases n with
  | ofNat n =>
    obtain ⟨d, ds, hd⟩ := List.exists_cons_of_ne_nil (l := n.repr.toList)
      (by rw [Nat.toList_repr]; exact Nat.toDigits_ne_nil)
    exact ⟨d, ds, hd, .inr (isDigit_of_mem_repr (hd ▸ List.mem_cons_self))⟩
  | negSucc n => exact ⟨'-', _, toList_repr_negSucc n, .inl rfl⟩

/-- Nothing more, or a character that no word or number goes on with. -/
def Delimited (rest : List Char) : Prop := ∀ c cs, rest = c :: cs → c = ' ' ∨ c = ')'

theorem delimited_nil : Delimited [] := by
  rintro c cs ⟨⟩

theorem delimited_blank (rest : List Char) : Delimited (' ' :: rest) := by
  rintro c cs ⟨⟩
  exact .inl rfl

theorem delimited_closing (rest : List Char) : Delimited (')' :: rest) := by
  rintro c cs ⟨⟩
  exact .inr rfl

theorem Delimited.startsOutside {p : Char → Bool} {rest : List Char} (h : Delimited rest)
    (hb : p ' ' = false) (hc : p ')' = false) : StartsOutside p rest := by
  intro c cs he
  rcases h c cs he with rfl | rfl
  · exact hb
  · exact hc

theorem Delimited.append {cs ds : List Char} (hc : Delimited cs) (hd : Delimited ds) :
    Delimited (cs ++ ds) := by
  cases cs with
  | nil => exact hd
  | cons c cs =>
    rintro d rest ⟨⟩
    exact hc c cs rfl

/-- A text starts like its first piece. -/
theorem head?_toList_append {s t : String} {c : Char} (h : s.toList.head? = some c) :
    (s ++ t).toList.head? = some c := by
  rw [String.toList_append, List.head?_append, h]
  rfl

theorem delimited_of_head? {cs : List Char} {c : Char} (h : cs.head? = some c)
    (hc : c = ' ' ∨ c = ')') : Delimited cs := by
  rintro d rest rfl
  cases h
  exact hc

end TicketQuery
