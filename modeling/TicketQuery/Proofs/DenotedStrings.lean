import TicketQuery.JsonText
import TicketQuery.Proofs.SqlScanner

/-! # What strings of SQL stand for

How PostgreSQL reads what stands between the quotes of a string. Two quotes are one. After an `E` a
backslash makes some letters control characters and digits the code of a character; any other
character behind it is that character. Codes that are only a part of a character are refused, and so
is the code zero.

A string value without U+0000 is read as it was before it was written, apart from U+001A, which is
written with the letter `z` behind a backslash and read as that letter. -/
namespace TicketQuery

namespace SqlString

def digit? (base : Nat) (c : Char) : Option Nat := (JsonText.hexDigit? c).filter (· < base)

def leadingDigits (base : Nat) : (most : Nat) → List Char → List Nat
  | most + 1, c :: cs =>
    match digit? base c with
    | some d => d :: leadingDigits base most cs
    | none => []
  | _, _ => []

/-- No text has the character of code zero, and the halves of surrogate pairs are no characters. -/
def codeChar? (bound code : Nat) : Option Char :=
  if 0 < code ∧ code < bound ∧ code.isValidChar then some (Char.ofNat code) else none

/-- The character of a code with at least and at most so many digits, and what follows it. -/
def readCode (base least most bound : Nat) (cs : List Char) : Option (Char × List Char) :=
  let digits := leadingDigits base most cs
  if digits.length < least then none
  else (codeChar? bound (digits.foldl (base * · + ·) 0)).map (·, cs.drop digits.length)

def controlChar? (c : Char) : Option Char :=
  match c with
  | 'b' => some '\x08'
  | 'f' => some '\x0c'
  | 'n' => some '\n'
  | 'r' => some '\r'
  | 't' => some '\t'
  | _ => none

/-- What follows a backslash. Octal codes and those after `x` are bytes. -/
def readEscape : List Char → Option (Char × List Char)
  | [] => none
  | c :: cs =>
    if (digit? 8 c).isSome then readCode 8 1 3 0x80 (c :: cs)
    else if c = 'x' ∧ leadingDigits 16 1 cs ≠ [] then readCode 16 1 2 0x80 cs
    else if c = 'u' then readCode 16 4 4 0x10000 cs
    else if c = 'U' then readCode 16 8 8 0x110000 cs
    else some ((controlChar? c).getD c, cs)

/-- The first character that is meant, and what follows it. -/
def readChar (escapes : Bool) (c : Char) (cs : List Char) : Option (Char × List Char) :=
  if c = '\x27' then if cs.head? = some '\x27' then some (c, cs.tail) else none
  else if escapes ∧ c = '\\' then readEscape cs
  else some (c, cs)

theorem length_readCode_le {base least most bound : Nat} {cs : List Char} {r : Char × List Char}
    (h : readCode base least most bound cs = some r) : r.2.length ≤ cs.length := by
  unfold readCode at h
  dsimp only at h
  split at h
  · cases h
  · obtain ⟨d, -, rfl⟩ := Option.map_eq_some_iff.1 h
    simp

theorem length_readEscape_le {cs : List Char} {r : Char × List Char}
    (h : readEscape cs = some r) : r.2.length ≤ cs.length := by
  cases cs with
  | nil => cases h
  | cons c cs =>
    rw [readEscape] at h
    have hcode : ∀ {base least most bound : Nat},
        readCode base least most bound cs = some r → r.2.length ≤ (c :: cs).length :=
      fun h => Nat.le_succ_of_le (length_readCode_le h)
    split at h
    · exact length_readCode_le h
    split at h
    · exact hcode h
    split at h
    · exact hcode h
    split at h
    · exact hcode h
    · cases h
      exact Nat.le_succ _

theorem length_readChar_le {escapes : Bool} {c : Char} {cs : List Char} {r : Char × List Char}
    (h : readChar escapes c cs = some r) : r.2.length ≤ cs.length := by
  unfold readChar at h
  split at h
  · split at h
    · cases h
      simp
    · cases h
  split at h
  · exact length_readEscape_le h
  · cases h
    exact Nat.le_refl _

/-- The text that the content of a string stands for. -/
def read (escapes : Bool) : List Char → Option (List Char)
  | [] => some []
  | c :: cs =>
    match _h : readChar escapes c cs with
    | none => none
    | some (d, rest) => (read escapes rest).map (d :: ·)
termination_by cs => cs.length
decreasing_by
  have := length_readChar_le ‹_›
  simp only [List.length_cons] at this ⊢
  omega

end SqlString

/-- The text that a string token stands for, none if it is malformed. -/
def SqlToken.denoted? : SqlToken → Option String
  | string escapes content => (SqlString.read escapes content).map String.ofList
  | _ => none

example : (SqlToken.string true "\\t\\101\\x2b\\u20ac\\\\\\'''\\q".toList).denoted? =
    some "\tA+\u20ac\\''q" := by decide +kernel
example : (SqlToken.string true "\\0".toList).denoted? = none := by decide +kernel
example : (SqlToken.string false "\\t''".toList).denoted? = some "\\t'" := by decide +kernel

/-- What is read for a character that has been written. -/
def readBack (c : Char) : Char := if c = '\x1a' then 'z' else c

theorem map_readBack_eq_iff (s : String) : s.map readBack = s ↔ '\x1a' ∉ s.toList := by
  have hc : ∀ c, readBack c = c ↔ '\x1a' ≠ c := by
    intro c
    unfold readBack
    split
    · next h =>
      subst h
      decide
    · next h => exact ⟨fun _ he => h he.symm, fun _ => rfl⟩
  have hmap := List.map_inj_left (l := s.toList) (f := readBack) (g := id)
  simp only [List.map_id, id_eq, hc] at hmap
  rw [← String.toList_inj, String.toList_map, hmap]
  exact ⟨fun h hm => h _ hm rfl, fun h c hm he => h (he ▸ hm)⟩

namespace SqlString

theorem read_cons {escapes : Bool} {c d : Char} {cs rest : List Char}
    (h : readChar escapes c cs = some (d, rest)) :
    read escapes (c :: cs) = (read escapes rest).map (d :: ·) := by
  rw [read]
  split
  · next h' => cases h'.symm.trans h
  · next h' =>
    cases h'.symm.trans h
    rfl

/-- A character is written as itself or with a letter or sign that no digits belong to. -/
theorem read_sqlEscapedChar_append {escapes : Bool} {c : Char} (hc : c ≠ '\x00')
    (h : '\\' ∈ sqlEscapedChar c → escapes = true) (cs : List Char) :
    read escapes (sqlEscapedChar c ++ cs) = (read escapes cs).map (readBack c :: ·) := by
  rcases sqlEscapedChar_cases c with ⟨he, hq, hb⟩ | ⟨d, he⟩
  · have hz : c ≠ '\x1a' := by
      rintro rfl
      cases he
    have hr : readChar escapes c cs = some (c, cs) := by
      simp [readChar, hq, hb]
    rw [he, readBack, if_neg hz]
    exact read_cons hr
  · obtain rfl : escapes = true := h (by simp [he])
    have hr : readEscape (d :: cs) = some (readBack c, cs) := by
      unfold sqlEscapedChar at he
      split at he <;> cases he
      all_goals first
        | rfl
        | exact absurd rfl hc
    rw [he]
    exact read_cons (c := '\\') hr

/-- A written text is read character by character, with or without escapes if it has no
backslash. -/
theorem read_flatMap {escapes : Bool} {cs : List Char} (hc : '\x00' ∉ cs)
    (h : '\\' ∈ cs.flatMap sqlEscapedChar → escapes = true) :
    read escapes (cs.flatMap sqlEscapedChar) = some (cs.map readBack) := by
  induction cs with
  | nil =>
    rw [List.flatMap_nil, read]
    rfl
  | cons c cs ih =>
    simp only [List.mem_cons, not_or] at hc
    simp only [List.flatMap_cons, List.mem_append] at h
    have hne : c ≠ '\x00' := fun he => hc.1 he.symm
    rw [List.flatMap_cons, read_sqlEscapedChar_append hne fun he => h (.inl he),
      ih hc.2 fun he => h (.inr he)]
    rfl

end SqlString

/-- What the string of a value stands for. Only U+001A is not read back. -/
theorem SqlToken.denoted?_ofString {s : String} (h : '\x00' ∉ s.toList) :
    (ofString s).denoted? = some (s.map readBack) := by
  have hread : SqlString.read (decide ('\\' ∈ sqlEscaped s)) (sqlEscaped s) =
      some (s.toList.map readBack) :=
    SqlString.read_flatMap h fun hb => decide_eq_true hb
  rw [ofString, denoted?, hread, Option.map_some, ← String.toList_map, String.ofList_toList]

end TicketQuery
