import Mathlib.Data.List.Infix
import TicketQuery.SqlText

/-! # Texts that a pattern matches

A pattern is read as a row of items before it is matched. In it `%` is any text and `_` any
character, and a backslash makes the next character ordinary; a pattern that ends in a backslash
which escapes nothing is an error. The pattern of a literal has no such end, and it matches the
texts that contain the text of the literal. -/
namespace TicketQuery

inductive PatternItem where
  /-- Any number of characters. -/
  | anyText
  /-- Any one character. -/
  | anyChar
  | char (c : Char)
  deriving DecidableEq, Repr

namespace PatternItem

/-- The items of a pattern, none if nothing follows its last escape. -/
def ofPattern? : List Char → Option (List PatternItem)
  | [] => some []
  | ['\\'] => none
  | '\\' :: c :: cs => (ofPattern? cs).map (char c :: ·)
  | '%' :: cs => (ofPattern? cs).map (anyText :: ·)
  | '_' :: cs => (ofPattern? cs).map (anyChar :: ·)
  | c :: cs => (ofPattern? cs).map (char c :: ·)

/-- Whether the items match a whole text. What is left for the items behind `anyText` may be any end
of the text. -/
def matchesText : List PatternItem → List Char → Bool
  | [], cs => cs.isEmpty
  | anyText :: ps, cs => cs.tails.any (matchesText ps)
  | anyChar :: _, [] => false
  | anyChar :: ps, _ :: cs => matchesText ps cs
  | char _ :: _, [] => false
  | char d :: ps, c :: cs => d = c && matchesText ps cs

end PatternItem

/-- Whether a text is like a pattern, none if the pattern is an error. -/
def isLike? (text pattern : String) : Option Bool :=
  (PatternItem.ofPattern? pattern.toList).map fun ps => PatternItem.matchesText ps text.toList

example : isLike? "50 percent" "%0__er%" = some true := by decide +kernel
example : isLike? "10\\" "10\\" = none := by decide +kernel

namespace PatternItem

theorem ofPattern?_cons {c : Char} (h : ¬ (c = '%' ∨ c = '_' ∨ c = '\\')) (cs : List Char) :
    ofPattern? (c :: cs) = (ofPattern? cs).map (char c :: ·) := by
  simp only [not_or] at h
  rw [ofPattern?]
  all_goals simp [h]

/-- An escaped character is an ordinary one, whatever it means without the escape. -/
theorem ofPattern?_escapedInPattern_append (c : Char) (cs : List Char) :
    ofPattern? (escapedInPattern c ++ cs) = (ofPattern? cs).map (char c :: ·) := by
  unfold escapedInPattern
  split
  · rfl
  · next h => exact ofPattern?_cons h cs

theorem ofPattern?_flatMap_append (s cs : List Char) :
    ofPattern? (s.flatMap escapedInPattern ++ cs) =
      (ofPattern? cs).map (s.map char ++ ·) := by
  induction s with
  | nil => simp
  | cons c s ih =>
    rw [List.flatMap_cons, List.append_assoc, ofPattern?_escapedInPattern_append, ih,
      Option.map_map]
    rfl

/-- The items of the pattern of a literal. -/
theorem ofPattern?_containsPattern (v : Literal) :
    ofPattern? (containsPattern v).toList =
      some (anyText :: (v.patternText.toList.map char ++ [anyText])) := by
  rw [containsPattern, String.toList_ofList, ofPattern?, ofPattern?_flatMap_append]
  rfl

theorem matchesText_anyText_iff (ps : List PatternItem) (cs : List Char) :
    matchesText (anyText :: ps) cs ↔ ∃ rest, rest <:+ cs ∧ matchesText ps rest := by
  simp [matchesText]

theorem matchesText_anyText_nil (cs : List Char) : matchesText [anyText] cs = true :=
  (matchesText_anyText_iff [] cs).2 ⟨[], List.nil_suffix, rfl⟩

/-- Ordinary characters match themselves, at the start of the text. -/
theorem matchesText_map_char_append_iff (s : List Char) (ps : List PatternItem) (cs : List Char) :
    matchesText (s.map char ++ ps) cs ↔ ∃ rest, s ++ rest = cs ∧ matchesText ps rest := by
  induction s generalizing cs with
  | nil => simp
  | cons d s ih =>
    cases cs with
    | nil => simp [matchesText]
    | cons c cs => simp [matchesText, ih, and_assoc]

/-- Any text, then the characters, then any text: the characters stand somewhere in the text. -/
theorem matchesText_infix_iff (s cs : List Char) :
    matchesText (anyText :: (s.map char ++ [anyText])) cs ↔ s <:+: cs := by
  rw [matchesText_anyText_iff, List.infix_iff_prefix_suffix]
  simp only [matchesText_map_char_append_iff, matchesText_anyText_nil, and_true]
  exact exists_congr fun _ => and_comm

end PatternItem

/-- The pattern of a literal is never an error, and the texts that are like it are those in which
the text of the literal occurs: the literal itself, the digits of a number or the RFC 3339 form of a
date. -/
theorem isLike?_containsPattern (text : String) (v : Literal) :
    isLike? text (containsPattern v) = some (decide (v.patternText.toList <:+: text.toList)) ∧
      v.patternText =
        match v with
        | .text s => s
        | .integer n => toString n
        | .date t => t.secondsText ++ fractionText (t.nanos % 1000000000) ++ "+00:00" := by
  refine ⟨?_, by cases v <;> rfl⟩
  rw [isLike?, PatternItem.ofPattern?_containsPattern, Option.map_some, Option.some.injEq,
    Bool.eq_iff_iff, PatternItem.matchesText_infix_iff, decide_eq_true_iff]

example : isLike? "10%" (containsPattern (.text "0%")) = some true := by decide +kernel

end TicketQuery
