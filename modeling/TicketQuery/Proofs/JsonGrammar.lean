import Mathlib.Data.List.Forall2
import TicketQuery.Proofs.JsonScalarText

/-! # The grammar of JSON

A tree holds all that is written for a value but for the blanks, in the form in which it is written:
a text with its escapes, a number with its digits, an object with its members in their order and
with keys that are given again. What the grammar forbids cannot be built. -/
namespace TicketQuery

open JsonNumber (isNumberChar natOf)
open JsonText (hexDigit? simpleEscapes isHighSurrogate isLowSurrogate surrogatePair)

structure HexDigit where
  char : Char
  isSome : (hexDigit? char).isSome

def HexDigit.value (d : HexDigit) : ℕ := (hexDigit? d.char).get d.isSome

/-- The four digits of an escape by number. -/
structure HexEscape where
  first : HexDigit
  second : HexDigit
  third : HexDigit
  fourth : HexDigit

namespace HexEscape

def source (e : HexEscape) : List Char :=
  [e.first.char, e.second.char, e.third.char, e.fourth.char]

/-- A code point, or a half of one. -/
def unit (e : HexEscape) : ℕ :=
  16 * (16 * (16 * e.first.value + e.second.value) + e.third.value) + e.fourth.value

end HexEscape

/-- What is written for a character of a text, or for a half of one. -/
inductive TextPiece where
  | plain (c : Char) (h : c ≠ '"' ∧ c ≠ '\\' ∧ ¬ c.toNat < 0x20)
  | escape (letter c : Char) (h : simpleEscapes.lookup letter = some c)
  | number (e : HexEscape)

def TextPiece.source : TextPiece → List Char
  | plain c _ => [c]
  | escape letter _ _ => ['\\', letter]
  | number e => '\\' :: 'u' :: e.source

/-- A text as it is written between its quotes. -/
abbrev TextLiteral : Type := List TextPiece

namespace TextLiteral

def source (t : TextLiteral) : List Char := t.flatMap TextPiece.source

/-- The text as it is, where nothing has to be escaped. -/
def plain (s : String)
    (h : (s.toList.all fun c => c ≠ '"' ∧ c ≠ '\\' ∧ ¬ c.toNat < 0x20) = true) : TextLiteral :=
  s.toList.pmap TextPiece.plain fun c hc => of_decide_eq_true (List.all_eq_true.1 h c hc)

/-- The characters that are denoted. Surrogates must come in pairs, and each pair is one of them. -/
def chars? : TextLiteral → Option (List Char)
  | [] => some []
  | .plain c _ :: t | .escape _ c _ :: t => (chars? t).map (c :: ·)
  | .number e :: t =>
    if isLowSurrogate e.unit then none
    else if isHighSurrogate e.unit then
      match t with
      | .number e' :: t =>
        if isLowSurrogate e'.unit then
          (chars? t).map (Char.ofNat (surrogatePair e.unit e'.unit) :: ·)
        else none
      | _ => none
    else (chars? t).map (Char.ofNat e.unit :: ·)

theorem chars?_of_low {e : HexEscape} (h : isLowSurrogate e.unit = true) (t : TextLiteral) :
    chars? (.number e :: t) = none := by
  unfold chars?
  simp only [h, if_true]

theorem chars?_of_not_surrogate {e : HexEscape} (hl : ¬ isLowSurrogate e.unit = true)
    (hh : ¬ isHighSurrogate e.unit = true) (t : TextLiteral) :
    chars? (.number e :: t) = t.chars?.map (Char.ofNat e.unit :: ·) := by
  rw [chars?.eq_def]
  simp only [hl, hh, Bool.false_eq_true, if_false]

def text? (t : TextLiteral) : Option String := t.chars?.map String.ofList

end TextLiteral

def IsDigits (ds : List Char) : Prop := ds ≠ [] ∧ ∀ d ∈ ds, d.isDigit = true

structure ExponentLiteral where
  letter : Char
  sign : Option Char
  digits : List Char
  letter_eq : letter = 'e' ∨ letter = 'E'
  sign_eq : ∀ c ∈ sign, c = '+' ∨ c = '-'
  isDigits : IsDigits digits

def ExponentLiteral.source (e : ExponentLiteral) : List Char :=
  e.letter :: (e.sign.toList ++ e.digits)

structure NumberLiteral where
  negative : Bool
  whole : List Char
  /-- The digits behind the point, if there is one. -/
  fraction : Option (List Char)
  exponent : Option ExponentLiteral
  isDigits_whole : IsDigits whole
  whole_eq : whole.head? = some '0' → whole = ['0']
  isDigits_fraction : ∀ ds ∈ fraction, IsDigits ds

namespace NumberLiteral

def source (n : NumberLiteral) : List Char :=
  (if n.negative then ['-'] else []) ++
    (n.whole ++ (n.fraction.elim [] ('.' :: ·) ++ n.exponent.elim [] ExponentLiteral.source))

/-- The value as a size, if it is one: digits and nothing else, and 64 bits are enough. -/
def size? (n : NumberLiteral) : Option ℕ :=
  if n.negative = false ∧ n.fraction.isNone ∧ n.exponent.isNone ∧ natOf n.whole < 2 ^ 64 then
    some (natOf n.whole)
  else none

end NumberLiteral

/-- A value that is one token. -/
inductive JsonLeaf where
  | null
  | boolean (b : Bool)
  | number (n : NumberLiteral)
  | text (t : TextLiteral)

inductive JsonTree where
  | leaf (l : JsonLeaf)
  | list (items : List JsonTree)
  | object (members : List (TextLiteral × JsonTree))

inductive JsonMark where
  | beginObject | endObject | beginList | endList | colon | comma
  | leaf (l : JsonLeaf)

def JsonLeaf.source : JsonLeaf → List Char
  | null => "null".toList
  | boolean b => (if b then "true" else "false").toList
  | number n => n.source
  | text t => '"' :: (t.source ++ ['"'])

namespace JsonMark

def source : JsonMark → List Char
  | beginObject => ['\x7b']
  | endObject => ['\x7d']
  | beginList => ['[']
  | endList => [']']
  | colon => [':']
  | comma => [',']
  | leaf l => l.source

/-- What separates an item or a member from the one before it. -/
def separator (first : Bool) : List JsonMark := if first then [] else [comma]

end JsonMark

namespace JsonTree

mutual

/-- The tokens of a value. -/
def marks : JsonTree → List JsonMark
  | leaf l => [.leaf l]
  | list items => .beginList :: (itemMarks true items ++ [.endList])
  | object members => .beginObject :: (memberMarks true members ++ [.endObject])

def itemMarks (first : Bool) : List JsonTree → List JsonMark
  | [] => []
  | x :: xs => JsonMark.separator first ++ (x.marks ++ itemMarks false xs)

def memberMarks (first : Bool) : List (TextLiteral × JsonTree) → List JsonMark
  | [] => []
  | (t, x) :: ms =>
    JsonMark.separator first ++ .leaf (.text t) :: .colon :: (x.marks ++ memberMarks false ms)

end

theorem itemMarks_cons_append (first : Bool) (x : JsonTree) (xs : List JsonTree)
    (ks : List JsonMark) : itemMarks first (x :: xs) ++ ks =
      JsonMark.separator first ++ (x.marks ++ (itemMarks false xs ++ ks)) := by
  simp [itemMarks]

theorem memberMarks_cons (first : Bool) (t : TextLiteral) (x : JsonTree)
    (ms : List (TextLiteral × JsonTree)) : memberMarks first ((t, x) :: ms) =
      (JsonMark.separator first ++ [.leaf (.text t)]) ++
        .colon :: (x.marks ++ memberMarks false ms) := by
  simp [memberMarks]

theorem memberMarks_cons_append (first : Bool) (t : TextLiteral) (x : JsonTree)
    (ms : List (TextLiteral × JsonTree)) (ks : List JsonMark) :
    memberMarks first ((t, x) :: ms) ++ ks =
      (JsonMark.separator first ++ [.leaf (.text t)]) ++
        .colon :: (x.marks ++ (memberMarks false ms ++ ks)) := by
  simp [memberMarks_cons]

end JsonTree

/-- The characters are those of the tokens, with blanks anywhere between them. No character follows
a number that it would go on with. -/
inductive Spells : List JsonMark → List Char → Prop where
  | nil : Spells [] []
  | blank {ks : List JsonMark} {c : Char} {cs : List Char} (hc : isJsonBlank c = true)
      (h : Spells ks cs) : Spells ks (c :: cs)
  | mark {k : JsonMark} {ks : List JsonMark} {cs : List Char}
      (hk : ∀ n, k = .leaf (.number n) → StartsOutside isNumberChar cs) (h : Spells ks cs) :
      Spells (k :: ks) (k.source ++ cs)

/-- The text is one for the value. -/
def JsonTree.IsSpelled (x : JsonTree) (text : String) : Prop := Spells x.marks text.toList

namespace JsonTree

/-- The text without any blanks. -/
def compact (x : JsonTree) : String := String.ofList (x.marks.flatMap JsonMark.source)

theorem startsOutside_itemMarks {xs : List JsonTree} {cs : List Char}
    (hcs : StartsOutside isNumberChar cs) :
    StartsOutside isNumberChar ((itemMarks false xs).flatMap JsonMark.source ++ cs) := by
  cases xs with
  | nil => exact hcs
  | cons x xs => exact startsOutside_cons (by decide) _

theorem startsOutside_memberMarks {ms : List (TextLiteral × JsonTree)} {cs : List Char}
    (hcs : StartsOutside isNumberChar cs) :
    StartsOutside isNumberChar ((memberMarks false ms).flatMap JsonMark.source ++ cs) := by
  cases ms with
  | nil => exact hcs
  | cons m ms => exact startsOutside_cons (by decide) _

theorem spells_separator (first : Bool) {ks : List JsonMark} {cs : List Char} (h : Spells ks cs) :
    Spells (JsonMark.separator first ++ ks)
      ((JsonMark.separator first).flatMap JsonMark.source ++ cs) := by
  cases first with
  | true => exact h
  | false => exact .mark nofun h

theorem spells_singleton {k : JsonMark} (hk : ∀ n, k ≠ .leaf (.number n)) {ks : List JsonMark}
    {cs : List Char} (h : Spells ks cs) : Spells (k :: ks) (k.source ++ cs) :=
  .mark (fun n hn => absurd hn (hk n)) h

mutual

theorem spells_marks : (x : JsonTree) → ∀ {ks : List JsonMark} {cs : List Char}, Spells ks cs →
    StartsOutside isNumberChar cs →
    Spells (x.marks ++ ks) (x.marks.flatMap JsonMark.source ++ cs)
  | leaf l, ks, cs, h, hcs => by
    have hleaf : Spells (.leaf l :: ks) ((JsonMark.leaf l).source ++ cs) := .mark (fun _ _ => hcs) h
    simpa [marks] using hleaf
  | list xs, ks, cs, h, hcs => by
    have hclose := spells_singleton (k := .endList) nofun h
    have hitems := spells_itemMarks xs true hclose (startsOutside_cons (by decide) _)
    have hall := spells_singleton (k := .beginList) nofun hitems
    simpa [marks] using hall
  | object ms, ks, cs, h, hcs => by
    have hclose := spells_singleton (k := .endObject) nofun h
    have hmembers := spells_memberMarks ms true hclose (startsOutside_cons (by decide) _)
    have hall := spells_singleton (k := .beginObject) nofun hmembers
    simpa [marks] using hall

theorem spells_itemMarks : (xs : List JsonTree) → ∀ first {ks : List JsonMark} {cs : List Char},
    Spells ks cs → StartsOutside isNumberChar cs →
    Spells (itemMarks first xs ++ ks) ((itemMarks first xs).flatMap JsonMark.source ++ cs)
  | [], _, _, _, h, _ => h
  | x :: xs, first, ks, cs, h, hcs => by
    have hrest := spells_itemMarks xs false h hcs
    have hall := spells_separator first (spells_marks x hrest (startsOutside_itemMarks hcs))
    simpa [itemMarks] using hall

theorem spells_memberMarks : (ms : List (TextLiteral × JsonTree)) →
    ∀ first {ks : List JsonMark} {cs : List Char}, Spells ks cs → StartsOutside isNumberChar cs →
    Spells (memberMarks first ms ++ ks) ((memberMarks first ms).flatMap JsonMark.source ++ cs)
  | [], _, _, _, h, _ => h
  | (t, x) :: ms, first, ks, cs, h, hcs => by
    have hrest := spells_memberMarks ms false h hcs
    have hvalue := spells_marks x hrest (startsOutside_memberMarks hcs)
    have hcolon := spells_singleton (k := .colon) nofun hvalue
    have hkey := spells_singleton (k := .leaf (.text t)) nofun hcolon
    have hall := spells_separator first hkey
    simpa [memberMarks] using hall

end

theorem isSpelled_compact (x : JsonTree) : x.IsSpelled x.compact := by
  have h := spells_marks x .nil (startsOutside_nil _)
  rw [List.append_nil, List.append_nil] at h
  rwa [IsSpelled, compact, String.toList_ofList]

end JsonTree

end TicketQuery
