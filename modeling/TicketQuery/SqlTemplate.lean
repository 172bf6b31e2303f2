import TicketQuery.Alphabetic

/-! # Templates for SQL

A template is SQL in which `$` marks the places of values: `$1` is the first value, a `$` that
nothing belongs to is the next value in order, and `$$` is a dollar sign. The marks are looked for
between tokens, never within quotes, and the values are put in as they are. -/
namespace TicketQuery

inductive TemplateToken where
  | blank (text : List Char)
  | word (text : List Char)
  | quoted (text : List Char)
  | sign (c : Char)
  deriving DecidableEq, Repr

def isTemplateBlank (c : Char) : Bool := c == ' ' || c == '\t' || c == '\r' || c == '\n'

def isWordStart (c : Char) : Bool := isAlphabetic c || c.isDigit

def isWordChar (c : Char) : Bool := isWordStart c || c == '_' || c == '$'

/-- The quote that closes what a quote opens. -/
def closingQuote? (c : Char) : Option Char :=
  match c with
  | '\x60' => some '\x60'
  | '[' => some ']'
  | '\x27' => some '\x27'
  | '"' => some '"'
  | _ => none

/-- The content of quotes with the closing quote, and what follows it. A backslash makes the next
character ordinary, and a closing quote that stands twice is ordinary too, brackets apart. Quotes
that are not closed reach to the end. -/
def splitQuoted (close : Char) : (escaped : Bool) → List Char → List Char × List Char
  | _, [] => ([], [])
  | true, c :: cs =>
    let r := splitQuoted close false cs
    (c :: r.1, r.2)
  | false, c :: cs =>
    if c = close then
      match cs with
      | [] => ([c], [])
      | d :: ds =>
        if d = close ∧ close ≠ ']' then
          let r := splitQuoted close false ds
          (c :: d :: r.1, r.2)
        else ([c], d :: ds)
    else
      let r := splitQuoted close (c = '\\') cs
      (c :: r.1, r.2)

theorem splitQuoted_append (close : Char) (escaped : Bool) (cs : List Char) :
    (splitQuoted close escaped cs).1 ++ (splitQuoted close escaped cs).2 = cs := by
  fun_induction splitQuoted close escaped cs <;> simp_all +zetaDelta

namespace TemplateToken

def text : TemplateToken → List Char
  | blank text | word text | quoted text => text
  | sign c => [c]

/-- The token that starts with a character, and what follows it. -/
def read (c : Char) (cs : List Char) : TemplateToken × List Char :=
  if isTemplateBlank c then
    (blank (c :: cs.takeWhile isTemplateBlank), cs.dropWhile isTemplateBlank)
  else if isWordStart c then (word (c :: cs.takeWhile isWordChar), cs.dropWhile isWordChar)
  else
    match closingQuote? c with
    | some close =>
      let r := splitQuoted close false cs
      (quoted (c :: r.1), r.2)
    | none => (sign c, cs)

theorem text_read_append (c : Char) (cs : List Char) :
    (read c cs).1.text ++ (read c cs).2 = c :: cs := by
  unfold read
  split
  · simp [text, List.takeWhile_append_dropWhile]
  · split
    · simp [text, List.takeWhile_append_dropWhile]
    · split
      · simp [text, splitQuoted_append]
      · rfl

theorem text_read_ne_nil (c : Char) (cs : List Char) : (read c cs).1.text ≠ [] := by
  unfold read
  split
  · simp [text]
  · split
    · simp [text]
    · split <;> simp [text]

theorem length_read_le (c : Char) (cs : List Char) : (read c cs).2.length ≤ cs.length := by
  have h := congrArg List.length (text_read_append c cs)
  have hp := List.length_pos_iff.2 (text_read_ne_nil c cs)
  rw [List.length_append, List.length_cons] at h
  omega

end TemplateToken

def templateTokens : List Char → List TemplateToken
  | [] => []
  | c :: cs =>
    let r := TemplateToken.read c cs
    r.1 :: templateTokens r.2
termination_by cs => cs.length
decreasing_by
  have := TemplateToken.length_read_le c cs
  simp
  omega

theorem text_templateTokens (cs : List Char) :
    (templateTokens cs).flatMap TemplateToken.text = cs := by
  fun_induction templateTokens cs with
  | case1 => rfl
  | case2 c cs r ih => simp [ih, r, TemplateToken.text_read_append]

/-- A piece of text, or the place of a value; values are counted from one. -/
inductive TemplatePart where
  | text (s : List Char)
  | value (number : Nat)
  deriving DecidableEq, Repr

/-- The number that a word stands for, if it is one of 64 bits. -/
def wordNumber? (word : List Char) : Option Nat :=
  let n := Nat.ofDigitChars 10 word 0
  if word.all Char.isDigit ∧ n < Nat.pow 2 64 then some n else none

/-- The parts of a template, of which `taken` values in order have been placed before. -/
def templateParts (taken : Nat) : List TemplateToken → List TemplatePart
  | [] => []
  | .sign '$' :: .sign '$' :: ts => .text ['$'] :: templateParts taken ts
  | .sign '$' :: .word w :: ts =>
    match wordNumber? w with
    | some n => .value n :: templateParts taken ts
    | none => templateParts taken ts
  | .sign '$' :: ts => .value (taken + 1) :: templateParts (taken + 1) ts
  | t :: ts => .text t.text :: templateParts taken ts

/-- None for the place of a value that is missing. -/
def TemplatePart.fill (values : List String) : TemplatePart → Option String
  | text s => some (String.ofList s)
  | value 0 => none
  | value (n + 1) => values[n]?

/-- The template with the values in their places, none if one is missing. -/
def fillTemplate (template : String) (values : List String) : Option String :=
  let parts := templateParts 0 (templateTokens template.toList)
  (parts.mapM (TemplatePart.fill values)).map String.join

example : fillTemplate "a = $1 AND b = $2" ["x", "y$1"] = some "a = x AND b = y$1" := by
  decide +kernel
example : fillTemplate "'$1' $$ $x $" ["x"] = some "'$1' $  x" := by decide +kernel
example : fillTemplate "$2" ["x"] = none := by decide +kernel

end TicketQuery
