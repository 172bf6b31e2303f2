import TicketQuery.JsonNumber
import TicketQuery.JsonText

/-! # Tokens of JSON text

Blanks between tokens are the four of JSON. A scalar that is broken is a token too, with the fault
that is met when it is read: its value may be wanted, or it may only be passed over, which asks for
less. -/
namespace TicketQuery

/-- What reading a scalar gives, if its value is wanted and if it is not. -/
structure ScalarReading where
  value : Except JsonFault JsonScalar
  skipped : Except JsonFault Unit

inductive JsonTokenKind where
  | beginObject | endObject | beginList | endList | colon | comma
  | text (reading : ScalarReading)
  | bare (reading : ScalarReading)
  /-- A character that starts no token. -/
  | stray

structure JsonToken where
  kind : JsonTokenKind
  /-- The numbers of bytes before and up to the end of the token. -/
  start : Nat
  stop : Nat

/-- A token, and what follows it unless it is broken. -/
structure JsonLexeme (cs : List Char) where
  token : JsonToken
  next : Option { p : JsonText.Place // p.rest.length ≤ cs.length }

def isJsonBlank (c : Char) : Bool := c == ' ' || c == '\t' || c == '\n' || c == '\r'

namespace JsonLexeme

open JsonText (Place)

def punctuation (kind : JsonTokenKind) (index : Nat) (cs : List Char) : JsonLexeme cs where
  token := ⟨kind, index, index + 1⟩
  next := some ⟨⟨index + 1, cs⟩, Nat.le_refl _⟩

/-- A text, after its opening quote. -/
def text (index : Nat) (cs : List Char) : JsonLexeme cs :=
  let value := (JsonText.decode (index + 1) cs).map fun d => .text (String.ofList d.1)
  match h : JsonText.skip (index + 1) cs with
  | .ok p =>
    ⟨⟨.text ⟨value, .ok ()⟩, index, p.index⟩, some ⟨p, Nat.le_of_lt (JsonText.length_skip h)⟩⟩
  | .error e => ⟨⟨.text ⟨value, .error e⟩, index, e.index⟩, none⟩

/-- The end of a word that is known from its first character. -/
def matchWord (index : Nat) (cs : List Char) :
    List Char → Except JsonFault { p : Place // p.rest.length ≤ cs.length }
  | [] => .ok ⟨⟨index, cs⟩, Nat.le_refl _⟩
  | w :: ws =>
    match cs with
    | [] => .error ⟨.valueEnds, index⟩
    | c :: rest =>
      if c = w then
        (matchWord (index + 1) rest ws).map fun p =>
          ⟨p.1, Nat.le_trans p.2 (Nat.le_succ _)⟩
      else .error ⟨.expectedWord, index + 1⟩

def word (value : JsonScalar) (letters : List Char) (index : Nat) (cs : List Char) :
    JsonLexeme cs :=
  match matchWord (index + 1) cs letters with
  | .ok p => ⟨⟨.bare ⟨.ok value, .ok ()⟩, index, p.1.index⟩, some p⟩
  | .error e => ⟨⟨.bare ⟨.error e, .error e⟩, index, e.index⟩, none⟩

/-- A number, from its first character on. Where its digits end too early, that counts as the end of
the text only if the value is wanted. -/
def number (index : Nat) (c : Char) (cs : List Char) : JsonLexeme cs :=
  match h : JsonNumber.read index (c :: cs) with
  | .error e =>
    let wanted := if e.atEnd then JsonCause.valueEnds else .invalidNumber
    ⟨⟨.bare ⟨.error ⟨wanted, e.index⟩, .error ⟨.invalidNumber, e.index⟩⟩, index, e.index⟩, none⟩
  | .ok (n, rest) =>
    let stop := index + (cs.length + 1 - rest.length)
    let value := match n.value? with
      | some v => .ok v
      | none => .error ⟨.numberOutOfRange, stop⟩
    ⟨⟨.bare ⟨value, .ok ()⟩, index, stop⟩,
      some ⟨⟨stop, rest⟩, Nat.le_of_lt_succ (JsonNumber.length_read h)⟩⟩

/-- The token that starts with a character at the given place. -/
def read (index : Nat) (c : Char) (cs : List Char) : JsonLexeme cs :=
  match c with
  | '\x7b' => punctuation .beginObject index cs
  | '\x7d' => punctuation .endObject index cs
  | '[' => punctuation .beginList index cs
  | ']' => punctuation .endList index cs
  | ':' => punctuation .colon index cs
  | ',' => punctuation .comma index cs
  | '"' => text index cs
  | 'n' => word .null "ull".toList index cs
  | 't' => word (.boolean true) "rue".toList index cs
  | 'f' => word (.boolean false) "alse".toList index cs
  | _ =>
    if c = '-' || c.isDigit then number index c cs
    else ⟨⟨.stray, index, index + c.utf8Size⟩, none⟩

end JsonLexeme

/-- The tokens of a text; a broken one is the last. -/
def jsonTokens (index : Nat) : List Char → List JsonToken
  | [] => []
  | c :: cs =>
    if isJsonBlank c then jsonTokens (index + 1) cs
    else
      let x := JsonLexeme.read index c cs
      match x.next with
      | none => [x.token]
      | some p => x.token :: jsonTokens p.1.index p.1.rest
termination_by cs => cs.length
decreasing_by
  · simp
  · have := p.2
    simp
    omega

end TicketQuery
