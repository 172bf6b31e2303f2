import TicketQuery.Alphabetic
import TicketQuery.WhiteSpace
import TicketQuery.Utf8Length
import TicketQuery.Token

/-! # Lexer

Tokens are taken off the front of a text, longest match first, with white space between them
skipped. No text is refused: a character that starts no token is a token of kind `illegal`. -/
namespace TicketQuery

def isIdentChar (c : Char) : Bool := isAlphabetic c || c == '_' || c == '-'

/-- What one token takes off a text: `source` are the characters taken, `text` its literal. -/
structure Lexeme where
  kind : TokenKind
  text : List Char
  source : List Char
  rest : List Char

namespace Lexeme

def plain (kind : TokenKind) (source rest : List Char) : Lexeme := ⟨kind, source, source, rest⟩

/-- A character and all that follow it within a class. -/
def run (kind : List Char → TokenKind) (p : Char → Bool) (c : Char) (cs : List Char) : Lexeme :=
  plain (kind (c :: cs.takeWhile p)) (c :: cs.takeWhile p) (cs.dropWhile p)

/-- A string, after its opening quote. Nothing in it is an escape, and without a closing quote it
runs to the end of the text. -/
def quoted (cs : List Char) : Lexeme :=
  let body := cs.takeWhile (· != '"')
  match cs.dropWhile (· != '"') with
  | [] => ⟨.string, body, '"' :: body, []⟩
  | quote :: rest => ⟨.string, body, '"' :: body ++ [quote], rest⟩

/-- A character that makes another token with an equals sign behind it. -/
def beforeEquals (alone paired : TokenKind) (c : Char) : List Char → Lexeme
  | '=' :: rest => plain paired [c, '='] rest
  | rest => plain alone [c] rest

/-- The token at the front of a text that does not start with white space. -/
def read (c : Char) (cs : List Char) : Lexeme :=
  match c with
  | '=' => plain (.operator (.comparison .eq)) [c] cs
  | '~' => plain (.operator (.comparison .like)) [c] cs
  | ',' => plain .comma [c] cs
  | '(' => plain .leftParen [c] cs
  | ')' => plain .rightParen [c] cs
  | '<' => beforeEquals (.operator (.comparison .lt)) (.operator (.comparison .le)) c cs
  | '>' => beforeEquals (.operator (.comparison .gt)) (.operator (.comparison .ge)) c cs
  | '!' => beforeEquals .illegal (.operator (.comparison .ne)) c cs
  | '"' => quoted cs
  | _ =>
    if c.isDigit then run (fun _ => .int) Char.isDigit c cs
    else if isIdentChar c then run TokenKind.ofWord isIdentChar c cs
    else plain .illegal [c] cs

/-- The shapes that a token can take. -/
theorem read_cases {P : Lexeme → Prop} (c : Char) (cs : List Char)
    (single : ∀ kind, P (plain kind [c] cs))
    (paired : ∀ kind rest, cs = '=' :: rest → P (plain kind [c, '='] rest))
    (string : c = '"' → P (quoted cs))
    (digits : c.isDigit = true → P (run (fun _ => .int) Char.isDigit c cs))
    (word : isIdentChar c = true → P (run TokenKind.ofWord isIdentChar c cs)) :
    P (read c cs) := by
  have hb : ∀ a p, P (beforeEquals a p c cs) := fun a p => by
    unfold beforeEquals
    split
    · exact paired p _ rfl
    · exact single a
  unfold read
  split
  case h_9 => exact string rfl
  case h_10 =>
    split
    · exact digits ‹_›
    · split
      · exact word ‹_›
      · exact single _
  all_goals first | exact single _ | exact hb _ _

/-- Nothing is lost between a token and the rest of the text. -/
theorem source_append_rest (c : Char) (cs : List Char) :
    (read c cs).source ++ (read c cs).rest = c :: cs := by
  apply read_cases (P := fun x => x.source ++ x.rest = c :: cs) c cs
  · intro kind
    rfl
  · rintro kind rest rfl
    rfl
  · rintro rfl
    have h := List.takeWhile_append_dropWhile (p := (· != '"')) (l := cs)
    unfold quoted
    split
    · next hd => simpa [hd] using h
    · next q r hd =>
      rw [hd] at h
      simpa using h
  all_goals
    intro
    simp [run, plain, List.takeWhile_append_dropWhile]

theorem source_ne_nil (c : Char) (cs : List Char) : (read c cs).source ≠ [] := by
  apply read_cases (P := fun x => x.source ≠ []) c cs
  case string =>
    intro
    unfold quoted
    split <;> simp
  all_goals simp [run, plain]

theorem length_rest_lt (c : Char) (cs : List Char) :
    (read c cs).rest.length < (c :: cs).length := by
  have h := congrArg List.length (source_append_rest c cs)
  have hp := List.length_pos_iff.2 (source_ne_nil c cs)
  rw [List.length_append] at h
  omega

end Lexeme

/-- The characters still to be read, and the byte offset at which they start. -/
structure Lexer where
  rest : List Char
  offset : Nat := 0

namespace Lexer

def ofText (text : String) : Lexer := { rest := text.toList }

/-- The byte offset at which the text ends. -/
def stop (l : Lexer) : Nat := l.offset + utf8Length l.rest

def skipWhiteSpace (l : Lexer) : Lexer :=
  ⟨l.rest.dropWhile isWhiteSpace, l.offset + utf8Length (l.rest.takeWhile isWhiteSpace)⟩

/-- The token that starts with a character at the given place. -/
def take (offset : Nat) (c : Char) (cs : List Char) : Token × Lexer :=
  let x := Lexeme.read c cs
  let stop := offset + utf8Length x.source
  (⟨x.kind, String.ofList x.text, ⟨offset, stop⟩⟩, ⟨x.rest, stop⟩)

/-- The next token, if there is one before the end of the text. -/
def next? (l : Lexer) : Option (Token × Lexer) :=
  match l.skipWhiteSpace.rest with
  | [] => none
  | c :: cs => some (take l.skipWhiteSpace.offset c cs)

/-- The next token; at the end of the text that is `eof`, however often it is asked for. -/
def next (l : Lexer) : Token × Lexer :=
  match l.next? with
  | some r => r
  | none => (Token.eof l.skipWhiteSpace.offset, l.skipWhiteSpace)

theorem next?_eq_some {l : Lexer} {r : Token × Lexer} (h : l.next? = some r) :
    ∃ c cs, l.skipWhiteSpace.rest = c :: cs ∧ take l.skipWhiteSpace.offset c cs = r := by
  unfold next? at h
  split at h
  · cases h
  · exact ⟨_, _, ‹_›, Option.some.inj h⟩

theorem length_rest_of_next? {l : Lexer} {r : Token × Lexer} (h : l.next? = some r) :
    r.2.rest.length < l.rest.length := by
  obtain ⟨c, cs, hr, rfl⟩ := next?_eq_some h
  have hd : l.skipWhiteSpace.rest.length ≤ l.rest.length := (List.dropWhile_sublist _).length_le
  rw [hr] at hd
  exact Nat.lt_of_lt_of_le (Lexeme.length_rest_lt c cs) hd

/-- All tokens before the end of the text. -/
def tokens (l : Lexer) : List Token :=
  match _h : l.next? with
  | none => []
  | some r => r.1 :: r.2.tokens
termination_by l.rest.length
decreasing_by exact length_rest_of_next? _h

/-- The lexer once all tokens have been taken. -/
def last (l : Lexer) : Lexer := ⟨[], l.stop⟩

theorem stop_skipWhiteSpace (l : Lexer) : l.skipWhiteSpace.stop = l.stop := by
  have h := congrArg utf8Length (List.takeWhile_append_dropWhile (p := isWhiteSpace) (l := l.rest))
  rw [utf8Length_append] at h
  simp only [stop, skipWhiteSpace]
  omega

theorem stop_of_next? {l : Lexer} {r : Token × Lexer} (h : l.next? = some r) :
    r.2.stop = l.stop := by
  rw [← stop_skipWhiteSpace l]
  obtain ⟨c, cs, hr, rfl⟩ := next?_eq_some h
  have hs := congrArg utf8Length (Lexeme.source_append_rest c cs)
  rw [utf8Length_append] at hs
  simp only [stop, take, hr]
  omega

end Lexer

end TicketQuery
