import TicketQuery.Fault
import TicketQuery.Lexer

/-! # Parser

A query is a sequence of statements, each a modifier or an expression. Expressions are read by
precedence climbing. Reading goes on after a fault, and an expression with a fault has no value. -/
namespace TicketQuery

/-- A place among the tokens: the current token is the first unread one. `advances` counts the steps
that led here, also those at the end, where each further token is `eof`. -/
structure Cursor where
  unread : List Token
  stop : Nat
  advances : Nat := 0
  deriving DecidableEq, Repr

namespace Cursor

def current (c : Cursor) : Token := c.unread.headD (Token.eof c.stop)

/-- The token after the current one. -/
def upcoming (c : Cursor) : Token := c.unread.tail.headD (Token.eof c.stop)

def advance (c : Cursor) : Cursor :=
  { c with unread := c.unread.tail, advances := c.advances + 1 }

def operator? (c : Cursor) : Option Operator := c.upcoming.kind.operator?

theorem length_unread_advance (c : Cursor) : c.advance.unread.length = c.unread.length - 1 := by
  simp [advance]

theorem length_unread_advance_le (c : Cursor) : c.advance.unread.length ≤ c.unread.length := by
  have := c.length_unread_advance
  omega

theorem length_unread_pos {c : Cursor} (h : c.current.kind ≠ .eof) : 0 < c.unread.length := by
  cases hu : c.unread with
  | nil => simp [current, hu, Token.eof] at h
  | cons => simp

theorem one_lt_length_unread {c : Cursor} {op : Operator} (h : c.operator? = some op) :
    1 < c.unread.length := by
  simp only [operator?, upcoming, TokenKind.operator?_eq_some_iff] at h
  cases ht : c.unread.tail with
  | nil => simp [ht, Token.eof] at h
  | cons t ts =>
    have := congrArg List.length ht
    simp at this
    omega

end Cursor

/-- What reading from `start` gives: a value unless there was a fault, the faults in the order found
and the last token taken, as the current one. -/
structure Parsed (start : Cursor) where
  value : Option Expr
  faults : List Fault
  cursor : Cursor
  length_unread_le : cursor.unread.length ≤ start.unread.length

def maxInteger : Nat := Nat.pow 2 63 - 1

def integerOf? (digits : String) : Option Int :=
  let n := Nat.ofDigitChars 10 digits.toList 0
  if n ≤ maxInteger then some n else none

/-- What came of one operator: its node, or the faults of its operands. -/
structure Joined where
  value : Option Expr
  faults : List Fault

namespace Joined

def fault (cause : FaultCause) (span : Span) : Joined := ⟨none, [⟨cause, span⟩]⟩

/-- A comparison needs a field on its left and a literal on its right. The right operand is looked
at first; `last` is the place where it ended. -/
def comparison (op : Comparison) (place last : Span) (left right : Option Expr) : Joined :=
  match right with
  | none => ⟨none, []⟩
  | some (.field name) => fault (.missingQuotes name) last
  | some (.node o l r) => fault (.conditionAsValue (.node o l r)) place
  | some (.literal v) =>
    match left with
    | none => ⟨none, []⟩
    | some (.field name) => ⟨some (.node (.comparison op) (.field name) (.literal v)), []⟩
    | some left => fault (.comparedNonField left) place

/-- The fault of an operand that is there and no condition. -/
def nonCondition (cause : FaultCause) (place : Span) : Option Expr → List Fault
  | some e => if e.isNode then [] else [⟨cause, place⟩]
  | none => []

/-- A connective needs conditions on both sides. -/
def connective (k : Connective) (place : Span) (left right : Option Expr) : Joined where
  value := do
    let l ← left
    let r ← right
    if l.isNode && r.isNode then some (.node (.connective k) l r) else none
  faults := nonCondition .connectiveAfterNonCondition place left ++
    nonCondition .connectiveBeforeNonCondition place right

def ofOperator (op : Operator) (place last : Span) (left right : Option Expr) : Joined :=
  match op with
  | .comparison c => comparison c place last left right
  | .connective k => connective k place left right

end Joined

namespace Parsed

def leaf (c : Cursor) (e : Expr) : Parsed c := ⟨some e, [], c, Nat.le_refl _⟩

def fault (c : Cursor) (cause : FaultCause) : Parsed c :=
  ⟨none, [⟨cause, c.current.span⟩], c, Nat.le_refl _⟩

/-- The integer at the current token. -/
def integer (c : Cursor) : Parsed c :=
  match integerOf? c.current.text with
  | some n => leaf c (.literal (.integer n))
  | none => fault c (.integerTooLarge c.current.text)

/-- The same outcome as seen from an earlier place. -/
def widen {c start : Cursor} (p : Parsed c) (h : c.unread.length ≤ start.unread.length) :
    Parsed start :=
  { p with length_unread_le := Nat.le_trans p.length_unread_le h }

/-- Reads on where the first part ended. -/
def andThen {c : Cursor} (first : Parsed c) (more : (first : Parsed c) → Parsed first.cursor) :
    Parsed c :=
  let last := more first
  ⟨last.value, first.faults ++ last.faults, last.cursor,
    Nat.le_trans last.length_unread_le first.length_unread_le⟩

/-- Applies an operator to what stands on its left and the operand just read on its right. -/
def join {c : Cursor} (right : Parsed c) (op : Operator) (place : Span) (left : Option Expr) :
    Parsed c :=
  let joined := Joined.ofOperator op place right.cursor.current.span left right.value
  { right with value := joined.value, faults := right.faults ++ joined.faults }

/-- The content of a group must be followed by its closing parenthesis. -/
def closeGroup {c : Cursor} (inner : Parsed c) : Parsed c :=
  let found := inner.cursor.upcoming
  if found.kind = .rightParen then
    { inner with
      cursor := inner.cursor.advance
      length_unread_le := by
        have := inner.length_unread_le
        have := inner.cursor.length_unread_advance
        omega }
  else
    { inner with
      value := none
      faults := inner.faults ++ [⟨.unclosedGroup found.kind, found.span⟩] }

end Parsed

mutual

/-- The operand at the current token: a field, a literal or a group in parentheses. -/
def operand (c : Cursor) : Parsed c :=
  match _h : c.current.kind with
  | .ident => .leaf c (.field c.current.text)
  | .string => .leaf c (.literal (.text c.current.text))
  | .int => .integer c
  | .leftParen => (expression .lowest c.advance).closeGroup.widen c.length_unread_advance_le
  | _ => .fault c (.unexpected c.current)
termination_by 3 * c.unread.length
decreasing_by
  have := c.length_unread_advance
  have := Cursor.length_unread_pos (c := c) (by rw [_h]; decide)
  omega

/-- An operand and the operators behind it that bind tighter than `level`. -/
def expression (level : Precedence) (c : Cursor) : Parsed c :=
  (operand c).andThen fun first => operations level first.value first.cursor
termination_by 3 * c.unread.length + 2
decreasing_by
  · omega
  · have := first.length_unread_le
    omega

/-- The operators behind `left` that bind tighter than `level`, applied from left to right. -/
def operations (level : Precedence) (left : Option Expr) (c : Cursor) : Parsed c :=
  match _h : c.operator? with
  | none => ⟨left, [], c, Nat.le_refl _⟩
  | some op =>
    if level.rank < op.precedence.rank then
      (((expression op.precedence c.advance.advance).join op c.upcoming.span left).andThen
        fun joined => operations level joined.value joined.cursor).widen
          (Nat.le_trans c.advance.length_unread_advance_le c.length_unread_advance_le)
    else ⟨left, [], c, Nat.le_refl _⟩
termination_by 3 * c.unread.length + 1
decreasing_by
  all_goals
    have := Cursor.one_lt_length_unread _h
    have := c.length_unread_advance
    have := c.advance.length_unread_advance
  · omega
  · have := joined.length_unread_le
    omega

end

inductive StatementResult where
  | modifier (m : Option Modifier)
  | condition (e : Option Expr)

/-- What reading one statement gives; the cursor stands on its last token. -/
structure Statement (start : Cursor) where
  result : StatementResult
  faults : List Fault
  cursor : Cursor
  length_unread_le : cursor.unread.length ≤ start.unread.length

/-- The kind of token that a modifier is followed by. -/
def ModifierKind.operandKind : ModifierKind → TokenKind
  | orderBy => .ident
  | limit => .int

/-- The tokens that end an expression and are not part of what precedes them. -/
def TokenKind.endsExpression : TokenKind → Bool
  | eof | orderBy | limit => true
  | _ => false

namespace Statement

/-- A modifier and the token behind it. A token of the wrong kind is passed over, unless the next
statement can start with it. -/
def modifier (kind : ModifierKind) (c : Cursor) : Statement c :=
  if c.upcoming.kind = kind.operandKind then
    match kind with
    | .orderBy => ⟨.modifier (some ⟨.orderBy, .field c.upcoming.text⟩), [], c.advance,
        c.length_unread_advance_le⟩
    | .limit =>
      let number := Parsed.integer c.advance
      ⟨.modifier (number.value.map fun e => ⟨.limit, e⟩), number.faults, number.cursor,
        Nat.le_trans number.length_unread_le c.length_unread_advance_le⟩
  else
    let faults := [⟨.modifierWithoutOperand kind, c.upcoming.span⟩]
    if c.upcoming.kind.endsExpression then ⟨.modifier none, faults, c, Nat.le_refl _⟩
    else ⟨.modifier none, faults, c.advance, c.length_unread_advance_le⟩

/-- The statement at the current token. -/
def read (c : Cursor) : Statement c :=
  match c.current.kind with
  | .orderBy => modifier .orderBy c
  | .limit => modifier .limit c
  | _ =>
    let e := expression .lowest c
    ⟨.condition e.value, e.faults, e.cursor, e.length_unread_le⟩

end Statement

/-- The statements of a query, their faults and the place where reading ended. -/
structure Statements where
  results : List StatementResult
  faults : List Fault
  cursor : Cursor

def statements (c : Cursor) : Statements :=
  if _h : c.unread = [] then ⟨[], [], c⟩
  else
    let s := Statement.read c
    let more := statements s.cursor.advance
    ⟨s.result :: more.results, s.faults ++ more.faults, more.cursor⟩
termination_by c.unread.length
decreasing_by
  have := (Statement.read c).length_unread_le
  have := (Statement.read c).cursor.length_unread_advance
  have := List.length_pos_iff.2 _h
  omega

/-- The last expression statement gives the condition, even if it has no value. -/
def Query.ofStatements (results : List StatementResult) : Query where
  condition := (results.filterMap fun
    | .condition e => some e
    | .modifier _ => none).getLast?.join
  modifiers := results.filterMap fun
    | .modifier m => m
    | .condition _ => none

/-- A parser can be asked again; it keeps the faults of all its answers. -/
structure Parser where
  cursor : Cursor
  faults : List Fault := []

namespace Parser

/-- A parser for what a lexer has not read yet. -/
def ofLexer (l : Lexer) : Parser := { cursor := { unread := l.tokens, stop := l.stop } }

def ofText (text : String) : Parser := ofLexer (Lexer.ofText text)

def parse (p : Parser) : Query × Parser :=
  let s := statements p.cursor
  (Query.ofStatements s.results, { cursor := s.cursor, faults := p.faults ++ s.faults })

end Parser

end TicketQuery
