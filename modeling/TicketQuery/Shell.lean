import TicketQuery.BoundedQuery
import TicketQuery.ColumnPadding
import TicketQuery.ConfigFile
import TicketQuery.Select
import TicketQuery.TypedLine

/-! # The shell

A session starts with a configuration and answers one line after the other. The answer to a line
depends on nothing but the line and the configuration. -/
namespace TicketQuery.Shell

/-- The end of a session: its exit code, and what it reports as an error. -/
structure Exit where
  code : Nat
  report : String
  deriving DecidableEq, Repr

/-- What is printed for a line, and whether the session ends with it. -/
structure Reply where
  text : String
  exit : Option Exit := none
  deriving DecidableEq, Repr

/-- What a session prints until it ends. -/
structure Transcript where
  text : String
  exit : Exit
  deriving DecidableEq, Repr

def Exit.done : Exit := ⟨0, ""⟩

/-- A text with every further line moved in. -/
def hanging (margin text : String) : String :=
  String.intercalate ("\n" ++ margin) ((text.toList.splitOn '\n').map String.ofList)

/-- The causes of a failure, with numbers if there are several. -/
def causeLines : List String → List String
  | [cause] => ["    " ++ hanging "    " cause]
  | causes =>
    causes.zipIdx.map fun p =>
      inColumn .right 5 none (toString p.2) ++ ": " ++ hanging "       " p.1

def Exit.failure (what : String) (causes : List String) : Exit where
  code := 1
  report := "Error: " ++ what ++ "\n\nCaused by:\n" ++
    String.join ((causeLines causes).map fun line => line ++ "\n")

def banner : String :=
  "--- ticketql: ticket query shell ---\n" ++
    "type a query, `:tokens <query>` to see its tokens, `:quit` to leave\n\n"

def defaultConfigFile : String := "ticketql.json"

/-- The configuration file that the arguments name. -/
def configFile (arguments : List String) : String := arguments.headD defaultConfigFile

/-- The start of a session, with what the configuration file holds. Only a file that was asked for
has to be there and in order. -/
def start (arguments : List String) (file : FileState) : String × Except Exit Config :=
  let path := configFile arguments
  match Config.ofFile path file with
  | .ok config => ("✓ loaded config from " ++ path ++ "\n", .ok config)
  | .error fault =>
    if arguments.isEmpty then ("⚠ " ++ fault.message ++ ", using default config\n", .ok {})
    else ("", .error (.failure ("cannot load config " ++ path) fault.causes))

def tokenLine (t : Token) : String :=
  "  " ++ inColumn .left 9 none t.kind.label ++ " " ++ escapedText t.text ++ "  " ++
    toString t.span.start ++ ".." ++ toString t.span.stop ++ "\n"

def tokenTable (query : String) : String :=
  String.join ((Lexer.ofText query).tokens.map tokenLine)

/-- The number of characters between two places, zero if a place is none. -/
def charactersBetween (start stop : Nat) (cs : List Char) : Nat :=
  match splitAtByte start cs with
  | none => 0
  | some (_, rest) =>
    match splitAtByte (stop - start) rest with
    | none => 0
    | some (between, _) => between.length

/-- The column and the width of the mark under a span, in characters. -/
def caretPosition (line : String) (s : Span) : Nat × Nat :=
  (charactersBetween 0 s.start line.toList, max 1 (charactersBetween s.start s.stop line.toList))

def faultLines (line : String) (f : Fault) : String :=
  let caret := caretPosition line f.span
  "  " ++ f.message ++ "\n    " ++ line ++ "\n    " ++ blanks caret.1 ++
    String.ofList (List.replicate caret.2 '^') ++ "\n"

def rejectionText (line : String) : Rejection → String
  | .invalid faults => "✗ invalid query\n" ++ String.join (faults.map (faultLines line))
  | r => "✗ " ++ r.message ++ "\n"

def filterText (config : Config) : Option Filter → String
  | none => "predicate: (none)\n"
  | some f =>
    "predicate:\n" ++ f.toJson.pretty ++ "\ndocument filter:\n" ++
      (f.toDocument config.ignoreCase).pretty ++ "\n"

/-- A statement without a text ends the session. -/
def selectReply : Except SelectFault Select → Reply
  | .error fault => ⟨"✗ " ++ fault.message ++ "\n", none⟩
  | .ok select =>
    match select.toSql with
    | some sql => ⟨"sql: " ++ sql ++ "\n", none⟩
    | none => ⟨"", some ⟨101, "a template asks for a value that is missing\n"⟩⟩

def queryReply (config : Config) (line : String) : Reply :=
  match Query.ofText config.limits line with
  | .error r => ⟨rejectionText line r, none⟩
  | .ok query =>
    let sql := selectReply (Select.ofQuery config query)
    { sql with
      text := "ast: " ++ query.inQuery ++ "\n" ++ filterText config (Filter.ofQuery config query) ++
        sql.text }

/-- A line without the carriage return that its end may have. -/
def withoutReturn (line : List Char) : List Char :=
  if line.getLast? = some '\r' then line.dropLast else line

/-- The answer to a line without the white space around it. A blank line has none. -/
def trimmedReply (config : Config) (line : List Char) : Reply :=
  if line.isEmpty then ⟨"", none⟩
  else if line = ":quit".toList then ⟨"", some .done⟩
  else
    match ":tokens".toList.isPrefixOf? line with
    | some query => ⟨tokenTable (String.ofList (trimLeft query)), none⟩
    | none => queryReply config (String.ofList line)

/-- The answer to a line, which may end with a carriage return and be edited with backspaces. An
edit that cuts a character ends the session. -/
def reply (config : Config) (line : List Char) : Reply :=
  match typedLine? (withoutReturn line) with
  | some typed => trimmedReply config (trim typed)
  | none => ⟨"", some ⟨101, "a backspace leaves half a character\n"⟩⟩

/-- A line that is no text ends the session. -/
def rawReply (config : Config) (line : List UInt8) : Reply :=
  match textOfBytes? line with
  | none => ⟨"", some (.failure invalidEncoding [invalidEncoding])⟩
  | some text => reply config text.toList

def converse (config : Config) : List (List UInt8) → Transcript
  | [] => ⟨"", .done⟩
  | line :: lines =>
    let r := rawReply config line
    match r.exit with
    | some exit => ⟨r.text, exit⟩
    | none =>
      let more := converse config lines
      ⟨r.text ++ more.text, more.exit⟩

/-- The lines of an input; their ends are no part of them. -/
def inputLines (input : List UInt8) : List (List UInt8) := input.splitOn '\n'.toUInt8

/-- A whole session. -/
def run (arguments : List String) (file : FileState) (input : List UInt8) : Transcript :=
  match start arguments file with
  | (text, .error exit) => ⟨banner ++ text, exit⟩
  | (text, .ok config) =>
    let session := converse config (inputLines input)
    ⟨banner ++ text ++ session.text, session.exit⟩

end TicketQuery.Shell
