import TicketQuery.Shell

/-! # The command line

Reads the configuration file and standard input, and prints what the shell answers line by line. -/
namespace TicketQuery.Main

/-- The state of a file on disk. -/
def fileState (path : String) : IO FileState := do
  try
    return .content (← IO.FS.readBinFile path).toList
  catch
    | .noFileOrDirectory .. => return .missing
    | .inappropriateType _ 21 _ => return .directory
    | .inappropriateType .. => return .missing
    | e => return .unreadable (toString e)

/-- The bytes up to the end of a line, and whether the input went on behind them. -/
partial def readLine (input : IO.FS.Stream) (line : List UInt8) : IO (List UInt8 × Bool) := do
  match (← input.read 1).toList with
  | [] => return (line.reverse, false)
  | b :: _ => if b = '\n'.toUInt8 then return (line.reverse, true) else readLine input (b :: line)

partial def converse (config : Config) (input output : IO.FS.Stream) : IO Shell.Exit := do
  let (line, more) ← readLine input []
  let reply := Shell.rawReply config line
  output.putStr reply.text
  output.flush
  match reply.exit with
  | some exit => return exit
  | none => if more then converse config input output else return .done

def session (arguments : List String) : IO UInt32 := do
  let output ← IO.getStdout
  output.putStr Shell.banner
  let (text, start) := Shell.start arguments (← fileState (Shell.configFile arguments))
  output.putStr text
  let exit ← match start with
    | .ok config => converse config (← IO.getStdin) output
    | .error exit => pure exit
  (← IO.getStderr).putStr exit.report
  return exit.code.toUInt32

end TicketQuery.Main

def main (arguments : List String) : IO UInt32 := TicketQuery.Main.session arguments
