import TicketQuery.ConfigReader
import TicketQuery.FileTree

/-! # Configuration files

A configuration file must be there, be readable as text, and hold a configuration. -/
namespace TicketQuery

inductive ConfigFault where
  | notFound (path : String)
  | unreadable (reason : String)
  | malformed (path text : String) (fault : JsonFault)
  deriving DecidableEq, Repr

namespace ConfigFault

def message : ConfigFault → String
  | notFound path => "Configuration error: config file not found: " ++ path
  | unreadable reason => "IO error: " ++ reason
  | malformed path text fault =>
    "Configuration error: cannot parse config file " ++ path ++ ": JSON error: " ++
      fault.message text

/-- The fault and what lies behind it, the nearest cause first. -/
def causes (f : ConfigFault) : List String :=
  f.message ::
    match f with
    | unreadable reason => [reason]
    | _ => []

end ConfigFault

def invalidEncoding : String := "stream did not contain valid UTF-8"

def notAFile : String := "Is a directory (os error 21)"

def textOfBytes? (bytes : List UInt8) : Option String := String.fromUTF8? ⟨bytes.toArray⟩

def Config.ofFile (path : String) : FileState → Except ConfigFault Config
  | .missing => .error (.notFound path)
  | .directory => .error (.unreadable notAFile)
  | .unreadable reason => .error (.unreadable reason)
  | .content bytes =>
    match textOfBytes? bytes with
    | none => .error (.unreadable invalidEncoding)
    | some text =>
      match Config.ofJsonText text with
      | .ok c => .ok c
      | .error f => .error (.malformed path text f)

end TicketQuery
