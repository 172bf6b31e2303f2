/-! # Files by path

What a path leads to, and a directory that is held in memory. Paths are taken from that directory;
outside of it nothing is known but that there are directories on the way up. -/
namespace TicketQuery

inductive FileState where
  | missing
  | directory
  | unreadable (reason : String)
  | content (bytes : List UInt8)
  deriving DecidableEq, Repr

/-- The names on the way to an entry, and its content, which a directory lacks. Directories on the
way to an entry need none of their own. -/
structure FileTree where
  entries : List (List String × Option (List UInt8))
  deriving DecidableEq, Repr

/-- A place on the way along a path. -/
inductive FilePlace where
  | inside (names : List String)
  | outside
  deriving DecidableEq, Repr

def pathNames (path : String) : List String := (path.toList.splitOn '/').map String.ofList

namespace FileTree

def isDirectory (t : FileTree) (names : List String) : Bool :=
  names.isEmpty ||
    t.entries.any fun e => names.isPrefixOf e.1 && (names.length < e.1.length || e.2.isNone)

/-- One name further, which only a directory allows. -/
def step (t : FileTree) (place : FilePlace) (name : String) : Option FilePlace :=
  match place with
  | .outside => if name ∈ ["", ".", ".."] then some .outside else none
  | .inside names =>
    if !t.isDirectory names then none
    else if name ∈ ["", "."] then some (.inside names)
    else if name = ".." then
      if names.isEmpty then some .outside else some (.inside names.dropLast)
    else some (.inside (names ++ [name]))

def stateAt (t : FileTree) : FilePlace → FileState
  | .outside => .directory
  | .inside names =>
    if t.isDirectory names then .directory
    else
      match t.entries.lookup names with
      | some (some bytes) => .content bytes
      | _ => .missing

/-- The empty path leads nowhere, and one that starts with a slash leads outside. -/
def lookup (t : FileTree) (path : String) : FileState :=
  if path.isEmpty then .missing
  else
    let start := if path.startsWith "/" then FilePlace.outside else .inside []
    match (pathNames path).foldlM t.step start with
    | some place => t.stateAt place
    | none => .missing

end FileTree

example : (FileTree.mk [(["a"], some [1])]).lookup "./a" = .content [1] := by decide +kernel
example : (FileTree.mk [(["a"], some [1])]).lookup "a/" = .missing := by decide +kernel
example : (FileTree.mk [(["d", "a"], some [1])]).lookup "d" = .directory := by decide +kernel

end TicketQuery
