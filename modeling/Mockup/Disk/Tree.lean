import Mockup.Disk.Path
import Mockup.OrderedMap

/-!
# File trees

Files and directories with a current directory: reading, writing and making directories.
-/

namespace Mockup

/-- A place in a file tree: the path from the top, which is empty for the top itself. -/
abbrev Place := String

namespace Place

def top : Place := ""

def child (place : Place) (name : String) : Place :=
  place ++ "/" ++ name

def parent (place : Place) : Place :=
  String.ofList ((place.toList.reverse.dropWhile (· ≠ '/')).drop 1).reverse

def below? (directory place : Place) : Option String :=
  let start := (directory ++ "/").toList
  if start.isPrefixOf place.toList then some (String.ofList (place.toList.drop start.length))
  else none

end Place

inductive Entry where
  | file (content : String)
  | directory
deriving DecidableEq, Repr

structure FileTree where
  entries : OrderedMap Place Entry := .empty
  current : Place := .top

namespace FileTree

/-- What is at a place; the top is a directory. -/
def entry? (t : FileTree) (place : Place) : Option Entry :=
  if place = .top then some .directory else t.entries.get? place

def put (t : FileTree) (place : Place) (entry : Entry) : FileTree :=
  { t with entries := t.entries.insert place entry }

def start (t : FileTree) (path : String) : Place :=
  if Path.isAbsolute path then .top else t.current

def enter? (t : FileTree) (place : Place) : List String → Option Place
  | [] => some place
  | name :: rest =>
    if Path.staysThere name then enter? t place rest
    else if name = ".." then enter? t place.parent rest
    else
      match t.entry? (place.child name) with
      | some .directory => enter? t (place.child name) rest
      | _ => none

/-- The place of a file, whose directory must be there. -/
def filePlace? (t : FileTree) (path : String) : Option Place := do
  let names := Path.names path
  let name ← names.getLast?
  let directory ← t.enter? (t.start path) names.dropLast
  if Path.isPath path ∧ Path.isName name ∧ ¬Path.staysThere name ∧ name ≠ ".." then
    some (directory.child name)
  else
    none

def read? (t : FileTree) (path : String) : Option String := do
  match ← t.entry? (← t.filePlace? path) with
  | .file content => some content
  | .directory => none

def write? (t : FileTree) (path content : String) : Option FileTree := do
  let place ← t.filePlace? path
  match t.entry? place with
  | some .directory => none
  | _ => some (t.put place (.file content))

/-- The tree in which names lead to a directory, and whether they do: missing directories are made
up to the first name that cannot be one. -/
def makeAlong (t : FileTree) (place : Place) : List String → FileTree × Bool
  | [] => (t, true)
  | name :: rest =>
    if Path.staysThere name then makeAlong t place rest
    else if name = ".." then makeAlong t place.parent rest
    else
      match t.entry? (place.child name) with
      | some .directory => makeAlong t (place.child name) rest
      | some (.file _) => (t, false)
      | none =>
        if Path.isName name then
          makeAlong (t.put (place.child name) .directory) (place.child name) rest
        else
          (t, false)

def makeDirectories (t : FileTree) (path : String) : FileTree × Bool :=
  if Path.isPath path then t.makeAlong (t.start path) (Path.names path) else (t, false)

def filesBelow (t : FileTree) (directory : Place) : List (String × String) :=
  t.entries.entries.filterMap fun (place, entry) =>
    match entry with
    | .file content => (directory.below? place).map (·, content)
    | .directory => none

end FileTree
end Mockup
