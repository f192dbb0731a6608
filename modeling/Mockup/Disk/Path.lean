/-!
# Paths

A path names a place relative to a current directory, or from the top when it starts with `/`.
-/

namespace Mockup.Path

/-- A path and one relative to it. A path from the top stands alone. -/
def join (base path : String) : String :=
  if path.toList.head? = some '/' then path
  else if base = "" ∨ base.toList.getLast? = some '/' then base ++ path
  else base ++ "/" ++ path

def isAbsolute (path : String) : Bool :=
  path.toList.head? = some '/'

/-- The names between the slashes; the empty name and `.` stand for the directory reached. -/
def names (path : String) : List String :=
  (path.toList.splitOn '/').map String.ofList

def staysThere (name : String) : Bool :=
  name = "" || name = "."

/-- Names of files are shorter than 256 bytes and have no zero character. -/
def isName (name : String) : Bool :=
  name.utf8ByteSize ≤ 255 && !name.toList.contains '\x00'

/-- Paths are shorter than 4096 bytes. -/
def isPath (path : String) : Bool :=
  path.utf8ByteSize < 4096

end Mockup.Path
