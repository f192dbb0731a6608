import Mockup.Disk.Tree

/-!
# Access to files

The operations on files that the commands need, for any kind of effect.
-/

namespace Mockup

structure FileAccess (m : Type → Type) where
  read? : String → m (Option String)
  /-- Makes a directory and those above it; whether it is there then. -/
  makeDirectories : String → m Bool
  write : String → String → m Bool

def FileTree.access : FileAccess (StateM FileTree) where
  read? path t := (t.read? path, t)
  makeDirectories path t := ((t.makeDirectories path).2, (t.makeDirectories path).1)
  write path content t :=
    match t.write? path content with
    | some after => (true, after)
    | none => (false, t)

end Mockup
