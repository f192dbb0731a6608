import Mockup.Json.Decode

/-!
# Identifiers and kinds of nodes
-/

namespace Mockup

structure NodeId where
  text : String
deriving DecidableEq, Repr, Inhabited

structure StyleId where
  text : String
deriving DecidableEq, Repr

structure VariableId where
  text : String
deriving DecidableEq, Repr

/-- The kinds that a view can show; a kind outside them keeps its name. -/
inductive NodeKind where
  | frame
  | componentInstance
  | group
  | text
  | rectangle
  | ellipse
  | vector
  | line
  | other (name : String)
deriving DecidableEq, Repr

namespace NodeKind

def name : NodeKind → String
  | frame => "FRAME"
  | componentInstance => "INSTANCE"
  | group => "GROUP"
  | text => "TEXT"
  | rectangle => "RECTANGLE"
  | ellipse => "ELLIPSE"
  | vector => "VECTOR"
  | line => "LINE"
  | other name => name

def known : List NodeKind :=
  [frame, componentInstance, group, text, rectangle, ellipse, vector, line]

def ofName (s : String) : NodeKind :=
  (known.find? (·.name == s)).getD (other s)

def isOther : NodeKind → Bool
  | other _ => true
  | _ => false

end NodeKind
end Mockup
