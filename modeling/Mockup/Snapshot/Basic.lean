import Mockup.Component.Table
import Mockup.Node.Basic

/-!
# Snapshots

A design together with the answers to all references in it. An instance has no children in a
snapshot: its slots are read from the node itself.
-/

namespace Mockup

structure Snapshot where
  node : Node
  component : Option Component := none
  /-- Names of the shared styles, as far as they are known. -/
  fillStyle : Option String := none
  cornerStyle : Option String := none
  textStyle : Option String := none
  fillVariable : Option String := none
  /-- Keys of properties and the names of the components that they swap in. -/
  swaps : OrderedMap String String := .empty
  children : List Snapshot := []

namespace Snapshot

def name (s : Snapshot) : String :=
  s.node.name

def swapStarting? (s : Snapshot) (start : String) : Option String :=
  (s.swaps.findKey? (Text.startsWith start)).map (·.2)

def swapMentioning? (s : Snapshot) (fragment : String) : Option String :=
  (s.swaps.findKey? (Text.contains fragment)).map (·.2)

mutual

def preorder : Snapshot → List Snapshot
  | s@⟨_, _, _, _, _, _, _, children⟩ => s :: preorderAll children

def preorderAll : List Snapshot → List Snapshot
  | [] => []
  | s :: rest => s.preorder ++ preorderAll rest

end

def rowMarker : String := "List"

/-- The kind of widget an instance is. The name decides before the component; an instance without
a known component is a container. -/
def widgetKind (s : Snapshot) (table : ComponentTable) : ComponentKind :=
  if Text.contains rowMarker s.name then .listRow
  else
    match s.component.bind (·.identity?) with
    | some identity => table.lookup identity
    | none => .container

def widgets (s : Snapshot) (table : ComponentTable) : List (Snapshot × ComponentKind) :=
  (s.preorder.filter (·.node.kind == .componentInstance)).map fun i => (i, i.widgetKind table)

end Snapshot
end Mockup
