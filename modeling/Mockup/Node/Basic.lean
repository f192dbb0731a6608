import Mockup.Node.Kind
import Mockup.Node.Layout
import Mockup.Node.Paint
import Mockup.Node.Property
import Mockup.OrderedMap
import Mockup.Text.Search

/-!
# Nodes of a design

A design is a tree of nodes. Slots of an instance are found by searching its descendants in
preorder.
-/

namespace Mockup

inductive TextAlign where
  | left
  | center
  | right
  | justified
deriving DecidableEq, Repr

instance : Json.Named TextAlign where
  all := [.left, .center, .right, .justified]
  name
    | .left => "LEFT"
    | .center => "CENTER"
    | .right => "RIGHT"
    | .justified => "JUSTIFIED"

structure TextAttributes where
  characters : String := ""
  opacity : Float := 1
  style : Option StyleId := none
  align : TextAlign := .left
  /-- The variable that the first fill is bound to. -/
  boundFill : Option VariableId := none

structure Node where
  id : NodeId
  kind : NodeKind
  name : String := ""
  children : List Node := []
  layout : LayoutAttributes := {}
  fills : List Paint := []
  fillStyle : Option StyleId := none
  cornerStyle : Option StyleId := none
  text : TextAttributes := {}
  /-- Properties by key, in the order of the design. -/
  properties : OrderedMap String Property := .empty

namespace Node

def isFrame (n : Node) : Bool :=
  n.kind == .frame

def idxOfChild? (n : Node) (id : NodeId) : Option Nat :=
  n.children.findIdx? (·.id == id)

mutual

/-- The first descendant in preorder that passes the test. -/
def firstBelow? (test : Node → Bool) : Node → Option Node
  | ⟨_, _, _, children, _, _, _, _, _, _⟩ => firstAmong? test children

def firstAmong? (test : Node → Bool) : List Node → Option Node
  | [] => none
  | n :: rest =>
    if test n then some n
    else (n.firstBelow? test).or (firstAmong? test rest)

end

mutual

/-- All nodes of a tree in preorder, each with its parent. -/
def withParents (parent : Option Node) : Node → List (Node × Option Node)
  | n@⟨_, _, _, children, _, _, _, _, _, _⟩ => (n, parent) :: withParent n children

def withParent (parent : Node) : List Node → List (Node × Option Node)
  | [] => []
  | n :: rest => n.withParents (some parent) ++ withParent parent rest

end

/-- The content of the first text among the descendants with the slot's name. -/
def slot? (n : Node) (slot : String) : Option String :=
  (n.firstBelow? fun d => d.kind == .text && d.name == slot).map (·.text.characters)

def slot (n : Node) (slot : String) : String :=
  (n.slot? slot).getD ""

def propertyStarting? (n : Node) (start : String) : Option (String × Property) :=
  n.properties.findKey? (Text.startsWith start)

def propertyMentioning? (n : Node) (fragment : String) : Option (String × Property) :=
  n.properties.findKey? (Text.contains fragment)

/-- The labels of a segmented control: for each child the text of its slot `Button`. -/
def segmentLabels (control : Node) : List String :=
  control.children.map (·.slot "Button")

end Node
end Mockup
