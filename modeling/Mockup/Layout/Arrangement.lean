import Mockup.Layout.Spacing
import Mockup.Node.Basic

/-!
# Arrangement

How a node is laid out follows from the node, its parent and the parent's children.
-/

namespace Mockup

inductive Axis where
  | horizontal
  | vertical
deriving DecidableEq, Repr

namespace Axis

def name : Axis → String
  | horizontal => "Horizontal"
  | vertical => "Vertical"

def container : Axis → String
  | horizontal => "HStack"
  | vertical => "VStack"

end Axis

inductive RowPosition where
  | leading
  | trailing
  | center
deriving DecidableEq, Repr

def RowPosition.name : RowPosition → String
  | leading => "leading"
  | trailing => "trailing"
  | center => "center"

inductive RowRole where
  | spaceBetween
  | leading
  | trailing
  | center
  | unknown
deriving DecidableEq, Repr

def RowRole.name : RowRole → String
  | spaceBetween => "SpaceBetween"
  | leading => "Leading"
  | trailing => "Trailing"
  | center => "Center"
  | unknown => "Unknown"

inductive EdgeSet where
  | all
  | horizontal
  | vertical
  | leading
  | trailing
  | top
  | bottom
deriving DecidableEq, Repr

namespace EdgeSet

/-- The argument that names the edges; all edges need none. -/
def argument : EdgeSet → String
  | all => ""
  | horizontal => ".horizontal, "
  | vertical => ".vertical, "
  | leading => ".leading, "
  | trailing => ".trailing, "
  | top => ".top, "
  | bottom => ".bottom, "

end EdgeSet

structure PaddingModifier where
  edges : EdgeSet
  amount : Spacing

def PaddingModifier.text (m : PaddingModifier) : String :=
  ".padding(" ++ m.edges.argument ++ m.amount.display ++ ")"

namespace Padding

def modifier? (edges : EdgeSet) (value : Float) : Option PaddingModifier :=
  if 0 < value then some ⟨edges, .ofLength value⟩ else none

/-- The modifiers in the shortest form that says the padding. -/
def modifiers (p : Padding) : List PaddingModifier :=
  List.filterMap id (
    if p.isUniform then [modifier? .all p.left]
    else if p.isSymmetric then [modifier? .horizontal p.left, modifier? .vertical p.top]
    else [modifier? .leading p.left, modifier? .trailing p.right, modifier? .top p.top,
      modifier? .bottom p.bottom])

end Padding

namespace Node

/-- Only frames with horizontal layout are horizontal. -/
def axis (n : Node) : Axis :=
  if n.isFrame && n.layout.mode == .horizontal then .horizontal else .vertical

def scalesWidth (n : Node) : Bool :=
  n.layout.constraints.any (·.horizontal == .scale)

/-- Whether a node spans the available width. With automatic layout it does when it is
stretched, or inherits from a parent that is; only the direct parent counts. Else its horizontal
constraint decides. -/
def spansWidth (n : Node) (parent : Option Node) : Bool :=
  if n.layout.mode = .none then n.scalesWidth
  else
    match n.layout.align, parent with
    | .stretch, _ => true
    | .inherit, some p => p.layout.align == .stretch
    | _, _ => n.scalesWidth

/-- The position of a text: in a horizontal parent the first of all children leads and the last
trails. -/
def rowPosition (n : Node) (parent : Option Node) : RowPosition :=
  match parent with
  | none => .leading
  | some p =>
    if p.axis = .horizontal then
      let index := p.idxOfChild? n.id
      if index = some 0 then .leading
      else if index = some (p.children.length - 1) then .trailing
      else if n.text.align = .center then .center
      else .leading
    else .leading

/-- The role of a frame in its row; it is reported and decides nothing. -/
def rowRole (n : Node) (parent : Option Node) : RowRole :=
  if n.axis = .vertical then .unknown
  else if n.layout.distribution = .spaceBetween then .spaceBetween
  else
    match parent with
    | none => .unknown
    | some p =>
      if p.axis = .vertical then .unknown
      else
        let frames := p.children.filter (·.isFrame)
        match frames.findIdx? (·.id == n.id) with
        | some 0 => .leading
        | some index => if index + 1 = frames.length then .trailing else .center
        | none => .center

def spreadsChildren (n : Node) (parent : Option Node) : Bool :=
  n.axis == .horizontal && (n.spansWidth parent || n.layout.distribution == .spaceBetween)

end Node

structure Arrangement where
  axis : Axis
  spacing : Spacing
  padding : List PaddingModifier
  spansWidth : Bool
  rowPosition : RowPosition

def Arrangement.of (n : Node) (parent : Option Node) : Arrangement where
  axis := n.axis
  spacing := .ofGap n.layout.itemSpacing
  padding := n.layout.padding.modifiers
  spansWidth := n.spansWidth parent
  rowPosition := n.rowPosition parent

end Mockup
