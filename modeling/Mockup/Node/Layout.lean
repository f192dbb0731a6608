import Mockup.Json.Decode

/-!
# Layout attributes
-/

namespace Mockup

inductive LayoutMode where
  | none
  | horizontal
  | vertical
deriving DecidableEq, Repr

instance : Json.Named LayoutMode where
  all := [.none, .horizontal, .vertical]
  name
    | .none => "NONE"
    | .horizontal => "HORIZONTAL"
    | .vertical => "VERTICAL"

inductive Distribution where
  | min
  | center
  | max
  | spaceBetween
deriving DecidableEq, Repr

instance : Json.Named Distribution where
  all := [.min, .center, .max, .spaceBetween]
  name
    | .min => "MIN"
    | .center => "CENTER"
    | .max => "MAX"
    | .spaceBetween => "SPACE_BETWEEN"

/-- How a child aligns across the direction of its parent's layout. -/
inductive CrossAlign where
  | inherit
  | stretch
  | min
  | center
  | max
deriving DecidableEq, Repr

instance : Json.Named CrossAlign where
  all := [.inherit, .stretch, .min, .center, .max]
  name
    | .inherit => "INHERIT"
    | .stretch => "STRETCH"
    | .min => "MIN"
    | .center => "CENTER"
    | .max => "MAX"

/-- How a node without automatic layout resizes. -/
inductive Constraint where
  | min
  | center
  | max
  | stretch
  | scale
deriving DecidableEq, Repr

instance : Json.Named Constraint where
  all := [.min, .center, .max, .stretch, .scale]
  name
    | .min => "MIN"
    | .center => "CENTER"
    | .max => "MAX"
    | .stretch => "STRETCH"
    | .scale => "SCALE"

structure Constraints where
  horizontal : Constraint := .min
  vertical : Constraint := .min
deriving DecidableEq, Repr

structure Padding where
  top : Float := 0
  right : Float := 0
  bottom : Float := 0
  left : Float := 0

namespace Padding

def uniform (value : Float) : Padding :=
  ⟨value, value, value, value⟩

def symmetric (horizontal vertical : Float) : Padding :=
  ⟨vertical, horizontal, vertical, horizontal⟩

def isUniform (p : Padding) : Bool :=
  p.left == p.right && p.left == p.top && p.left == p.bottom

def isSymmetric (p : Padding) : Bool :=
  p.left == p.right && p.top == p.bottom

end Padding

structure LayoutAttributes where
  mode : LayoutMode := .none
  itemSpacing : Float := 0
  padding : Padding := {}
  distribution : Distribution := .min
  align : CrossAlign := .inherit
  constraints : Option Constraints := none
  cornerRadius : Option Float := none

def LayoutAttributes.setHorizontal (layout : LayoutAttributes) (horizontal : Constraint) :
    LayoutAttributes :=
  { layout with constraints := some { layout.constraints.getD {} with horizontal } }

end Mockup
