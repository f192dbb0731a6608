import Mockup.Color
import Mockup.Json.Decode

/-!
# Paints
-/

namespace Mockup

inductive PaintKind where
  | solid
  | gradientLinear
  | gradientRadial
  | gradientAngular
  | gradientDiamond
  | image
  | unsupported
deriving DecidableEq, Repr

instance : Json.Named PaintKind where
  all := [.solid, .gradientLinear, .gradientRadial, .gradientAngular, .gradientDiamond, .image,
    .unsupported]
  name
    | .solid => "SOLID"
    | .gradientLinear => "GRADIENT_LINEAR"
    | .gradientRadial => "GRADIENT_RADIAL"
    | .gradientAngular => "GRADIENT_ANGULAR"
    | .gradientDiamond => "GRADIENT_DIAMOND"
    | .image => "IMAGE"
    | .unsupported => "UNSUPPORTED"

/-- Every name that is not known is the unsupported kind. -/
def PaintKind.ofName (s : String) : PaintKind :=
  (Json.Named.ofName? s).getD .unsupported

structure Paint where
  kind : PaintKind
  color : Option Rgb := none

def Paint.solid (color : Rgb) : Paint :=
  ⟨.solid, some color⟩

end Mockup
