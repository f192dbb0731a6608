import Mockup.Layout.Spacing
import Mockup.Snapshot.Basic
import Mockup.Style.Token

/-!
# Colours, radii and fonts

Each is a token of the design system where the node uses a shared style or a variable, and a
literal elsewhere.
-/

namespace Mockup.Snapshot

def clearColor : String := ".clear"

/-- The colour of a node: that of its first fill, which must be solid. A shared style comes before
the fill's own colour. -/
def fillColor (s : Snapshot) : String :=
  match s.node.fills.head? with
  | none => clearColor
  | some paint =>
    if paint.kind = .solid then
      match s.fillStyle, paint.color with
      | some style, _ => Style.styleToken style "Color"
      | none, some color => "Color(hex: \"" ++ color.hex ++ "\")"
      | none, none => clearColor
    else
      clearColor

/-- The corner radius as an argument, when the node has one other than 0. -/
def radius? (s : Snapshot) : Option String :=
  match s.node.layout.cornerRadius with
  | none => none
  | some radius =>
    if radius == 0 then none
    else some (match s.cornerStyle with
      | some style => Style.styleToken style "CornerRadius"
      | none => (Spacing.ofLength radius).display)

def cornerModifier? (s : Snapshot) (parent : Option Node) : Option String :=
  match parent with
  | none => none
  | some _ => s.radius?.map fun radius => ".cornerRadius(" ++ radius ++ ")"

def fontName (s : Snapshot) : String :=
  match s.textStyle with
  | some style => Style.typographyName style
  | none => ""

def boundColor (s : Snapshot) : String :=
  match s.fillVariable with
  | some variableName => Style.variableToken variableName
  | none => ""

end Mockup.Snapshot
