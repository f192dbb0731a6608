import Mockup.Decimal.Positional

/-!
# Spacing

Gaps, paddings and radii are named by the tokens of the design system where it has one for the
exact value.
-/

namespace Mockup

inductive Spacing where
  | token (name : String)
  | literal (value : Float)
  /-- Any negative gap: the children overlap by a fixed amount. -/
  | overlap

namespace Spacing

def tokens : List (Float × String) := [
  (0, "none"), (2, "xxxs"), (4, "xxs"), (8, "xs"), (10, "sm"), (12, "sm"), (16, "md"), (24, "lg"),
  (32, "xl"), (40, "xxl"), (48, "xxxl"), (64, "xxxxl"), (360, "full")]

def token? (value : Float) : Option String :=
  (tokens.find? (·.1 == value)).map (·.2)

/-- A padding or a radius: its token, else the value itself. -/
def ofLength (value : Float) : Spacing :=
  match token? value with
  | some name => .token name
  | none => .literal value

def ofGap (value : Float) : Spacing :=
  if value < 0 then .overlap else ofLength value

def overlapValue : Float := -50

def display : Spacing → String
  | token name => "." ++ name
  | literal value => Decimal.designValue value
  | overlap => Decimal.designValue overlapValue

def isOverlap : Spacing → Bool
  | overlap => true
  | _ => false

end Spacing
end Mockup
