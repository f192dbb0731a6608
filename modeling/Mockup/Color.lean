import Mockup.Decimal.Binary

/-!
# Colours

Red, green and blue channels between 0 and 1, and their 8-bit form.
-/

namespace Mockup

structure Rgb where
  r : Float
  g : Float
  b : Float

namespace Rgb

/-- A channel in 8 bits: the integer nearest to 255 times the channel, kept within the range. What
is no number counts as 0. -/
def channel8 (c : Float) : Nat :=
  let scaled := c * 255.0
  match Decimal.magnitude scaled with
  | .notANumber => 0
  | .infinite => if Decimal.isNegative scaled then 0 else 255
  | .finite m e => if Decimal.isNegative scaled then 0 else min 255 (Decimal.nearestWhole m e)

def of8 (r g b : Nat) : Rgb where
  r := Float.ofNat r / 255.0
  g := Float.ofNat g / 255.0
  b := Float.ofNat b / 255.0

def to8 (color : Rgb) : List Nat :=
  [channel8 color.r, channel8 color.g, channel8 color.b]

def hexByte (n : Nat) : String :=
  String.ofList [Nat.digitChar (n / 16), Nat.digitChar (n % 16)]

def hex (color : Rgb) : String :=
  "#" ++ String.join (color.to8.map hexByte)

end Rgb
end Mockup
