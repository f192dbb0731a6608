/-!
# Binary magnitudes

A finite floating-point number is `mantissa · 2 ^ exponent` with a sign. The exact questions about
a number (is it whole, which integer is nearest) are answered on the mantissa and the exponent.
-/

namespace Mockup.Decimal

/-- What a floating-point number is, its sign apart. -/
inductive Magnitude where
  | finite (mantissa : Nat) (exponent : Int)
  | infinite
  | notANumber
deriving DecidableEq, Repr

def fractionField (x : Float) : Nat :=
  x.toBits.toNat % Nat.pow 2 52

def exponentField (x : Float) : Nat :=
  x.toBits.toNat / Nat.pow 2 52 % Nat.pow 2 11

/-- Whether the sign bit is set; it is for negative zero. -/
def isNegative (x : Float) : Bool :=
  Nat.pow 2 63 ≤ x.toBits.toNat

def magnitude (x : Float) : Magnitude :=
  if exponentField x = 2047 then
    if fractionField x = 0 then .infinite else .notANumber
  else if exponentField x = 0 then
    .finite (fractionField x) (-1074)
  else
    .finite (Nat.pow 2 52 + fractionField x) (exponentField x - 1075)

/-- The integer part of `mantissa · 2 ^ exponent`. -/
def wholePart (mantissa : Nat) (exponent : Int) : Nat :=
  mantissa * Nat.pow 2 exponent.toNat / Nat.pow 2 (-exponent).toNat

/-- Whether `mantissa · 2 ^ exponent` is an integer. -/
def isWhole (mantissa : Nat) (exponent : Int) : Bool :=
  mantissa * Nat.pow 2 exponent.toNat % Nat.pow 2 (-exponent).toNat = 0

/-- The integer nearest to `mantissa · 2 ^ exponent`, a half going up. -/
def nearestWhole (mantissa : Nat) (exponent : Int) : Nat :=
  wholePart (mantissa * Nat.pow 2 (exponent.toNat + 1) + Nat.pow 2 (-exponent).toNat)
    (-(-exponent).toNat - 1)

def wholeValue? (x : Float) : Option Int :=
  match magnitude x with
  | .finite m e =>
    if isWhole m e then
      some (if isNegative x then -(wholePart m e : Int) else wholePart m e)
    else
      none
  | _ => none

end Mockup.Decimal
