/-!
# Reading decimals

A decimal number as people write it: sign, digits with an optional point, exponent, or the name of
a value that is no real number. The result is the nearest floating-point number.
-/

namespace Mockup.Decimal

def digitsValue (cs : List Char) : Nat :=
  cs.foldl (fun n c => 10 * n + (c.toNat - '0'.toNat)) 0

/-- `digits · 10 ^ exponent` as a floating-point number; beyond every one the result is infinite,
below every one it is zero. -/
def nearestFloat (digits : Nat) (exponent : Int) : Float :=
  let size := exponent + (toString digits).length
  if digits = 0 ∨ size < -400 then 0
  else if 400 < size then 1.0 / 0.0
  else Float.ofScientific digits (exponent < 0) exponent.natAbs

/-- The value of an exponent part, empty or introduced by `e`. -/
def readExponent? : List Char → Option Int
  | [] => some 0
  | e :: rest =>
    if e.toLower = 'e' then
      let (negative, digits) : Bool × List Char :=
        match rest with
        | '-' :: ds => (true, ds)
        | '+' :: ds => (false, ds)
        | ds => (false, ds)
      if digits ≠ [] ∧ digits.all Char.isDigit then
        some (if negative then -(digitsValue digits : Int) else digitsValue digits)
      else
        none
    else
      none

def readUnsigned? (cs : List Char) : Option Float :=
  let name := String.ofList (cs.map Char.toLower)
  if name = "inf" ∨ name = "infinity" then some (1.0 / 0.0)
  else if name = "nan" then some (0.0 / 0.0)
  else
    let (whole, rest) := cs.span Char.isDigit
    let (fraction, rest) :=
      match rest with
      | '.' :: rest => rest.span Char.isDigit
      | rest => ([], rest)
    if whole = [] ∧ fraction = [] then none
    else (readExponent? rest).map fun e =>
      nearestFloat (digitsValue (whole ++ fraction)) (e - fraction.length)

def read? (s : String) : Option Float :=
  match s.toList with
  | '-' :: cs => (readUnsigned? cs).map (-·)
  | '+' :: cs => readUnsigned? cs
  | cs => readUnsigned? cs

end Mockup.Decimal
