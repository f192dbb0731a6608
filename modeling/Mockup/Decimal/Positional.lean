import Mockup.Decimal.Shortest

/-!
# Positional notation

Numbers written without an exponent: the shortest digits that read back, padded with zeros.
-/

namespace Mockup.Decimal

def Scaled.positional (d : Scaled) : String :=
  let digits := toString d.digits
  let zeros (n : Nat) : String := String.ofList (List.replicate n '0')
  if 0 ≤ d.exponent then
    digits ++ zeros d.exponent.toNat
  else
    let places := (-d.exponent).toNat
    if places < digits.length then
      String.ofList (digits.toList.take (digits.length - places)) ++ "." ++
        String.ofList (digits.toList.drop (digits.length - places))
    else
      "0." ++ zeros (places - digits.length) ++ digits

/-- A floating-point number in positional notation; negative zero keeps its sign. -/
def positional (x : Float) : String :=
  let sign := if isNegative x then "-" else ""
  match magnitude x with
  | .notANumber => "NaN"
  | .infinite => sign ++ "inf"
  | .finite 0 _ => sign ++ "0"
  | .finite m e => sign ++ (shortest .upper m e).positional

/-- A design value as source text spells it: integers below `10 ^ 15` as integers, so zero has no
sign, all else in positional notation. -/
def designValue (x : Float) : String :=
  match wholeValue? x with
  | some i => if i.natAbs < Nat.pow 10 15 then toString i else positional x
  | none => positional x

end Mockup.Decimal
