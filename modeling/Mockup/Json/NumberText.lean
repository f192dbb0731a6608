import Mockup.Json.Value
import Mockup.Decimal.Reading

/-!
# JSON numbers

The grammar of a number and the value it denotes.
-/

namespace Mockup.Json

/-- A number as it is written: the digits before and after the point and the exponent. -/
structure NumberText where
  negative : Bool
  whole : List Char
  /-- Empty when there is no point. -/
  fraction : List Char
  /-- Absent when there is no exponent part. -/
  exponent : Option Int

/-- The digits at the start of a text that has to have some; what they say and what follows. -/
def scanDigits (cs : List Char) : Except Break (List Char × List Char) :=
  match cs.span Char.isDigit with
  | ([], []) => .error .endedInNumber
  | ([], _ :: _) => .error .malformed
  | (digits, rest) => .ok (digits, rest)

/-- The digits before the point: a zero stands alone. -/
def scanWhole (cs : List Char) : Except Break (List Char × List Char) := do
  let (digits, rest) ← scanDigits cs
  if digits.head? = some '0' ∧ digits.length ≠ 1 then .error .malformed else .ok (digits, rest)

def scanFraction : List Char → Except Break (List Char × List Char)
  | '.' :: rest => scanDigits rest
  | cs => .ok ([], cs)

def scanExponent : List Char → Except Break (Option Int × List Char)
  | [] => .ok (none, [])
  | e :: rest =>
    if e = 'e' ∨ e = 'E' then do
      let (negative, rest) : Bool × List Char :=
        match rest with
        | '-' :: rest => (true, rest)
        | '+' :: rest => (false, rest)
        | rest => (false, rest)
      let (digits, rest) ← scanDigits rest
      let n : Int := Decimal.digitsValue digits
      .ok (some (if negative then -n else n), rest)
    else
      .ok (none, e :: rest)

def scanNumber (cs : List Char) : Except Break (NumberText × List Char) := do
  let (negative, cs) : Bool × List Char :=
    match cs with
    | '-' :: rest => (true, rest)
    | cs => (false, cs)
  let (whole, cs) ← scanWhole cs
  let (fraction, cs) ← scanFraction cs
  let (exponent, cs) ← scanExponent cs
  .ok (⟨negative, whole, fraction, exponent⟩, cs)

/-- Digits collected while they fit 64 bits: the number they say and how many were taken. -/
def takeDigits (start : Nat) : List Char → Nat × Nat
  | [] => (start, 0)
  | c :: rest =>
    let next := 10 * start + (c.toNat - '0'.toNat)
    if next < UInt64.size then
      let (n, taken) := takeDigits next rest
      (n, taken + 1)
    else
      (start, 0)

/-- `10 ^ exponent` for the exponents that a float can hold. -/
def powerOfTen (exponent : Nat) : Float :=
  Float.ofScientific 1 false exponent

/-- `significand · 10 ^ exponent`, one rounding for the significand and one for each power of ten
that it is multiplied with or divided by; none when it is too large. -/
def scaled? (significand : Nat) (exponent : Int) : Option Float :=
  let start := Float.ofNat significand
  if significand = 0 then some 0
  else if 308 < exponent then none
  else if 0 ≤ exponent then
    let x := start * powerOfTen exponent.toNat
    if x.isInf then none else some x
  else if -308 ≤ exponent then some (start / powerOfTen (-exponent).toNat)
  else if -616 ≤ exponent then some (start / powerOfTen 308 / powerOfTen (-308 - exponent).toNat)
  else some 0

/-- The float a number denotes. Only the leading digits that fit 64 bits count, the others before
the point as a power of ten. -/
def NumberText.float? (t : NumberText) : Option Float :=
  let (wholeDigits, wholeTaken) := takeDigits 0 t.whole
  let (significand, fractionTaken) := takeDigits wholeDigits t.fraction
  let exponent : Int := (t.whole.length - wholeTaken : Nat) - (fractionTaken : Int)
  (scaled? significand (exponent + t.exponent.getD 0)).map fun x => if t.negative then -x else x

/-- The value a number denotes; none when it is beyond every float. Without point and exponent it
is an integer if 64 bits hold it, save for `-0`, which keeps its sign as a float. -/
def NumberText.value? (t : NumberText) : Option Number :=
  let n := Decimal.digitsValue t.whole
  if t.fraction = [] ∧ t.exponent = none then
    if t.negative then
      if 0 < n ∧ n ≤ Nat.pow 2 63 then some (.int (-n)) else t.float?.map .float
    else
      if n < UInt64.size then some (.int n) else t.float?.map .float
  else
    t.float?.map .float

end Mockup.Json
