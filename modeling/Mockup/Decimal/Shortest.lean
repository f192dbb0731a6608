import Mockup.Decimal.Binary

/-!
# Shortest decimals

The shortest decimal that reads back as a given floating-point number. The decimals that do are
those between the midpoints to the two neighbours, the midpoints included when the mantissa is
even; the coarsest grid of powers of ten with a point among them gives the fewest digits.
-/

namespace Mockup.Decimal

/-- The real numbers `digits · 10 ^ exponent`. -/
structure Scaled where
  digits : Nat
  exponent : Int
deriving DecidableEq, Repr

/-- The interval around `mantissa · 2 ^ exponent` of what reads as it, in quarters of the last
place. Below a power of two the neighbour is half as far away. -/
structure Reading where
  low : Nat
  value : Nat
  high : Nat
  /-- The power of two that is one quarter. -/
  exponent : Int
  closed : Bool

def reading (mantissa : Nat) (exponent : Int) : Reading where
  low := if mantissa = Nat.pow 2 52 ∧ -1074 < exponent then 4 * mantissa - 1 else 4 * mantissa - 2
  value := 4 * mantissa
  high := 4 * mantissa + 2
  exponent := exponent - 2
  closed := mantissa % 2 = 0

/-- The factor that makes a quarter a whole number of grid units, and what a grid point then
counts. -/
def Reading.scale (r : Reading) (power : Int) : Nat × Nat :=
  (Nat.pow 2 r.exponent.toNat * Nat.pow 10 (-power).toNat,
    Nat.pow 2 (-r.exponent).toNat * Nat.pow 10 power.toNat)

def Reading.accepts (r : Reading) (power : Int) (digits : Nat) : Bool :=
  let (quarter, unit) := r.scale power
  if r.closed then
    r.low * quarter ≤ digits * unit && digits * unit ≤ r.high * quarter
  else
    r.low * quarter < digits * unit && digits * unit < r.high * quarter

/-- Which of two equally near decimals is taken. -/
inductive Tie where
  | upper
  /-- The one with an even last digit. -/
  | even
deriving DecidableEq, Repr

/-- Whether a number goes to the grid point above, from its distances to those below and above. -/
def Tie.goesUp (tie : Tie) (below toBelow toAbove : Nat) : Bool :=
  toAbove < toBelow || (toAbove == toBelow && (tie == .upper || below % 2 == 1))

/-- The point of the grid `10 ^ power` that reads as the number and is nearest to it. -/
def Reading.gridPoint? (r : Reading) (tie : Tie) (power : Int) : Option Nat :=
  let (quarter, unit) := r.scale power
  let below := r.value * quarter / unit
  let above := below + 1
  let goesUp :=
    tie.goesUp below (r.value * quarter - below * unit) (above * unit - r.value * quarter)
  match 0 < below && r.accepts power below, r.accepts power above with
  | true, true => some (if goesUp then above else below)
  | true, false => some below
  | false, true => some above
  | false, false => none

/-- A power of ten above every number with the given mantissa and exponent. -/
def topPower (mantissa : Nat) (exponent : Int) : Int :=
  let bits := exponent + mantissa.log2 + 1
  if 0 ≤ bits then bits * 31 / 100 + 1 else bits * 3 / 10 + 1

/-- The number of grids that reaches from the top power past the last place of any number. -/
def gridCount : Nat := 48

/-- The shortest decimal that reads as `mantissa · 2 ^ exponent`. -/
def shortest (tie : Tie) (mantissa : Nat) (exponent : Int) : Scaled :=
  let r := reading mantissa exponent
  let top := topPower mantissa exponent
  let found := (List.range gridCount).findSome? fun (steps : Nat) =>
    (r.gridPoint? tie (top - steps)).map fun digits => (⟨digits, top - steps⟩ : Scaled)
  found.getD ⟨mantissa * Nat.pow 2 exponent.toNat * Nat.pow 5 (-exponent).toNat,
    -(-exponent).toNat⟩

end Mockup.Decimal
