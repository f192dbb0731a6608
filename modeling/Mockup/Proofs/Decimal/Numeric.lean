import Mathlib.Tactic.Common
import Mockup.Decimal.Positional

/-!
# Characters of numbers

The characters with which numbers are written, in positional notation and as design values.
-/

namespace Mockup.Decimal

/-- The characters of numbers, of infinities and of what is no number. -/
def isNumeric (c : Char) : Bool :=
  c.isDigit || c ∈ ['-', '.', 'N', 'a', 'i', 'n', 'f']

def Numeric (s : String) : Prop :=
  ∀ c ∈ s.toList, isNumeric c = true

theorem Numeric.of_all {s : String} (h : s.toList.all isNumeric = true) : Numeric s :=
  List.all_eq_true.1 h

theorem Numeric.append {a b : String} (ha : Numeric a) (hb : Numeric b) : Numeric (a ++ b) := by
  intro c hc
  rw [String.toList_append, List.mem_append] at hc
  exact hc.elim (ha c) (hb c)

theorem numeric_toString (n : Nat) : Numeric (toString n) := by
  intro c hc
  rw [Nat.toString_eq_repr, Nat.toList_repr] at hc
  rw [isNumeric, Nat.isDigit_of_mem_toDigits (by decide) (by decide) hc]
  rfl

theorem numeric_zeros (n : Nat) : Numeric (String.ofList (List.replicate n '0')) := by
  intro c hc
  rw [String.toList_ofList] at hc
  rw [List.eq_of_mem_replicate hc]
  decide

theorem Numeric.sublist {s : String} (h : Numeric s) {cs : List Char} (hcs : cs ⊆ s.toList) :
    Numeric (String.ofList cs) := by
  intro c hc
  rw [String.toList_ofList] at hc
  exact h c (hcs hc)

theorem numeric_scaled (d : Scaled) : Numeric d.positional := by
  have hdigits := numeric_toString d.digits
  have hpoint : Numeric "." := .of_all (by decide)
  have hzero : Numeric "0." := .of_all (by decide)
  rw [Scaled.positional]
  dsimp only
  split
  · exact hdigits.append (numeric_zeros _)
  · split
    · exact ((hdigits.sublist (List.take_subset _ _)).append hpoint).append
        (hdigits.sublist (List.drop_subset _ _))
    · exact (hzero.append (numeric_zeros _)).append hdigits

theorem numeric_positional (x : Float) : Numeric (positional x) := by
  have hsign : Numeric (if isNegative x then "-" else "") := by
    split
    · exact .of_all (by decide)
    · exact .of_all (by decide)
  rw [positional]
  split
  · exact .of_all (by decide)
  · exact hsign.append (.of_all (by decide))
  · exact hsign.append (.of_all (by decide))
  · exact hsign.append (numeric_scaled _)

theorem numeric_int (i : Int) : Numeric (toString i) := by
  cases i with
  | ofNat n => exact numeric_toString n
  | negSucc n =>
    have hminus : Numeric "-" := .of_all (by decide)
    exact hminus.append (numeric_toString (n + 1))

theorem numeric_designValue (x : Float) : Numeric (designValue x) := by
  rw [designValue]
  split
  · split
    · exact numeric_int _
    · exact numeric_positional x
  · exact numeric_positional x

end Mockup.Decimal
