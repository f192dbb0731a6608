import Mathlib.Data.List.Nodup
import Mathlib.Data.List.Perm.Subperm
import Mathlib.Order.Nat
import Mockup.Proofs.Text.Identifier
import Mockup.View.Widget

/-!
# Names of bindings

The name that is made up for a text field is a numbered one, since among more numbers than there are
bindings one is free.
-/

namespace Mockup

namespace ModelState

private theorem numberedBinding_injective : Function.Injective numberedBinding := by
  intro m n h
  rw [numberedBinding, numberedBinding, ← String.toList_inj, String.toList_append,
    String.toList_append, Nat.toString_eq_repr, Nat.toString_eq_repr, Nat.toList_repr,
    Nat.toList_repr] at h
  have hdigits := congrArg (Nat.ofDigitChars 10 · 0) (List.append_cancel_left h)
  simpa only [Nat.ofDigitChars_ten_toDigits] using hdigits

theorem exists_free_binding (s : ModelState) :
    ∃ name ∈ (List.range' (s.bindings.length + 1) (s.bindings.length + 1)).map numberedBinding,
      name ∉ s.bindings := by
  by_contra hall
  push Not at hall
  have hnodup : ((List.range' (s.bindings.length + 1) (s.bindings.length + 1)).map
      numberedBinding).Nodup :=
    List.Nodup.map numberedBinding_injective List.nodup_range'
  have hle := (List.subperm_of_subset hnodup hall).length_le
  rw [List.length_map, List.length_range'] at hle
  omega

/-- The numbers behind the count of bindings whose names are free. -/
def freeNumbers (s : ModelState) : Set Nat :=
  { n | s.bindings.length < n ∧ numberedBinding n ∉ s.bindings }

/-- The first free name among so many numbered ones. -/
def firstFree? (s : ModelState) (tries : Nat) : Option String :=
  ((List.range' (s.bindings.length + 1) tries).map numberedBinding).find? (!s.hasBinding ·)

theorem exists_isLeast_freeNumbers (s : ModelState) :
    ∃ n ≤ 2 * s.bindings.length + 1, IsLeast s.freeNumbers n := by
  classical
  obtain ⟨name, hname, hfree⟩ := s.exists_free_binding
  obtain ⟨k, hk, rfl⟩ := List.mem_map.1 hname
  rw [List.mem_range'_1] at hk
  have hmem : k ∈ s.freeNumbers := by
    refine ⟨?_, hfree⟩
    omega
  have hleast : IsLeast s.freeNumbers (Nat.find ⟨k, hmem⟩) := Nat.isLeast_find ⟨k, hmem⟩
  refine ⟨_, ?_, hleast⟩
  have hle := hleast.2 hmem
  omega

/-- A search that gets as far as the least free number ends there, however far it could go on. -/
theorem firstFree?_eq {s : ModelState} {n tries : Nat} (h : IsLeast s.freeNumbers n)
    (htries : n ≤ s.bindings.length + tries) : s.firstFree? tries = some (numberedBinding n) := by
  have hfound : (List.range' (s.bindings.length + 1) tries).find?
      ((!s.hasBinding ·) ∘ numberedBinding) = some n := by
    rw [List.find?_range'_eq_some]
    refine ⟨?free, ?reached, ?taken⟩
    case free => simpa [hasBinding] using h.1.2
    case reached =>
      have hbehind := h.1.1
      rw [List.mem_range'_1]
      omega
    case taken =>
      intro m hbehind hbefore
      by_contra hfree
      have hmem : m ∈ s.freeNumbers := ⟨hbehind, by simpa [hasBinding] using hfree⟩
      have hle := h.2 hmem
      omega
  rw [firstFree?, List.find?_map, hfound]
  rfl

theorem freshBinding_eq {s : ModelState} {n : Nat} (h : IsLeast s.freeNumbers n)
    (hn : n ≤ 2 * s.bindings.length + 1) : s.freshBinding = numberedBinding n := by
  have hfound : s.firstFree? (s.bindings.length + 1) = some (numberedBinding n) := by
    apply firstFree?_eq h
    omega
  change (s.firstFree? (s.bindings.length + 1)).getD "" = _
  rw [hfound]
  rfl

theorem exists_freshBinding_eq (s : ModelState) : ∃ n, s.freshBinding = numberedBinding n := by
  obtain ⟨n, hn, hleast⟩ := s.exists_isLeast_freeNumbers
  exact ⟨n, freshBinding_eq hleast hn⟩

theorem freshBinding_notMem (s : ModelState) : s.freshBinding ∉ s.bindings := by
  obtain ⟨n, hn, hleast⟩ := s.exists_isLeast_freeNumbers
  rw [freshBinding_eq hleast hn]
  exact hleast.1.2

example : ((default : ModelState).addBinding "field2").freshBinding = "field3" := by
  decide

private theorem isIdentifier_numberedBinding (n : Nat) : Text.IsIdentifier (numberedBinding n) := by
  have hfield : Text.IsIdentifier "field" := ⟨List.all_eq_true.1 (by decide), 'f', rfl, rfl⟩
  refine hfield.append fun c hc => ?_
  rw [Nat.toString_eq_repr, Nat.toList_repr] at hc
  rw [Char.isAlphanum, Nat.isDigit_of_mem_toDigits (by decide) (by decide) hc, Bool.or_true]

private theorem isIdentifier_freshBinding (s : ModelState) : Text.IsIdentifier s.freshBinding := by
  obtain ⟨n, hn⟩ := s.exists_freshBinding_eq
  rw [hn]
  exact isIdentifier_numberedBinding n

end ModelState

namespace Widget

open Text (IsIdentifier LeadsWithDigit)

theorem fieldBinding_alphanumeric (s : Snapshot) (state : ModelState) :
    fieldBinding s state ≠ "" ∧ ∀ c ∈ (fieldBinding s state).toList, c.isAlphanum = true := by
  have hfresh := state.isIdentifier_freshBinding
  rw [fieldBinding]
  split
  · exact ⟨hfresh.ne_empty, hfresh.1⟩
  · next hlabel => exact ⟨hlabel, Text.isAlphanum_of_mem_camelCase _⟩

/-- Only the label decides whether the binding of a text field is an identifier: one that is made up
always is. -/
theorem isIdentifier_fieldBinding_iff (s : Snapshot) (state : ModelState) :
    IsIdentifier (fieldBinding s state) ↔ ¬ LeadsWithDigit (s.node.slot "Text") := by
  rw [fieldBinding]
  split
  · next hlabel =>
    rw [Text.camelCase_eq_empty_iff] at hlabel
    exact iff_of_true state.isIdentifier_freshBinding (Text.not_leadsWithDigit hlabel)
  · next hlabel => exact Text.isIdentifier_camelCase_iff hlabel

end Widget

end Mockup
