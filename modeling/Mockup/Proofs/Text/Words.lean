import Mathlib.Tactic.Common
import Mockup.Text.Words

/-!
# Letters of names

Names made of words consist of ASCII letters and digits alone.
-/

namespace Mockup.Text

theorem toNat_of_isAlphanum {c : Char} (h : c.isAlphanum = true) :
    (65 ≤ c.toNat ∧ c.toNat ≤ 90) ∨ (97 ≤ c.toNat ∧ c.toNat ≤ 122) ∨
      (48 ≤ c.toNat ∧ c.toNat ≤ 57) := by
  change (decide (65 ≤ c.val ∧ c.val ≤ 90) || (decide (97 ≤ c.val) && decide (c.val ≤ 122)) ||
    (decide (48 ≤ c.val) && decide (c.val ≤ 57))) = true at h
  simp only [Bool.or_eq_true, Bool.and_eq_true, decide_eq_true_eq, UInt32.le_iff_toNat_le,
    or_assoc] at h
  exact h

theorem toNat_lt_of_isAlphanum {c : Char} (h : c.isAlphanum = true) : c.toNat < 128 := by
  have hcodes := toNat_of_isAlphanum h
  omega

/-- What holds of the letters and digits among the ASCII codes holds of all letters and digits. -/
theorem of_isAlphanum {P : Char → Prop}
    (hascii : ∀ n < 128, (Char.ofNat n).isAlphanum = true → P (Char.ofNat n)) {c : Char}
    (h : c.isAlphanum = true) : P c := by
  have hc := hascii c.toNat (toNat_lt_of_isAlphanum h)
  rw [Char.ofNat_toNat] at hc
  exact hc h

theorem isAlphanum_toLower {c : Char} (h : c.isAlphanum = true) :
    c.toLower.isAlphanum = true :=
  of_isAlphanum (P := fun c => c.toLower.isAlphanum = true) (by decide) h

theorem isAlphanum_toUpper {c : Char} (h : c.isAlphanum = true) :
    c.toUpper.isAlphanum = true :=
  of_isAlphanum (P := fun c => c.toUpper.isAlphanum = true) (by decide) h

theorem mem_of_mem_splitOnP {p : Char → Bool} {cs run : List Char} (h : run ∈ cs.splitOnP p)
    {c : Char} (hc : c ∈ run) : c ∈ cs ∧ p c = false := by
  induction cs generalizing run with
  | nil =>
    rw [List.splitOnP_nil, List.mem_singleton] at h
    rw [h] at hc
    cases hc
  | cons d cs ih =>
    rw [List.splitOnP_cons_eq_if_modifyHead] at h
    by_cases hd : p d = true
    · rw [if_pos hd] at h
      rcases List.mem_cons.1 h with rfl | h
      · cases hc
      · exact ⟨List.mem_cons_of_mem d (ih h hc).1, (ih h hc).2⟩
    · rw [if_neg hd] at h
      obtain ⟨first, rest, hsplit⟩ := List.exists_cons_of_ne_nil (List.splitOnP_ne_nil p cs)
      rw [hsplit, List.modifyHead_cons] at h
      rcases List.mem_cons.1 h with rfl | h
      · rcases List.mem_cons.1 hc with rfl | hc
        · exact ⟨List.mem_cons_self, by simpa using hd⟩
        · have hfirst : first ∈ cs.splitOnP p := by simp [hsplit]
          exact ⟨List.mem_cons_of_mem d (ih hfirst hc).1, (ih hfirst hc).2⟩
      · have hrest : run ∈ cs.splitOnP p := by simp [hsplit, h]
        exact ⟨List.mem_cons_of_mem d (ih hrest hc).1, (ih hrest hc).2⟩

theorem flatten_splitOnP (p : Char → Bool) (cs : List Char) :
    (cs.splitOnP p).flatten = cs.filter (!p ·) := by
  induction cs with
  | nil => rfl
  | cons c cs ih =>
    rw [List.splitOnP_cons_eq_if_modifyHead]
    obtain ⟨first, rest, hsplit⟩ := List.exists_cons_of_ne_nil (List.splitOnP_ne_nil p cs)
    rw [hsplit] at ih ⊢
    cases hc : p c with
    | true => simpa [hc] using ih
    | false => simpa [hc] using ih

theorem flatten_words (cs : List Char) : (words cs).flatten = cs.filter Char.isAlphanum := by
  rw [words, List.flatten_filter_ne_nil, flatten_splitOnP]
  simp

theorem isAlphanum_of_mem_words {cs word : List Char} (h : word ∈ words cs) :
    ∀ c ∈ word, c.isAlphanum = true := by
  intro c hc
  simpa using (mem_of_mem_splitOnP (List.mem_filter.1 h).1 hc).2

private theorem isAlphanum_of_mem_lower {word : List Char}
    (h : ∀ c ∈ word, c.isAlphanum = true) : ∀ c ∈ word.map Char.toLower, c.isAlphanum = true := by
  intro c hc
  obtain ⟨d, hd, rfl⟩ := List.mem_map.1 hc
  exact isAlphanum_toLower (h d hd)

theorem isAlphanum_of_mem_capitalizeWord {word : List Char}
    (h : ∀ c ∈ word, c.isAlphanum = true) : ∀ c ∈ capitalizeWord word, c.isAlphanum = true := by
  cases word with
  | nil => simp [capitalizeWord]
  | cons first rest =>
    intro c hc
    rcases List.mem_cons.1 hc with rfl | hc
    · exact isAlphanum_toUpper (h first List.mem_cons_self)
    · exact h c (List.mem_cons_of_mem first hc)

theorem isAlphanum_of_mem_compactName (name : String) :
    ∀ c ∈ (compactName name).toList, c.isAlphanum = true := by
  intro c hc
  rw [compactName, String.toList_ofList] at hc
  exact (List.mem_filter.1 hc).2

theorem isAlphanum_of_mem_camelCase (name : String) :
    ∀ c ∈ (camelCase name).toList, c.isAlphanum = true := by
  intro c hc
  rw [camelCase, String.toList_ofList] at hc
  have hwords : ∀ w ∈ words name.toList, ∀ c ∈ w, c.isAlphanum = true :=
    fun w hw => isAlphanum_of_mem_words hw
  cases hcases : words name.toList with
  | nil =>
    rw [hcases] at hc
    cases hc
  | cons first others =>
    rw [hcases] at hc hwords
    rcases List.mem_append.1 hc with hc | hc
    · exact isAlphanum_of_mem_lower (hwords first List.mem_cons_self) c hc
    · obtain ⟨capital, hcapital, hc⟩ := List.mem_flatten.1 hc
      obtain ⟨w, hw, rfl⟩ := List.mem_map.1 hcapital
      refine isAlphanum_of_mem_capitalizeWord ?_ c hc
      exact isAlphanum_of_mem_lower (hwords w (List.mem_cons_of_mem first hw))

end Mockup.Text
