import Mockup.Proofs.Text.Words

/-!
# Identifiers

Which names that are made of free text are identifiers: nothing but letters and digits is ever left
in them, so that all depends on the first letter or digit of the text.
-/

namespace Mockup.Text

/-- The text consists of ASCII letters and digits, and there is a first one, which is no digit. -/
def IsIdentifier (name : String) : Prop :=
  (∀ c ∈ name.toList, c.isAlphanum = true) ∧ ∃ c, name.toList.head? = some c ∧ c.isDigit = false

/-- The first ASCII letter or digit of the text is a digit. -/
def LeadsWithDigit (text : String) : Prop :=
  ∃ c, text.toList.find? Char.isAlphanum = some c ∧ c.isDigit = true

instance (name : String) : Decidable (IsIdentifier name) :=
  decidable_of_iff (name.toList.all Char.isAlphanum = true ∧
    name.toList.head?.any (!·.isDigit) = true) (by simp [IsIdentifier, Option.any_eq_true])

instance (text : String) : Decidable (LeadsWithDigit text) :=
  decidable_of_iff ((text.toList.find? Char.isAlphanum).any Char.isDigit = true)
    (by simp [LeadsWithDigit, Option.any_eq_true])

theorem IsIdentifier.ne_empty {name : String} (h : IsIdentifier name) : name ≠ "" := by
  rintro rfl
  obtain ⟨-, c, hc, -⟩ := h
  cases hc

theorem isIdentifier_iff {name : String} (h : ∀ c ∈ name.toList, c.isAlphanum = true) {c : Char}
    (hc : name.toList.head? = some c) : IsIdentifier name ↔ c.isDigit = false := by
  rw [IsIdentifier, hc]
  constructor
  · rintro ⟨-, d, hd, hdigit⟩
    rwa [Option.some.inj hd]
  · exact fun hdigit => ⟨h, c, rfl, hdigit⟩

private theorem leadsWithDigit_iff {text : String} {c : Char}
    (hc : text.toList.find? Char.isAlphanum = some c) :
    LeadsWithDigit text ↔ c.isDigit = true := by
  rw [LeadsWithDigit, hc]
  simp

theorem not_leadsWithDigit {text : String} (h : text.toList.find? Char.isAlphanum = none) :
    ¬ LeadsWithDigit text := by
  rintro ⟨c, hc, -⟩
  rw [h] at hc
  cases hc

theorem IsIdentifier.append {front rear : String} (h : IsIdentifier front)
    (hrear : ∀ c ∈ rear.toList, c.isAlphanum = true) : IsIdentifier (front ++ rear) := by
  obtain ⟨hchars, c, hc, hdigit⟩ := h
  rw [IsIdentifier, String.toList_append, List.forall_mem_append, List.head?_append, hc]
  exact ⟨⟨hchars, hrear⟩, c, rfl, hdigit⟩

private theorem head?_compactName (name : String) :
    (compactName name).toList.head? = name.toList.find? Char.isAlphanum := by
  rw [compactName, String.toList_ofList, List.head?_filter]

theorem isIdentifier_compactName_append_iff (name : String) {ending : String}
    (hending : IsIdentifier ending) :
    IsIdentifier (compactName name ++ ending) ↔ ¬ LeadsWithDigit name := by
  have hchars : ∀ c ∈ (compactName name ++ ending).toList, c.isAlphanum = true := by
    rw [String.toList_append, List.forall_mem_append]
    exact ⟨isAlphanum_of_mem_compactName name, hending.1⟩
  have hhead : (compactName name ++ ending).toList.head? =
      (name.toList.find? Char.isAlphanum).or ending.toList.head? := by
    rw [String.toList_append, List.head?_append, head?_compactName]
  cases hfirst : name.toList.find? Char.isAlphanum with
  | none =>
    obtain ⟨c, hc, hdigit⟩ := hending.2
    rw [hfirst, Option.none_or, hc] at hhead
    exact iff_of_true ((isIdentifier_iff hchars hhead).2 hdigit) (not_leadsWithDigit hfirst)
  | some c =>
    rw [hfirst, Option.some_or] at hhead
    rw [isIdentifier_iff hchars hhead, leadsWithDigit_iff hfirst, Bool.not_eq_true]

private theorem isDigit_toLower {c : Char} (h : c.isAlphanum = true) :
    c.toLower.isDigit = c.isDigit :=
  of_isAlphanum (P := fun c => c.toLower.isDigit = c.isDigit) (by decide) h

private theorem head?_camelCase (name : String) :
    (camelCase name).toList.head? = (name.toList.find? Char.isAlphanum).map Char.toLower := by
  rw [← List.head?_filter, ← flatten_words, camelCase, String.toList_ofList]
  cases hwords : words name.toList with
  | nil => rfl
  | cons first others =>
    have hmem : first ∈ words name.toList := hwords ▸ List.mem_cons_self
    have hne : first ≠ [] := by simpa using (List.mem_filter.1 hmem).2
    obtain ⟨c, rest, rfl⟩ := List.exists_cons_of_ne_nil hne
    rfl

theorem camelCase_eq_empty_iff (name : String) :
    camelCase name = "" ↔ name.toList.find? Char.isAlphanum = none := by
  rw [← String.toList_eq_nil_iff, ← List.head?_eq_none_iff, head?_camelCase, Option.map_eq_none_iff]

/-- A name in camel case is an identifier unless it is empty or begins with a digit. -/
theorem isIdentifier_camelCase_iff {name : String} (h : camelCase name ≠ "") :
    IsIdentifier (camelCase name) ↔ ¬ LeadsWithDigit name := by
  rw [ne_eq, camelCase_eq_empty_iff] at h
  obtain ⟨c, hc⟩ := Option.ne_none_iff_exists'.1 h
  have hhead : (camelCase name).toList.head? = some c.toLower := by
    rw [head?_camelCase, hc, Option.map_some]
  rw [isIdentifier_iff (isAlphanum_of_mem_camelCase name) hhead, leadsWithDigit_iff hc,
    isDigit_toLower (List.find?_some hc), Bool.not_eq_true]

end Mockup.Text
