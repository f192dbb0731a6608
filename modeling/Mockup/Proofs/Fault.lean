/-!
# Faults of results
-/

namespace Mockup

/-- The fault that a result is, if it is one. -/
def faultOf? {ε α : Type} : Except ε α → Option ε
  | .ok _ => none
  | .error fault => some fault

section

variable {ε α β : Type}

theorem faultOf?_eq_some_iff {r : Except ε α} {fault : ε} :
    faultOf? r = some fault ↔ r = .error fault := by
  cases r <;> simp [faultOf?]

theorem exists_ok_of_isOk {r : Except ε α} (h : r.isOk = true) : ∃ a, r = .ok a := by
  cases r with
  | error fault => cases h
  | ok a => exact ⟨a, rfl⟩

theorem exists_of_bind_ok {r : Except ε α} {next : α → Except ε β} {b : β}
    (h : (r >>= next) = .ok b) : ∃ a, r = .ok a ∧ next a = .ok b := by
  cases r with
  | error fault => cases h
  | ok a => exact ⟨a, rfl, h⟩

theorem map_eq_ok_iff {r : Except ε α} {f : α → β} {b : β} :
    r.map f = .ok b ↔ ∃ a, r = .ok a ∧ f a = b := by
  cases r <;> simp [Except.map]

theorem except_map_map {γ : Type} (r : Except ε α) (f : α → β) (g : β → γ) :
    (r.map f).map g = r.map fun a => g (f a) := by
  cases r <;> rfl

/-- Results that succeed alike are the same but for their faults. -/
theorem toOption_eq_of_ok_iff {δ : Type} {r : Except ε α} {s : Except δ α}
    (h : ∀ a, r = .ok a ↔ s = .ok a) : r.toOption = s.toOption := by
  cases r with
  | ok a => rw [(h a).1 rfl]; rfl
  | error fault =>
    cases s with
    | ok a => cases (h a).2 rfl
    | error other => rfl

@[simp] theorem faultOf?_map (f : α → β) (r : Except ε α) : faultOf? (r.map f) = faultOf? r := by
  cases r <;> rfl

end

end Mockup
