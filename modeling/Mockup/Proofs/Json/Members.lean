import Mathlib.Data.List.Perm.Subperm
import Mathlib.Tactic.Common
import Mockup.Json.Record
import Mockup.Proofs.Fault

/-!
# Members of objects

What decoding an object member by member depends on: for each known name the values that stand
under it, and nothing else.
-/

namespace Mockup.Json

/-- A value that some JSON text denotes. Left out are the marks that a text leaves in a value where
it denotes none: the break of a text that stops being JSON, and the flaws of numbers beyond every
float, of strings and names with half of a surrogate pair, and of values nested too deep. A flaw
anywhere, in an unknown member too, may make the text be refused. -/
inductive Value.Sound : Value → Prop where
  | null : Sound .null
  | bool (b : Bool) : Sound (.bool b)
  | number (n : Number) : Sound (.number n)
  | string (s : String) : Sound (.string s)
  | array {items : List Value} (h : ∀ v ∈ items, Sound v) : Sound (.array items)
  | object {members : List (String × Value)} (h : ∀ m ∈ members, Sound m.2) :
    Sound (.object members)

theorem wholeItems_ok {items : List Value} (h : ∀ v ∈ items, v.whole = .ok ()) :
    wholeItems items = .ok () := by
  induction items with
  | nil => rw [wholeItems]
  | cons v items ih =>
    rw [wholeItems, h v List.mem_cons_self, ih fun w hw => h w (List.mem_cons_of_mem v hw)]
    rfl

theorem wholeMembers_ok {members : List (String × Value)}
    (h : ∀ m ∈ members, m.2.whole = .ok ()) : wholeMembers members = .ok () := by
  induction members with
  | nil => rw [wholeMembers]
  | cons m members ih =>
    obtain ⟨name, v⟩ := m
    rw [wholeMembers, h _ List.mem_cons_self, ih fun w hw => h w (List.mem_cons_of_mem _ hw)]
    rfl

theorem Value.Sound.whole {v : Value} (h : v.Sound) : v.whole = .ok () := by
  induction h with
  | array _ ih =>
    rw [Value.whole]
    exact wholeItems_ok ih
  | object _ ih =>
    rw [Value.whole]
    exact wholeMembers_ok ih
  | _ => rw [Value.whole] <;> simp

theorem passItems_ok {items : List Value} (h : ∀ v ∈ items, v.pass = .ok ()) :
    passItems items = .ok () := by
  induction items with
  | nil => rw [passItems]
  | cons v items ih =>
    rw [passItems, h v List.mem_cons_self, ih fun w hw => h w (List.mem_cons_of_mem v hw)]
    rfl

theorem passMembers_ok {members : List (String × Value)}
    (h : ∀ m ∈ members, m.2.pass = .ok ()) : passMembers members = .ok () := by
  induction members with
  | nil => rw [passMembers]
  | cons m members ih =>
    obtain ⟨name, v⟩ := m
    rw [passMembers, h _ List.mem_cons_self, ih fun w hw => h w (List.mem_cons_of_mem _ hw)]
    rfl

theorem Value.Sound.pass {v : Value} (h : v.Sound) : v.pass = .ok () := by
  induction h with
  | array _ ih =>
    rw [Value.pass]
    exact passItems_ok ih
  | object _ ih =>
    rw [Value.pass]
    exact passMembers_ok ih
  | _ => rw [Value.pass] <;> simp

theorem Value.Sound.items {items : List Value} (h : (Value.array items).Sound) :
    ∀ v ∈ items, v.Sound := by
  cases h with
  | array h => exact h

theorem Value.Sound.members {members : List (String × Value)} (h : (Value.object members).Sound) :
    ∀ m ∈ members, m.2.Sound := by
  cases h with
  | object h => exact h

theorem Value.Sound.of_subset {members others : List (String × Value)}
    (h : (Value.object members).Sound) (hsub : others ⊆ members) : (Value.object others).Sound :=
  .object fun m hm => h.members m (hsub hm)

/-- The values under a name, in the order of the text. -/
def valuesOf (name : String) (members : List (String × Value)) : List Value :=
  (members.filter (·.1 = name)).map (·.2)

theorem valuesOf_cons_self (name : String) (v : Value) (members : List (String × Value)) :
    valuesOf name ((name, v) :: members) = v :: valuesOf name members := by
  simp [valuesOf]

theorem valuesOf_cons_of_ne {name other : String} (h : other ≠ name) (v : Value)
    (members : List (String × Value)) :
    valuesOf name ((other, v) :: members) = valuesOf name members := by
  simp [valuesOf, h]

theorem mem_of_valuesOf {name : String} {members : List (String × Value)} {v : Value}
    (h : v ∈ valuesOf name members) : (name, v) ∈ members := by
  obtain ⟨m, hm, rfl⟩ := List.mem_map.1 h
  obtain ⟨hmem, hname⟩ := List.mem_filter.1 hm
  rw [← of_decide_eq_true hname]
  exact hmem

theorem valuesOf_perm {members others : List (String × Value)} (h : members.Perm others)
    (name : String) : (valuesOf name members).Perm (valuesOf name others) :=
  (h.filter _).map _

/-- A value that stands alone under a name does so in whatever order the members come. -/
theorem valuesOf_eq_of_perm {members others : List (String × Value)} (h : members.Perm others)
    {name : String} {values : List Value} (hvalues : valuesOf name members = values)
    (hlength : values.length ≤ 1) : valuesOf name others = values := by
  have hperm := valuesOf_perm h name
  rw [hvalues] at hperm
  match values with
  | [] => exact hperm.symm.eq_nil
  | [v] => exact List.perm_singleton.1 hperm.symm
  | _ :: _ :: _ => simp at hlength

theorem valuesOf_eq_nil {name : String} {members : List (String × Value)}
    (h : name ∉ members.map Prod.fst) : valuesOf name members = [] := by
  rw [valuesOf, List.filter_eq_nil_iff.2, List.map_nil]
  intro m hm hname
  exact h (List.mem_map.2 ⟨m, hm, of_decide_eq_true hname⟩)

theorem valuesOf_eq_singleton {name : String} {v : Value} {members : List (String × Value)}
    (h : (members.map Prod.fst).Nodup) (hmem : (name, v) ∈ members) :
    valuesOf name members = [v] := by
  induction members with
  | nil => cases hmem
  | cons m members ih =>
    obtain ⟨other, w⟩ := m
    rw [List.map_cons, List.nodup_cons] at h
    rcases List.mem_cons.1 hmem with heq | hmem
    · cases heq
      rw [valuesOf_cons_self, valuesOf_eq_nil h.1]
    · have hne : other ≠ name := by
        rintro rfl
        exact h.1 (List.mem_map.2 ⟨_, hmem, rfl⟩)
      rw [valuesOf_cons_of_ne hne, ih h.2 hmem]

theorem valuesOf_of_subperm {name : String} {v : Value} {members all : List (String × Value)}
    (h : members.Subperm all) (hnodup : (all.map Prod.fst).Nodup) (hmem : (name, v) ∈ all) :
    valuesOf name members = if name ∈ members.map Prod.fst then [v] else [] := by
  have hkeys : (members.map Prod.fst).Subperm (all.map Prod.fst) := by
    obtain ⟨part, hperm, hpart⟩ := h
    exact ⟨part.map Prod.fst, hperm.map _, hpart.map _⟩
  have hmembers : (members.map Prod.fst).Nodup := by
    obtain ⟨part, hperm, hpart⟩ := hkeys
    exact hperm.nodup_iff.1 (hnodup.sublist hpart)
  split
  · next hname =>
    obtain ⟨⟨_, w⟩, hw, rfl⟩ := List.mem_map.1 hname
    rw [valuesOf_eq_singleton hmembers hw]
    have hall := valuesOf_eq_singleton hnodup (h.subset hw)
    rw [valuesOf_eq_singleton hnodup hmem] at hall
    exact hall.symm
  · next hname => exact valuesOf_eq_nil hname

theorem valuesOf_filter (keeps : String → Bool) {name : String} (h : keeps name = true)
    (members : List (String × Value)) :
    valuesOf name (members.filter (keeps ·.1)) = valuesOf name members := by
  rw [valuesOf, valuesOf, List.filter_filter]
  congr 1
  apply List.filter_congr
  intro m _
  by_cases hm : m.1 = name
  · simp [hm, h]
  · simp [hm]

theorem fill_map_eq_ok_iff {α σ : Type} {name : String} {slot : Option α}
    {decode : Value → Except DecodeError α} {v : Value} {set : Option α → σ} {after : σ} :
    (fill name slot decode v).map set = .ok after ↔
      slot = none ∧ ∃ a, decode v = .ok a ∧ set (some a) = after := by
  cases slot with
  | some a => simp [fill, Except.map]
  | none => simp [fill, map_eq_ok_iff]

theorem require_eq_ok_iff {α : Type} {name : String} {slot : Option α} {a : α} :
    require name slot = .ok a ↔ slot = some a := by
  cases slot <;> simp [require]

namespace Record

variable {σ α : Type} {r : Record σ α} {slots after : σ} {name : String} {v : Value}

/-- A member is either known, or it leaves the slots as they are. -/
theorem member_of_step (h : r.step slots name v = .ok after) :
    r.member slots name v = some (.ok after) ∨ r.member slots name v = none ∧ after = slots := by
  rw [step.eq_def] at h
  split at h
  · cases h
  · cases h
  · split at h
    · next hresult => exact Or.inl (hresult.trans (congrArg some h))
    · next hnone =>
      obtain ⟨-, -, rfl⟩ := map_eq_ok_iff.1 h
      exact Or.inr ⟨hnone, rfl⟩

theorem step_of_member (hv : v.Sound) {result : Except DecodeError σ}
    (h : r.member slots name v = some result) : r.step slots name v = result := by
  rw [step.eq_def]
  cases hv <;> simp only [h]

theorem step_of_unknown (hv : v.Sound) (h : r.member slots name v = none) :
    r.step slots name v = .ok slots := by
  have hpass : (v.pass.map fun _ => slots) = .ok slots := by rw [hv.pass]; rfl
  rw [step.eq_def]
  cases hv <;> simp only [h, hpass]

end Record

/-- A slot of a state that the members of one name fill. -/
structure Slot (σ : Type) where
  {α : Type}
  name : String
  decode : Value → Except DecodeError α
  get : σ → Option α

/-- Members fill each slot with the decoded value under its name, and leave it empty when there is
none; a repeated name is refused. Members with other names touch no slot. -/
structure Fills {σ : Type} (slots : List (Slot σ))
    (write : σ → String → Value → Except DecodeError σ) : Prop where
  filled : ∀ state name v after, write state name v = .ok after → ∀ f ∈ slots,
    (f.name = name → f.get state = none ∧ ∃ a, f.decode v = .ok a ∧ f.get after = some a) ∧
    (f.name ≠ name → f.get after = f.get state)
  succeeds : ∀ state name v, v.Sound →
    (∀ f ∈ slots, f.name = name → f.get state = none ∧ ∃ a, f.decode v = .ok a) →
    ∃ after, write state name v = .ok after

/-- The known members of a record fill its slots, each one its own. -/
structure Record.FilledBy {σ α : Type} (r : Record σ α) (slots : List (Slot σ)) : Prop where
  filled : ∀ state name v after, r.member state name v = some (.ok after) → ∀ f ∈ slots,
    (f.name = name → f.get state = none ∧ ∃ a, f.decode v = .ok a ∧ f.get after = some a) ∧
    (f.name ≠ name → f.get after = f.get state)
  unknown : ∀ state name v, r.member state name v = none → ∀ f ∈ slots, f.name ≠ name
  succeeds : ∀ state name v result, r.member state name v = some result →
    (∀ f ∈ slots, f.name = name → f.get state = none ∧ ∃ a, f.decode v = .ok a) →
    ∃ after, result = .ok after

namespace Record.FilledBy

variable {σ α : Type} {r : Record σ α} {slots : List (Slot σ)}

theorem step (h : r.FilledBy slots) : Fills slots r.step where
  filled state name v after hafter f hf := by
    obtain hmember | ⟨hmember, rfl⟩ := member_of_step hafter
    · exact h.filled state name v after hmember f hf
    · exact ⟨fun hname => absurd hname (h.unknown _ name v hmember f hf), fun _ => rfl⟩
  succeeds state name v hv hslots := by
    cases hmember : r.member state name v with
    | none => exact ⟨state, step_of_unknown hv hmember⟩
    | some result =>
      rw [step_of_member hv hmember]
      exact h.succeeds state name v result hmember hslots

theorem member (h : r.FilledBy slots) :
    Fills slots fun state name v => (r.member state name v).getD (.ok state) where
  filled state name v after hafter f hf := by
    cases hmember : r.member state name v with
    | none =>
      rw [hmember] at hafter
      cases hafter
      exact ⟨fun hname => absurd hname (h.unknown _ name v hmember f hf), fun _ => rfl⟩
    | some result =>
      rw [hmember] at hafter
      exact h.filled state name v after (hmember.trans (congrArg some hafter)) f hf
  succeeds state name v _ hslots := by
    cases hmember : r.member state name v with
    | none => exact ⟨state, rfl⟩
    | some result => exact h.succeeds state name v result hmember hslots

end Record.FilledBy

/-- At most one value stands under a name, and it is decoded. -/
def FitsOnce {α : Type} (decode : Value → Except DecodeError α) (values : List Value) : Prop :=
  values = [] ∨ ∃ v a, values = [v] ∧ decode v = .ok a

/-- What the values under a name leave in a slot. -/
def Holds {α : Type} (decode : Value → Except DecodeError α) (values : List Value)
    (slot : Option α) : Prop :=
  (values = [] ∧ slot = none) ∨ ∃ v a, values = [v] ∧ decode v = .ok a ∧ slot = some a

section

variable {σ : Type} {slots : List (Slot σ)} {write : σ → String → Value → Except DecodeError σ}
  {members : List (String × Value)} {state after : σ}

theorem Fills.slot_foldlM (h : Fills slots write) {f : Slot σ} (hf : f ∈ slots)
    (hfold : members.foldlM (fun state m => write state m.1 m.2) state = .ok after) :
    (f.get state = none → Holds f.decode (valuesOf f.name members) (f.get after)) ∧
    (f.get state ≠ none → valuesOf f.name members = [] ∧ f.get after = f.get state) := by
  induction members generalizing state with
  | nil =>
    cases hfold
    exact ⟨fun hnone => Or.inl ⟨rfl, hnone⟩, fun _ => ⟨rfl, rfl⟩⟩
  | cons m rest ih =>
    obtain ⟨name, v⟩ := m
    rw [List.foldlM_cons] at hfold
    obtain ⟨between, hfirst, hrest⟩ := exists_of_bind_ok hfold
    obtain ⟨hsame, hother⟩ := h.filled state name v between hfirst f hf
    obtain ⟨hempty, hfull⟩ := ih hrest
    by_cases hname : f.name = name
    · obtain ⟨hnone, a, ha, hbetween⟩ := hsame hname
      obtain ⟨hvalues, hafter⟩ := hfull (by simp [hbetween])
      refine ⟨fun _ => Or.inr ⟨v, a, ?_, ha, hafter.trans hbetween⟩, fun h => absurd hnone h⟩
      rw [← hname, valuesOf_cons_self, hvalues]
    · rw [valuesOf_cons_of_ne (Ne.symm hname), ← hother hname]
      exact ⟨hempty, hfull⟩

theorem Fills.holds (h : Fills slots write) {f : Slot σ} (hf : f ∈ slots)
    (hstate : f.get state = none)
    (hfold : members.foldlM (fun state m => write state m.1 m.2) state = .ok after) :
    Holds f.decode (valuesOf f.name members) (f.get after) :=
  (h.slot_foldlM hf hfold).1 hstate

theorem Fills.exists_foldlM (h : Fills slots write) (state : σ)
    (hsound : ∀ m ∈ members, m.2.Sound)
    (hfits : ∀ f ∈ slots, f.get state = none ∧ FitsOnce f.decode (valuesOf f.name members) ∨
      valuesOf f.name members = []) :
    ∃ after, members.foldlM (fun state m => write state m.1 m.2) state = .ok after := by
  induction members generalizing state with
  | nil => exact ⟨state, rfl⟩
  | cons m rest ih =>
    obtain ⟨name, v⟩ := m
    have hhead : ∀ f ∈ slots, f.name = name →
        f.get state = none ∧ (∃ a, f.decode v = .ok a) ∧ valuesOf f.name rest = [] := by
      intro f hf hname
      have hfit := hfits f hf
      rw [hname, valuesOf_cons_self] at hfit
      rcases hfit with ⟨hnone, hnil | ⟨w, a, hvalues, ha⟩⟩ | hnil
      · cases hnil
      · obtain ⟨hv, hrest⟩ := List.cons.inj hvalues
        exact ⟨hnone, ⟨a, hv ▸ ha⟩, hname ▸ hrest⟩
      · cases hnil
    obtain ⟨between, hbetween⟩ := h.succeeds state name v (hsound _ List.mem_cons_self)
      fun f hf hname => ⟨(hhead f hf hname).1, (hhead f hf hname).2.1⟩
    obtain ⟨after, hafter⟩ := ih between
      (fun m hm => hsound m (List.mem_cons_of_mem _ hm)) fun f hf => by
        by_cases hname : f.name = name
        · exact Or.inr (hhead f hf hname).2.2
        · have hfit := hfits f hf
          rw [valuesOf_cons_of_ne (Ne.symm hname)] at hfit
          rw [(h.filled state name v between hbetween f hf).2 hname]
          exact hfit
    refine ⟨after, ?_⟩
    rw [List.foldlM_cons, hbetween]
    exact hafter

/-- Members with names that are not decoded at once are collected, the last one first. -/
theorem collected_foldlM (direct : String → Bool) {collected : σ → List (String × Value)}
    (hwrite : ∀ state name v after, write state name v = .ok after →
      collected after = if direct name then collected state else (name, v) :: collected state)
    (hfold : members.foldlM (fun state m => write state m.1 m.2) state = .ok after) :
    collected after = (members.filter fun m => !direct m.1).reverse ++ collected state := by
  induction members generalizing state with
  | nil =>
    cases hfold
    rfl
  | cons m rest ih =>
    rw [List.foldlM_cons] at hfold
    obtain ⟨between, hfirst, hrest⟩ := exists_of_bind_ok hfold
    rw [ih hrest, hwrite _ _ _ _ hfirst, List.filter_cons]
    cases direct m.1 <;> simp

end

end Mockup.Json
