import Mathlib.Data.List.Nodup
import Mockup.Proofs.Json.Attribute

/-!
# Parts of records

The values that a small record is decoded from: objects with its parts under their names, and lists
of its parts in their order.
-/

namespace Mockup.Json

/-- A member of a record, with the slot that keeps its value until the record is complete. -/
structure Part (σ : Type) where
  {α : Type}
  name : String
  kind : Kind α
  isOptional : Bool
  kept : σ → Option α
  keep : σ → Option α → σ
  kept_keep : ∀ slots a?, kept (keep slots a?) = a?

namespace Part

variable {σ : Type}

def slot (p : Part σ) : Slot σ where
  name := p.name
  decode := p.kind.decode
  get := p.kept

/-- The part occurs once, with a value of its kind, or it is left off where it may be. -/
def Fits (p : Part σ) (members : List (String × Value)) : Prop :=
  (∃ v, valuesOf p.name members = [v] ∧ p.kind.accepts v) ∨
    p.isOptional = true ∧ valuesOf p.name members = []

/-- An object that the parts fit, or a list of the parts in which only optional ones at the end may
be left off. -/
def Accept (parts : List (Part σ)) (v : Value) : Prop :=
  (∃ members, v = .object members ∧ ∀ p ∈ parts, p.Fits members) ∨
    ∃ items, v = .array items ∧ items.length ≤ parts.length ∧
      ∀ p ∈ parts, p.Fits ((parts.map (·.name)).zip items)

end Part

/-- A record is decoded part by part, and complete when it has all parts that are not optional. -/
structure Record.ConsistsOf {σ α : Type} (r : Record σ α) (parts : List (Part σ)) : Prop where
  names : r.names = parts.map (·.name)
  nodup : r.names.Nodup
  member : ∀ slots name v, r.member slots name v =
    (parts.find? (·.name = name)).map fun p =>
      (fill name (p.kept slots) p.kind.decode v).map (p.keep slots)
  others : ∀ p ∈ parts, ∀ q ∈ parts, p.name ≠ q.name →
    ∀ slots a?, p.kept (q.keep slots a?) = p.kept slots
  empty : ∀ p ∈ parts, p.kept r.start = none
  finished : ∀ slots, (∃ a, r.finish slots = .ok a) ↔
    ∀ p ∈ parts, p.isOptional = true ∨ (p.kept slots).isSome = true

namespace Record.ConsistsOf

variable {σ α : Type} {r : Record σ α} {parts : List (Part σ)} {members : List (String × Value)}
  {v : Value} {a : α} (h : r.ConsistsOf parts)

include h

private theorem eq_of_name {p q : Part σ} (hp : p ∈ parts) (hq : q ∈ parts)
    (hname : p.name = q.name) : p = q := by
  have hnodup := h.nodup
  rw [h.names] at hnodup
  exact List.inj_on_of_nodup_map hnodup hp hq hname

private theorem length_names : r.names.length = parts.length := by
  rw [h.names, List.length_map]

private theorem filledBy : r.FilledBy (parts.map Part.slot) where
  filled := by
    intro slots name v after hafter
    rw [List.forall_mem_map]
    intro q hq
    rw [h.member] at hafter
    obtain ⟨p, hfound, hfill⟩ := Option.map_eq_some_iff.1 hafter
    have hp := List.mem_of_find?_eq_some hfound
    have hname : p.name = name := by simpa using List.find?_some hfound
    obtain ⟨hnone, a, ha, rfl⟩ := fill_map_eq_ok_iff.1 hfill
    constructor
    · intro hsame
      obtain rfl := h.eq_of_name hp hq (hname.trans hsame.symm)
      exact ⟨hnone, a, ha, p.kept_keep slots _⟩
    · intro hother
      exact h.others q hq p hp (hname ▸ hother) slots _
  unknown := by
    intro slots name v hnone
    rw [h.member, Option.map_eq_none_iff, List.find?_eq_none] at hnone
    rw [List.forall_mem_map]
    intro q hq
    have hname : q.name ≠ name := by simpa using hnone q hq
    exact hname
  succeeds := by
    intro slots name v result hresult hslots
    rw [h.member] at hresult
    obtain ⟨p, hfound, rfl⟩ := Option.map_eq_some_iff.1 hresult
    have hname : p.name = name := by simpa using List.find?_some hfound
    obtain ⟨hnone, a, ha⟩ :=
      hslots p.slot (List.mem_map_of_mem (List.mem_of_find?_eq_some hfound)) hname
    exact ⟨_, fill_map_eq_ok_iff.2 ⟨hnone, a, ha, rfl⟩⟩

section

variable {write : σ → String → Value → Except DecodeError σ}
  (hwrite : Fills (parts.map Part.slot) write)

include hwrite

private theorem fits_of_finish
    (ha : (members.foldlM (fun slots m => write slots m.1 m.2) r.start >>= r.finish) = .ok a) :
    ∀ p ∈ parts, p.Fits members := by
  intro p hp
  obtain ⟨slots, hslots, hfinish⟩ := exists_of_bind_ok ha
  have hholds := hwrite.holds (List.mem_map_of_mem hp) (h.empty p hp) hslots
  have hcomplete := (h.finished slots).1 ⟨a, hfinish⟩ p hp
  obtain ⟨hvalues, hnone⟩ | ⟨v, b, hvalues, hb, -⟩ := hholds
  · have hnone : p.kept slots = none := hnone
    rw [hnone] at hcomplete
    exact Or.inr ⟨by simpa using hcomplete, hvalues⟩
  · exact Or.inl ⟨v, hvalues, p.kind.accepts_of_decode hb⟩

private theorem exists_finish_of_fits (hsound : ∀ m ∈ members, m.2.Sound)
    (hfits : ∀ p ∈ parts, p.Fits members) :
    ∃ a, (members.foldlM (fun slots m => write slots m.1 m.2) r.start >>= r.finish) = .ok a := by
  have honce : ∀ s ∈ parts.map Part.slot, s.get r.start = none ∧
      FitsOnce s.decode (valuesOf s.name members) ∨ valuesOf s.name members = [] := by
    rw [List.forall_mem_map]
    intro p hp
    obtain ⟨v, hv, haccepts⟩ | ⟨-, hnil⟩ := hfits p hp
    · have hmem : (p.name, v) ∈ members := mem_of_valuesOf (hv ▸ List.mem_cons_self)
      obtain ⟨b, hb⟩ := p.kind.exists_decode (hsound _ hmem) haccepts
      exact Or.inl ⟨h.empty p hp, Or.inr ⟨v, b, hv, hb⟩⟩
    · exact Or.inr hnil
  obtain ⟨slots, hslots⟩ := hwrite.exists_foldlM r.start hsound honce
  have hcomplete : ∀ p ∈ parts, p.isOptional = true ∨ (p.kept slots).isSome = true := by
    intro p hp
    have hholds := hwrite.holds (List.mem_map_of_mem hp) (h.empty p hp) hslots
    obtain ⟨v, hv, -⟩ | ⟨hoptional, -⟩ := hfits p hp
    · obtain ⟨hnil, -⟩ | ⟨-, b, -, -, hb⟩ := hholds
      · cases hnil.symm.trans hv
      · exact Or.inr (Option.isSome_iff_exists.2 ⟨b, hb⟩)
    · exact Or.inl hoptional
  obtain ⟨a, ha⟩ := (h.finished slots).2 hcomplete
  exact ⟨a, by rw [hslots]; exact ha⟩

end

private theorem accepts_of_ofItems {items : List Value} (ha : r.ofItems items = .ok a) :
    ∀ p ∈ parts, p.Fits ((parts.map (·.name)).zip items) := by
  rw [← h.names]
  apply h.fits_of_finish h.filledBy.member (a := a)
  obtain ⟨slots, hslots, hfinish⟩ := exists_of_bind_ok ha
  rw [hslots]
  split at hfinish
  · cases hfinish
  · exact hfinish

private theorem exists_ofItems {items : List Value} (hsound : ∀ v ∈ items, v.Sound)
    (hfits : ∀ p ∈ parts, p.Fits ((parts.map (·.name)).zip items)) :
    ∃ a, r.ofItems items = .ok a := by
  rw [← h.names] at hfits
  have hzip : ∀ m ∈ r.names.zip items, m.2.Sound := fun m hm => hsound _ (List.of_mem_zip hm).2
  obtain ⟨a, ha⟩ := h.exists_finish_of_fits h.filledBy.member hzip hfits
  obtain ⟨slots, hslots, hfinish⟩ := exists_of_bind_ok ha
  refine ⟨a, ?_⟩
  simp only [ofItems, hslots, bind, Except.bind, hfinish]

private theorem surplus_eq_ok_iff (items : List Value) :
    surplus (items.drop r.names.length) = .ok () ↔ items.length ≤ parts.length := by
  rw [h.length_names, ← List.drop_eq_nil_iff]
  cases items.drop parts.length with
  | nil => simp [surplus]
  | cons v rest =>
    rw [surplus.eq_def]
    split <;> simp_all

theorem accepts_of_decode (ha : r.decode v = .ok a) : Part.Accept parts v := by
  rw [decode.eq_def] at ha
  split at ha
  · exact Or.inl ⟨_, rfl, h.fits_of_finish h.filledBy.step ha⟩
  · next items =>
    obtain ⟨b, hb, ha⟩ := exists_of_bind_ok ha
    obtain ⟨_, hsurplus, ha⟩ := exists_of_bind_ok ha
    exact Or.inr ⟨items, rfl, (h.surplus_eq_ok_iff items).1 hsurplus, h.accepts_of_ofItems hb⟩
  · cases ha

theorem exists_decode (hv : v.Sound) (hparts : Part.Accept parts v) :
    ∃ a, r.decode v = .ok a := by
  obtain ⟨members, rfl, hfits⟩ | ⟨items, rfl, hlength, hfits⟩ := hparts
  · exact h.exists_finish_of_fits h.filledBy.step hv.members hfits
  · obtain ⟨a, ha⟩ := h.exists_ofItems hv.items hfits
    have hsurplus := (h.surplus_eq_ok_iff items).2 hlength
    exact ⟨a, by simp only [decode, ha, hsurplus, bind, Except.bind, pure, Except.pure]⟩

/-- Read as a whole or on the way, a record comes from the same values. -/
theorem decodeWhole_eq_ok_iff : r.decodeWhole v = .ok a ↔ r.decode v = .ok a := by
  cases v with
  | object members => rfl
  | array items =>
    rw [decodeWhole, decode]
    cases hitems : r.ofItems items with
    | error fault => rfl
    | ok b =>
      have hsurplus := h.surplus_eq_ok_iff items
      rw [← h.length_names] at hsurplus
      cases hdrop : surplus (items.drop r.names.length) with
      | error fault =>
        have hlong : r.names.length < items.length := by
          apply Nat.lt_of_not_le
          intro hle
          cases hdrop.symm.trans (hsurplus.2 hle)
        simp [bind, Except.bind, hlong]
      | ok _ =>
        have hshort : ¬r.names.length < items.length := Nat.not_lt.2 (hsurplus.1 hdrop)
        simp [bind, Except.bind, hshort]
  | _ => simp [decodeWhole, decode]

end Record.ConsistsOf

namespace Kind

variable {σ α : Type} {r : Record σ α} {parts : List (Part σ)}

def ofRecord (h : r.ConsistsOf parts) : Kind α where
  decode := r.decode
  accepts := Part.Accept parts
  accepts_of_decode := h.accepts_of_decode
  exists_decode := h.exists_decode

def ofRecordWhole (h : r.ConsistsOf parts) : Kind α where
  decode := r.decodeWhole
  accepts := Part.Accept parts
  accepts_of_decode ha := h.accepts_of_decode (h.decodeWhole_eq_ok_iff.1 ha)
  exists_decode hv hparts := by
    obtain ⟨a, ha⟩ := h.exists_decode hv hparts
    exact ⟨a, h.decodeWhole_eq_ok_iff.2 ha⟩

@[simp] theorem ofRecord_decode (h : r.ConsistsOf parts) : (ofRecord h).decode = r.decode := rfl
@[simp] theorem ofRecordWhole_decode (h : r.ConsistsOf parts) :
    (ofRecordWhole h).decode = r.decodeWhole := rfl

end Kind

end Mockup.Json
