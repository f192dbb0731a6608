import Mockup.Proofs.Json.Attribute

/-!
# Finite numbers

The floats of a value, and how a condition on values carries over to what a record is decoded to.
-/

namespace Mockup.Json

mutual

/-- What the numbers of a value are as floats. -/
def Value.floats : Value → List Float
  | .number (.int i) => [Float.ofInt i]
  | .number (.float x) => [x]
  | .array items => floatsOfItems items
  | .object members => floatsOfMembers members
  | _ => []

def floatsOfItems : List Value → List Float
  | [] => []
  | v :: rest => v.floats ++ floatsOfItems rest

def floatsOfMembers : List (String × Value) → List Float
  | [] => []
  | (_, v) :: rest => v.floats ++ floatsOfMembers rest

end

/-- No number of the value is beyond every float. -/
def Value.HasFiniteNumbers (v : Value) : Prop :=
  ∀ x ∈ v.floats, x.isFinite

instance (v : Value) : Decidable v.HasFiniteNumbers :=
  inferInstanceAs (Decidable (∀ x ∈ v.floats, x.isFinite))

theorem Value.HasFiniteNumbers.items {items : List Value}
    (h : (Value.array items).HasFiniteNumbers) : ∀ v ∈ items, v.HasFiniteNumbers := by
  have hall (items : List Value) : floatsOfItems items = items.flatMap Value.floats := by
    induction items with
    | nil => rw [floatsOfItems]; rfl
    | cons v items ih => rw [floatsOfItems, ih, List.flatMap_cons]
  intro v hv x hx
  refine h x ?_
  rw [floats, hall]
  exact List.mem_flatMap.2 ⟨v, hv, hx⟩

theorem Value.HasFiniteNumbers.members {members : List (String × Value)}
    (h : (Value.object members).HasFiniteNumbers) : ∀ m ∈ members, m.2.HasFiniteNumbers := by
  have hall (members : List (String × Value)) :
      floatsOfMembers members = members.flatMap (·.2.floats) := by
    induction members with
    | nil => rw [floatsOfMembers]; rfl
    | cons m members ih => rw [floatsOfMembers, ih, List.flatMap_cons]
  intro m hm x hx
  refine h x ?_
  rw [floats, hall]
  exact List.mem_flatMap.2 ⟨m, hm, hx⟩

theorem isFinite_of_decodeFloat {v : Value} {x : Float} (hv : v.HasFiniteNumbers)
    (h : decodeFloat v = .ok x) : x.isFinite := by
  cases v with
  | number n =>
    cases n with
    | int i =>
      cases h
      exact hv _ (List.mem_singleton_self _)
    | float y =>
      cases h
      exact hv _ (List.mem_singleton_self _)
  | _ => cases h

theorem foldlM_keeps {ι σ ε : Type} {step : σ → ι → Except ε σ} {P : σ → Prop} {Q : ι → Prop}
    (hstep : ∀ state i after, P state → Q i → step state i = .ok after → P after) {is : List ι}
    {start after : σ} (hstart : P start) (hQ : ∀ i ∈ is, Q i)
    (h : is.foldlM step start = .ok after) : P after := by
  induction is generalizing start with
  | nil =>
    cases h
    exact hstart
  | cons i is ih =>
    rw [List.foldlM_cons] at h
    rw [List.forall_mem_cons] at hQ
    obtain ⟨between, hfirst, hrest⟩ := exists_of_bind_ok h
    exact ih (hstep start i between hstart hQ.1 hfirst) hQ.2 hrest

namespace Record

variable {σ α : Type} {r : Record σ α} {P : σ → Prop} {a : α}

/-- The members of a record keep a condition on its slots when their numbers are finite. -/
def Keeps (r : Record σ α) (P : σ → Prop) : Prop :=
  ∀ slots name v after, P slots → v.HasFiniteNumbers → r.member slots name v = some (.ok after) →
    P after

private theorem Keeps.exists_of_ofMembers (h : r.Keeps P) (hstart : P r.start)
    {members : List (String × Value)} (hv : ∀ m ∈ members, m.2.HasFiniteNumbers)
    (ha : r.ofMembers members = .ok a) : ∃ slots, P slots ∧ r.finish slots = .ok a := by
  obtain ⟨slots, hslots, hfinish⟩ := exists_of_bind_ok ha
  refine ⟨slots, foldlM_keeps ?_ hstart hv hslots, hfinish⟩
  rintro state ⟨name, v⟩ after hstate hfinite hafter
  obtain hmember | ⟨-, rfl⟩ := member_of_step hafter
  · exact h _ _ _ _ hstate hfinite hmember
  · exact hstate

private theorem Keeps.exists_of_ofItems (h : r.Keeps P) (hstart : P r.start) {items : List Value}
    (hv : ∀ v ∈ items, v.HasFiniteNumbers) (ha : r.ofItems items = .ok a) :
    ∃ slots, P slots ∧ r.finish slots = .ok a := by
  obtain ⟨slots, hslots, hfinish⟩ := exists_of_bind_ok ha
  have hfields : ∀ field ∈ r.names.zip items, field.2.HasFiniteNumbers :=
    fun field hfield => hv _ (List.of_mem_zip hfield).2
  refine ⟨slots, foldlM_keeps ?_ hstart hfields hslots, ?_⟩
  · rintro state ⟨name, v⟩ after hstate hfinite hafter
    cases hresult : r.member state name v with
    | none =>
      rw [hresult] at hafter
      cases hafter
      exact hstate
    | some result =>
      rw [hresult] at hafter
      exact h _ _ _ _ hstate hfinite (hresult.trans (congrArg some hafter))
  · split at hfinish
    · cases hfinish
    · exact hfinish

/-- What a record is decoded to comes from slots that meet the condition. -/
theorem Keeps.exists_of_decode (h : r.Keeps P) (hstart : P r.start)
    {v : Value} (hv : v.HasFiniteNumbers) (ha : r.decode v = .ok a) :
    ∃ slots, P slots ∧ r.finish slots = .ok a := by
  rw [decode.eq_def] at ha
  split at ha
  · exact h.exists_of_ofMembers hstart hv.members ha
  · obtain ⟨b, hb, ha⟩ := exists_of_bind_ok ha
    obtain ⟨-, -, ha⟩ := exists_of_bind_ok ha
    cases ha
    exact h.exists_of_ofItems hstart hv.items hb
  · cases ha

end Record

namespace Attribute

variable {τ : Type} {name : String} {members : List (String × Value)} {x : τ}

theorem isFinite_of_reads {absent : Float} {get : τ → Float}
    (hmembers : ∀ m ∈ members, m.2.HasFiniteNumbers) (habsent : absent.isFinite)
    (h : (Attribute.mk name .number absent get).Reads members x) : (get x).isFinite := by
  obtain ⟨-, hget⟩ | ⟨v, hv, hdecode⟩ := h
  · have hget : get x = absent := hget
    rw [hget]
    exact habsent
  · exact isFinite_of_decodeFloat (hmembers _ (mem_of_valuesOf (hv ▸ List.mem_cons_self))) hdecode

theorem isFinite_of_reads_nullable {get : τ → Option Float}
    (hmembers : ∀ m ∈ members, m.2.HasFiniteNumbers)
    (h : (Attribute.mk name Kind.number.nullable none get).Reads members x) :
    ∀ y ∈ get x, y.isFinite := by
  intro y hy
  obtain ⟨-, hget⟩ | ⟨v, hv, hdecode⟩ := h
  · cases hy.symm.trans hget
  · change decodeOptional decodeFloat v = .ok (get x) at hdecode
    rw [Option.mem_def.1 hy, decodeOptional_eq_some_iff] at hdecode
    exact isFinite_of_decodeFloat (hmembers _ (mem_of_valuesOf (hv ▸ List.mem_cons_self)))
      hdecode.2

end Attribute

end Mockup.Json
