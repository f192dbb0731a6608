import Mockup.Document
import Mockup.Proofs.Node.Format

/-!
# The format of documents

Nodes and documents are decoded from the values under their known member names. The order of the
members does not count, and other members do not either.
-/

namespace Mockup

open Json

def Library.fields : List (Field Library.Slots Library) := [
  ⟨⟨"instances", .tableOf NodeId.mk, .empty, (·.instances)⟩, (·.instances)⟩,
  ⟨⟨"components", .tableOf id, .empty, (·.components)⟩, (·.components)⟩,
  ⟨⟨"styles", .tableOf StyleId.mk, .empty, (·.styles)⟩, (·.styles)⟩,
  ⟨⟨"variables", .tableOf VariableId.mk, .empty, (·.variableNames)⟩, (·.variableNames)⟩]

/-- The library that the slots make. -/
def Library.Slots.library (slots : Library.Slots) : Library where
  instances := slots.instances.getD .empty
  components := slots.components.getD .empty
  styles := slots.styles.getD .empty
  variableNames := slots.variableNames.getD .empty

private theorem Library.ofMembers_eq (members : List (String × Value)) :
    Library.ofMembers members =
      (members.foldlM (fun slots m => Library.Slots.write slots m.1 m.2) {}).map
        Library.Slots.library := rfl

private theorem Library.gathers :
    Gathers Library.fields Library.Slots.write {} Library.Slots.library where
  fills := {
    filled := by
      intro state name v after h
      unfold Library.Slots.write at h
      split at h
      case h_5 =>
        cases h
        simp_all [fields, Field.slot, Ne.symm]
      all_goals
        obtain ⟨hnone, a, ha, rfl⟩ := fill_map_eq_ok_iff.1 h
        simp [fields, Field.slot, hnone, ha]
    succeeds := by
      intro state name v _ h
      simp only [fields, List.map_cons, List.map_nil, List.forall_mem_cons, Field.slot] at h
      unfold Library.Slots.write
      split
      case h_5 => exact ⟨state, rfl⟩
      all_goals
        simp only [fill_map_eq_ok_iff]
        simp at h
        obtain ⟨hnone, a, ha⟩ := h
        exact ⟨_, hnone, a, ha, rfl⟩ }
  empty := by simp [fields]
  finished := by simp [fields, Library.Slots.library]
  ext := by
    intro x y h
    simp only [fields, List.forall_mem_cons] at h
    cases x
    cases y
    simp_all

namespace Document

def rootField : Field Slots Document :=
  ⟨⟨"root", .nullable (.ofDecoder Node.decode), none, (·.root)⟩, (·.root)⟩

def attributes : List (Attribute Document) :=
  rootField.toAttribute :: Library.fields.map (·.toAttribute.of Document.library)

private theorem rootSlot_fills : Fills [rootField.slot] Slots.write where
  filled := by
    intro state name v after h
    unfold Slots.write at h
    split at h
    · obtain ⟨hnone, a, ha, rfl⟩ := fill_map_eq_ok_iff.1 h
      simp_all [rootField, Field.slot]
    · obtain ⟨_, _, rfl⟩ := map_eq_ok_iff.1 h
      simp_all [rootField, Field.slot, Ne.symm]
  succeeds := by
    intro state name v hsound h
    simp only [List.forall_mem_singleton] at h
    unfold Slots.write
    split
    · simp_all [fill_map_eq_ok_iff, rootField, Field.slot]
    · exact ⟨_, map_eq_ok_iff.2 ⟨(), hsound.whole, rfl⟩⟩

private theorem collected_write {state after : Slots} {name : String} {v : Value}
    (h : state.write name v = .ok after) :
    after.collected =
      if decide (name = "root") then state.collected else (name, v) :: state.collected := by
  unfold Slots.write at h
  split at h
  · obtain ⟨_, _, _, rfl⟩ := fill_map_eq_ok_iff.1 h
    simp_all
  · obtain ⟨_, _, rfl⟩ := map_eq_ok_iff.1 h
    simp_all

/-- The document has what the values under the known names are decoded to. -/
def Reads (members : List (String × Value)) (d : Document) : Prop :=
  ∀ a ∈ attributes, a.Reads members d

theorem forall_attributes {P : Attribute Document → Prop} : (∀ a ∈ attributes, P a) ↔
    P rootField.toAttribute ∧ ∀ f ∈ Library.fields, P (f.toAttribute.of Document.library) := by
  simp only [attributes, List.forall_mem_cons, List.forall_mem_map]

section

variable {members others : List (String × Value)} {d e : Document}

private theorem Reads.unique (hd : d.Reads members) (he : e.Reads members) : d = e := by
  obtain ⟨hroot, htables⟩ := forall_attributes.1 fun a ha => (hd a ha).get_eq (he a ha)
  have hroot : d.root = e.root := hroot
  have hlibrary : d.library = e.library := Library.gathers.ext _ _ htables
  cases d
  cases e
  simp_all

private theorem valuesOf_collected : ∀ f ∈ Library.fields,
    valuesOf f.name (members.filter fun m => !decide (m.1 = "root")) = valuesOf f.name members := by
  intro f hf
  refine valuesOf_filter (fun name => !decide (name = "root")) ?_ members
  revert f
  simp [Library.fields]

private theorem collected_of_foldlM {slots : Slots}
    (h : members.foldlM (fun slots m => Slots.write slots m.1 m.2) {} = .ok slots) :
    slots.collected.reverse = members.filter fun m => !decide (m.1 = "root") := by
  rw [collected_foldlM (fun name => decide (name = "root")) (fun _ _ _ _ => collected_write) h]
  simp

private theorem reads_of_decode (h : Document.decode (.object members) = .ok d) :
    d.Reads members := by
  rw [Document.decode] at h
  obtain ⟨slots, hslots, hdocument⟩ := exists_of_bind_ok h
  obtain ⟨library, hlibrary, hdocument⟩ := exists_of_bind_ok hdocument
  cases hdocument
  rw [collected_of_foldlM hslots, Library.ofMembers_eq] at hlibrary
  have hroot := rootSlot_fills.holds List.mem_cons_self rfl hslots
  exact forall_attributes.2 ⟨rootField.reads_of_holds hroot rfl, fun f hf =>
    (Attribute.reads_congr (valuesOf_collected f hf)).1 (Library.gathers.reads hlibrary f hf)⟩

private theorem exists_decode_of_fits (hsound : ∀ m ∈ members, m.2.Sound)
    (h : ∀ a ∈ attributes, a.Fits members) : ∃ d, Document.decode (.object members) = .ok d := by
  obtain ⟨hroot, htables⟩ := forall_attributes.1 h
  obtain ⟨slots, hslots⟩ := rootSlot_fills.exists_foldlM {} hsound fun s hs => by
    cases List.mem_singleton.1 hs
    exact Or.inl ⟨rfl, hroot.fitsOnce hsound⟩
  obtain ⟨library, hlibrary⟩ := Library.gathers.exists_ok
    (fun m hm => hsound m (List.mem_of_mem_filter hm)) fun f hf =>
      (Attribute.fits_congr (valuesOf_collected f hf)).2 (htables f hf)
  rw [Document.decode, hslots]
  change ∃ d, (Library.ofMembers slots.collected.reverse >>= fun library => _) = .ok d
  rw [collected_of_foldlM hslots, Library.ofMembers_eq, hlibrary]
  exact ⟨_, rfl⟩

theorem decode_object_ok_iff (h : (Value.object members).Sound) :
    Document.decode (.object members) = .ok d ↔ d.Reads members := by
  constructor
  · exact reads_of_decode
  · intro hd
    obtain ⟨e, he⟩ := exists_decode_of_fits h.members fun a ha => (hd a ha).fits
    rw [hd.unique (reads_of_decode he)]
    exact he

def memberNames : List String :=
  attributes.map (·.name)

private theorem reads_filter_iff :
    d.Reads (members.filter (·.1 ∈ memberNames)) ↔ d.Reads members := by
  refine forall₂_congr fun a ha => Attribute.reads_congr ?_
  exact valuesOf_filter (· ∈ memberNames) (decide_eq_true (List.mem_map_of_mem ha)) members

/-- What the members of a document have to be: at most one root, `null` or a node, and at most one
of each table. -/
structure Acceptable (members : List (String × Value)) : Prop where
  root : valuesOf "root" members = [] ∨
    ∃ v, valuesOf "root" members = [v] ∧ (v = .null ∨ Node.Acceptable v)
  tables : ∀ f ∈ Library.fields, (f.toAttribute.of Document.library).Fits members

private theorem exists_decode_iff (h : (Value.object members).Sound) :
    (∃ d, Document.decode (.object members) = .ok d) ↔ Acceptable members := by
  have hroot : rootField.Fits members ↔ valuesOf "root" members = [] ∨
      ∃ v, valuesOf "root" members = [v] ∧ (v = .null ∨ Node.Acceptable v) := by
    refine or_congr_right (exists_congr fun v => and_congr_right fun hv => ?_)
    refine or_congr_right (Node.exists_decode_iff ?_)
    exact h.members _ (mem_of_valuesOf (hv ▸ List.mem_cons_self))
  have hfits : (∃ d, Document.decode (.object members) = .ok d) ↔
      ∀ a ∈ attributes, a.Fits members :=
    ⟨fun ⟨_, hd⟩ a ha => (reads_of_decode hd a ha).fits, exists_decode_of_fits h.members⟩
  rw [hfits, forall_attributes, hroot]
  exact ⟨fun h => ⟨h.1, h.2⟩, fun h => ⟨h.root, h.tables⟩⟩

end

/-- Of the members of an object only those with known names count for the node or the document that
it is decoded to, each by its value and none by its place. -/
theorem decode_by_names {members : List (String × Value)} (h : (Value.object members).Sound) :
    (((∃ n, Node.decode (.object members) = .ok n) ↔ Node.Acceptable (.object members)) ∧
      (∀ n, Node.decode (.object members) = .ok n ↔ n.Reads members) ∧
      (∀ others, members.Perm others →
        (Node.decode (.object others)).toOption = (Node.decode (.object members)).toOption) ∧
      (Node.decode (.object (members.filter (·.1 ∈ Node.memberNames)))).toOption =
        (Node.decode (.object members)).toOption) ∧
    ((∃ d, Document.decode (.object members) = .ok d) ↔ Acceptable members) ∧
    (∀ d, Document.decode (.object members) = .ok d ↔ d.Reads members) ∧
    (∀ others, members.Perm others → (Document.decode (.object others)).toOption =
      (Document.decode (.object members)).toOption) ∧
    (Document.decode (.object (members.filter (·.1 ∈ memberNames)))).toOption =
      (Document.decode (.object members)).toOption := by
  have hperm {others : List (String × Value)} (hothers : members.Perm others) :
      (Value.object others).Sound := h.of_subset hothers.symm.subset
  have hfilter (names : List String) : (Value.object (members.filter (·.1 ∈ names))).Sound :=
    h.of_subset fun _ hm => List.mem_of_mem_filter hm
  refine ⟨⟨Node.exists_decode_iff h, fun _ => Node.decode_object_ok_iff h, ?_, ?_⟩,
    exists_decode_iff h, fun _ => decode_object_ok_iff h, ?_, ?_⟩
  · intro others hothers
    refine toOption_eq_of_ok_iff fun n => ?_
    rw [Node.decode_object_ok_iff h, Node.decode_object_ok_iff (hperm hothers)]
    exact ⟨fun hn => hn.perm hothers.symm, fun hn => hn.perm hothers⟩
  · refine toOption_eq_of_ok_iff fun n => ?_
    rw [Node.decode_object_ok_iff h, Node.decode_object_ok_iff (hfilter _), Node.reads_filter_iff]
  · intro others hothers
    refine toOption_eq_of_ok_iff fun d => ?_
    rw [decode_object_ok_iff h, decode_object_ok_iff (hperm hothers)]
    exact ⟨fun hd a ha => (hd a ha).perm hothers.symm, fun hd a ha => (hd a ha).perm hothers⟩
  · refine toOption_eq_of_ok_iff fun d => ?_
    rw [decode_object_ok_iff h, decode_object_ok_iff (hfilter _), reads_filter_iff]

/-- A frame with its members out of order, and unknown ones among them. -/
def scattered : List (String × Value) := [
  ("note", .null),
  ("children", .array [.object [("type", .string "TEXT"), ("id", .string "1:2")]]),
  ("type", .string "FRAME"),
  ("note", .array [.bool true]),
  ("layoutMode", .string "VERTICAL"),
  ("id", .string "1:1")]

theorem decode_by_names_scattered : (Value.object scattered).Sound ∧
    Node.Acceptable (.object scattered) ∧
    (Node.decode (.object scattered.reverse)).toOption =
      (Node.decode (.object scattered)).toOption ∧
    Acceptable scattered := by
  have htext : (Value.object [("type", .string "TEXT"), ("id", .string "1:2")]).Sound :=
    .object (by simp [Value.Sound.string])
  have hsound : (Value.object scattered).Sound := by
    refine .object ?_
    simp only [scattered, List.forall_mem_cons]
    exact ⟨.null, .array (by simp [htext]), .string _, .array (by simp [Value.Sound.bool]),
      .string _, .string _, nofun⟩
  obtain ⟨⟨hnode, -, hperm, -⟩, hdocument, -⟩ := decode_by_names hsound
  exact ⟨hsound, hnode.1 ⟨_, rfl⟩, hperm _ scattered.reverse_perm.symm, hdocument.1 ⟨_, rfl⟩⟩

end Document

end Mockup
