import Mockup.Config
import Mockup.Proofs.Json.Encoding
import Mockup.Proofs.Json.Reading

/-!
# Written configurations

A configuration is read from its own text, and from that of any of its members: what is not
written is as in the standard configuration.
-/

namespace Mockup

open Json

namespace ComponentTable

def fields : List (Field Slots ComponentTable) := [
  ⟨⟨"namespaces", .mapOf (.ofDecoder decodeNamed), standard.families, (·.families)⟩,
    (·.families)⟩,
  ⟨⟨"compound", .mapOf (.mapOf (.ofDecoder decodeNamed)), standard.localKinds, (·.localKinds)⟩,
    (·.localKinds)⟩]

/-- The table that the slots make. -/
def Slots.table (slots : Slots) : ComponentTable :=
  ⟨slots.families.getD standard.families, slots.localKinds.getD standard.localKinds⟩

private theorem gathers : Gathers fields record.step {} Slots.table where
  fills := by
    apply Record.FilledBy.step
    constructor
    case filled =>
      intro state name v after h
      simp only [record] at h
      split at h
      case h_3 => cases h
      all_goals
        obtain ⟨hnone, a, ha, rfl⟩ := fill_map_eq_ok_iff.1 (Option.some.inj h)
        simp [fields, Field.slot, hnone, ha]
    case unknown =>
      intro state name v h
      simp only [record] at h
      split at h
      case h_3 => simp_all [fields, Field.slot, Ne.symm]
      all_goals cases h
    case succeeds =>
      intro state name v result hresult h
      simp only [fields, List.map_cons, List.map_nil, List.forall_mem_cons, Field.slot] at h
      simp only [record] at hresult
      split at hresult
      case h_3 => cases hresult
      all_goals
        cases hresult
        simp only [fill_map_eq_ok_iff]
        simp at h
        obtain ⟨hnone, a, ha⟩ := h
        exact ⟨_, hnone, a, ha, rfl⟩
  empty := by simp [fields]
  finished := by simp [fields, Slots.table]
  ext := by
    intro x y h
    simp only [fields, List.forall_mem_cons] at h
    cases x
    cases y
    simp_all

private theorem decode_object_eq (members : List (String × Value)) :
    record.decode (.object members) =
      (members.foldlM (fun slots m => record.step slots m.1 m.2) {}).map Slots.table := rfl

/-- The members that a table is written with. -/
def members (t : ComponentTable) : List (String × Value) := [
  ("namespaces", encodeKinds t.families),
  ("compound", encodeMap encodeKinds t.localKinds)]

private theorem encode_eq (t : ComponentTable) : t.encode = .object t.members := rfl

private theorem decode_encodeKinds (kinds : OrderedMap String ComponentKind) :
    decodeMap decodeNamed (encodeKinds kinds) = .ok kinds := by
  have h : decodeMap decodeNamed (encodeMap encodeNamed kinds) = .ok kinds :=
    decodeMap_encode fun entry _ => decodeNamed_encode entry.2
  exact h

/-- The table with only the named parts, the others being those of the standard table. -/
def restrict (t : ComponentTable) (names : List String) : ComponentTable where
  families := if "namespaces" ∈ names then t.families else standard.families
  localKinds := if "compound" ∈ names then t.localKinds else standard.localKinds

private theorem plain_encodeKinds {levels : Nat} (kinds : OrderedMap String ComponentKind) :
    (encodeKinds kinds).Plain (levels + 1) :=
  .object (List.forall_mem_map.2 fun entry _ => .string entry.2.name)

private theorem plain_members (t : ComponentTable) : ∀ m ∈ t.members, m.2.Plain 2 := by
  simp only [members, List.forall_mem_cons]
  refine ⟨plain_encodeKinds t.families, ?_, nofun⟩
  exact .object (List.forall_mem_map.2 fun entry _ => plain_encodeKinds entry.2)

private theorem nodup_names (t : ComponentTable) : (t.members.map Prod.fst).Nodup := by
  simp [members]

/-- Parts of a table that are written in any order are read as the table with only them. -/
theorem decode_of_subperm (t : ComponentTable) {parts : List (String × Value)}
    (h : parts.Subperm t.members) :
    record.decode (.object parts) = .ok (t.restrict (parts.map Prod.fst)) := by
  have hsound : ∀ m ∈ parts, m.2.Sound := fun m hm => (t.plain_members m (h.subset hm)).sound
  rw [decode_object_eq]
  refine gathers.eq_ok_of_reads hsound ?_
  simp only [fields, List.forall_mem_cons]
  refine ⟨?_, ?_, nofun⟩
  · exact Attribute.reads_of_subperm h t.nodup_names List.mem_cons_self
      (decode_encodeKinds t.families) rfl
  · exact Attribute.reads_of_subperm h t.nodup_names
      (List.mem_cons_of_mem _ List.mem_cons_self)
      (decodeMap_encode fun entry _ => decode_encodeKinds entry.2) rfl

end ComponentTable

namespace Config

def fields : List (Field Slots Config) :=
  let standard : Config := {}
  [⟨⟨"components", .ofDecoder ComponentTable.record.decode, standard.components, (·.components)⟩,
      (·.components)⟩,
    ⟨⟨"skipped_names", .listOf .text, standard.omittedNames, (·.omittedNames)⟩, (·.omittedNames)⟩,
    ⟨⟨"navigation_shell", .ofDecoder decodeBool, standard.navigationShell, (·.navigationShell)⟩,
      (·.navigationShell)⟩,
    ⟨⟨"register_fonts", .ofDecoder decodeBool, standard.registerFonts, (·.registerFonts)⟩,
      (·.registerFonts)⟩,
    ⟨⟨"max_width", .nullable (.ofDecoder decodeUInt32), standard.maxWidth, (·.maxWidth)⟩,
      (·.maxWidth)⟩]

/-- The configuration that the slots make. -/
def Slots.config (slots : Slots) : Config :=
  let standard : Config := {}
  { components := slots.components.getD standard.components
    omittedNames := slots.omittedNames.getD standard.omittedNames
    navigationShell := slots.navigationShell.getD standard.navigationShell
    registerFonts := slots.registerFonts.getD standard.registerFonts
    maxWidth := slots.maxWidth.getD standard.maxWidth }

private theorem gathers : Gathers fields record.step {} Slots.config where
  fills := by
    apply Record.FilledBy.step
    constructor
    case filled =>
      intro state name v after h
      simp only [record] at h
      split at h
      case h_6 => cases h
      all_goals
        obtain ⟨hnone, a, ha, rfl⟩ := fill_map_eq_ok_iff.1 (Option.some.inj h)
        simp [fields, Field.slot, hnone, ha]
    case unknown =>
      intro state name v h
      simp only [record] at h
      split at h
      case h_6 => simp_all [fields, Field.slot, Ne.symm]
      all_goals cases h
    case succeeds =>
      intro state name v result hresult h
      simp only [fields, List.map_cons, List.map_nil, List.forall_mem_cons, Field.slot] at h
      simp only [record] at hresult
      split at hresult
      case h_6 => cases hresult
      all_goals
        cases hresult
        simp only [fill_map_eq_ok_iff]
        simp [-Bool.exists_bool] at h
        obtain ⟨hnone, a, ha⟩ := h
        exact ⟨_, hnone, a, ha, rfl⟩
  empty := by simp [fields]
  finished := by simp [fields, Slots.config]
  ext := by
    intro x y h
    simp only [fields, List.forall_mem_cons] at h
    cases x
    cases y
    simp_all

private theorem decode_object_eq (members : List (String × Value)) :
    record.decode (.object members) =
      (members.foldlM (fun slots m => record.step slots m.1 m.2) {}).map Slots.config := rfl

def encodeWidth (width : UInt32) : Value :=
  .number (.int width.toNat)

/-- The members that a configuration is written with, the table of components by some of its
parts. -/
def members (c : Config) (parts : List (String × Value)) : List (String × Value) := [
  ("components", .object parts),
  ("skipped_names", .array (c.omittedNames.map .string)),
  ("navigation_shell", .bool c.navigationShell),
  ("register_fonts", .bool c.registerFonts),
  ("max_width", encodeOptional encodeWidth c.maxWidth)]

private theorem encode_eq (c : Config) : c.encode = .object (c.members c.components.members) := by
  rw [encode, members, c.components.encode_eq]
  cases c.maxWidth <;> rfl

private theorem decodeUInt32_encodeWidth (width : UInt32) :
    decodeUInt32 (encodeWidth width) = .ok width := by
  have hwidth : (0 : Int) ≤ width.toNat ∧ (width.toNat : Int) < UInt32.size :=
    ⟨Int.natCast_nonneg _, by exact_mod_cast width.toNat_lt⟩
  rw [encodeWidth, decodeUInt32, if_pos hwidth, Int.toNat_natCast, UInt32.ofNat_toNat]

private theorem plain_members (c : Config) {parts : List (String × Value)}
    (h : ∀ m ∈ parts, m.2.Plain 2) :
    ∀ m ∈ c.members parts, m.2.Plain 3 := by
  simp only [members, List.forall_mem_cons]
  refine ⟨.object h, .array (List.forall_mem_map.2 fun s _ => .string s), .bool _, .bool _, ?_,
    nofun⟩
  cases c.maxWidth with
  | none => exact .null
  | some width =>
    have hwidth : width.toNat < UInt64.size := Nat.lt_trans width.toNat_lt (by decide)
    exact .nat hwidth

private theorem nodup_names (c : Config) (parts : List (String × Value)) :
    ((c.members parts).map Prod.fst).Nodup := by
  simp [members]

/-- The configuration with only the named fields, and of the components only the named parts; all
else is standard. -/
def restrict (c : Config) (names parts : List String) : Config :=
  let standard : Config := {}
  { components := if "components" ∈ names then c.components.restrict parts else standard.components
    omittedNames := if "skipped_names" ∈ names then c.omittedNames else standard.omittedNames
    navigationShell :=
      if "navigation_shell" ∈ names then c.navigationShell else standard.navigationShell
    registerFonts := if "register_fonts" ∈ names then c.registerFonts else standard.registerFonts
    maxWidth := if "max_width" ∈ names then c.maxWidth else standard.maxWidth }

private theorem decode_of_subperm (c : Config) {parts members : List (String × Value)}
    (hparts : parts.Subperm c.components.members) (h : members.Subperm (c.members parts)) :
    record.decode (.object members) =
      .ok (c.restrict (members.map Prod.fst) (parts.map Prod.fst)) := by
  have hplain : ∀ m ∈ parts, m.2.Plain 2 := fun m hm =>
    c.components.plain_members m (hparts.subset hm)
  have hsound : ∀ m ∈ members, m.2.Sound := fun m hm =>
    (c.plain_members hplain m (h.subset hm)).sound
  have hmem (i : Fin (c.members parts).length) : (c.members parts)[i] ∈ c.members parts :=
    List.getElem_mem i.isLt
  have hcomponents : ComponentTable.record.decode (.object parts) =
      .ok (c.components.restrict (parts.map Prod.fst)) := c.components.decode_of_subperm hparts
  have hwidth : decodeOptional decodeUInt32 (encodeOptional encodeWidth c.maxWidth) =
      .ok c.maxWidth := decodeOptional_encode fun w _ => ⟨decodeUInt32_encodeWidth w, nofun⟩
  have hnames : decodeList decodeString (.array (c.omittedNames.map .string)) =
      .ok c.omittedNames := decodeList_encode fun _ _ => rfl
  rw [decode_object_eq]
  refine gathers.eq_ok_of_reads hsound ?_
  simp only [fields, List.forall_mem_cons]
  refine ⟨?_, ?_, ?_, ?_, ?_, nofun⟩
  · exact Attribute.reads_of_subperm h (c.nodup_names parts) (hmem (0 : Fin 5)) hcomponents rfl
  · exact Attribute.reads_of_subperm h (c.nodup_names parts) (hmem (1 : Fin 5)) hnames rfl
  · exact Attribute.reads_of_subperm h (c.nodup_names parts) (hmem (2 : Fin 5)) rfl rfl
  · exact Attribute.reads_of_subperm h (c.nodup_names parts) (hmem (3 : Fin 5)) rfl rfl
  · exact Attribute.reads_of_subperm h (c.nodup_names parts) (hmem (4 : Fin 5)) hwidth rfl

private theorem ofText_pretty {levels : Nat} {v : Value} (h : v.Plain levels)
    (hlevels : levels ≤ maxDepth) :
    ofText (v.pretty 0) = record.decode v := by
  rw [ofText, decodeText, (h.readAs_pretty 0).read_eq hlevels]
  cases record.decode v <;> rfl

private theorem restrict_all (c : Config) (parts : List (String × Value)) :
    c.restrict ((c.members parts).map Prod.fst) (c.components.members.map Prod.fst) = c := by
  simp [restrict, members, ComponentTable.restrict, ComponentTable.members]

/-- A configuration is read from its text. From the text of any of its members in any order, with
any parts of the table of components in any order, it is read as far as it is written; the rest is
standard. -/
theorem ofText_written (c : Config) : ofText c.toText = .ok c ∧
    ∀ parts members : List (String × Value), parts.Subperm c.components.members →
      members.Subperm (c.members parts) →
      ofText ((Value.object members).pretty 0) =
        .ok (c.restrict (members.map Prod.fst) (parts.map Prod.fst)) := by
  have hwritten (parts members : List (String × Value))
      (hparts : parts.Subperm c.components.members) (hmembers : members.Subperm (c.members parts)) :
      ofText ((Value.object members).pretty 0) =
        .ok (c.restrict (members.map Prod.fst) (parts.map Prod.fst)) := by
    have hplain : ∀ m ∈ members, m.2.Plain 3 := fun m hm =>
      c.plain_members (fun m hm => c.components.plain_members m (hparts.subset hm)) m
        (hmembers.subset hm)
    rw [ofText_pretty (.object hplain) (by decide), c.decode_of_subperm hparts hmembers]
  refine ⟨?_, hwritten⟩
  rw [toText, encode_eq, hwritten _ _ (List.Subperm.refl _) (List.Subperm.refl _), restrict_all]

/-- A configuration without a maximal width, and with a namespace that has to be escaped. -/
def quoted : Config where
  components := .setLocal .empty "\"7\"\n" "é" .badge
  omittedNames := []
  maxWidth := none

/-- Two of its fields, the last one first. -/
def quotedMembers : List (String × Value) := [
  ("max_width", .null),
  ("components", .object [("compound",
    .object [("\"7\"\n", .object [("é", .string "Badge")])])])]

theorem ofText_written_quoted : ∃ parts, parts.Subperm quoted.components.members ∧
    quotedMembers.Subperm (quoted.members parts) ∧
    ofText ((Value.object quotedMembers).pretty 0) =
      .ok { components := ⟨ComponentTable.standard.families, quoted.components.localKinds⟩
            maxWidth := none } := by
  have hparts : [quoted.components.members[1]].Subperm quoted.components.members :=
    List.Sublist.subperm (.cons _ (.refl _))
  have hmembers : quotedMembers.Subperm (quoted.members [quoted.components.members[1]]) :=
    ⟨quotedMembers.reverse, quotedMembers.reverse_perm,
      .cons_cons _ (.cons _ (.cons _ (.cons _ (.refl _))))⟩
  exact ⟨_, hparts, hmembers, (ofText_written quoted).2 _ _ hparts hmembers⟩

end Config

end Mockup
