import Mockup.Proofs.Node.Tree
import Mockup.Proofs.Node.Values

/-!
# The format of nodes

What a node is decoded to depends on the values under its known member names, wherever they stand.
-/

namespace Mockup

open Json

def LayoutAttributes.fields : List (Field LayoutSlots LayoutAttributes) := [
  ⟨⟨"layoutMode", .named, .none, (·.mode)⟩, (·.mode)⟩,
  ⟨⟨"itemSpacing", .number, 0, (·.itemSpacing)⟩, (·.itemSpacing)⟩,
  ⟨⟨"paddingLeft", .number, 0, (·.padding.left)⟩, (·.paddingLeft)⟩,
  ⟨⟨"paddingRight", .number, 0, (·.padding.right)⟩, (·.paddingRight)⟩,
  ⟨⟨"paddingTop", .number, 0, (·.padding.top)⟩, (·.paddingTop)⟩,
  ⟨⟨"paddingBottom", .number, 0, (·.padding.bottom)⟩, (·.paddingBottom)⟩,
  ⟨⟨"primaryAxisAlignItems", .named, .min, (·.distribution)⟩, (·.distribution)⟩,
  ⟨⟨"layoutAlign", .named, .inherit, (·.align)⟩, (·.align)⟩,
  ⟨⟨"constraints", .nullable .constraints, none, (·.constraints)⟩,
    (·.constraints)⟩,
  ⟨⟨"cornerRadius", .nullable .number, none, (·.cornerRadius)⟩, (·.cornerRadius)⟩]

private theorem LayoutAttributes.gathers :
    Gathers LayoutAttributes.fields LayoutSlots.write {} LayoutSlots.attributes where
  fills := {
    filled := by
      intro state name v after h
      unfold LayoutSlots.write at h
      split at h
      case h_11 =>
        cases h
        simp_all [fields, Field.slot, Ne.symm]
      all_goals
        obtain ⟨hnone, a, ha, rfl⟩ := fill_map_eq_ok_iff.1 h
        simp [fields, Field.slot, hnone, ha]
    succeeds := by
      intro state name v _ h
      simp only [fields, List.map_cons, List.map_nil, List.forall_mem_cons, Field.slot] at h
      unfold LayoutSlots.write
      split
      case h_11 => exact ⟨state, rfl⟩
      all_goals
        simp only [fill_map_eq_ok_iff]
        simp at h
        obtain ⟨hnone, a, ha⟩ := h
        exact ⟨_, hnone, a, ha, rfl⟩ }
  empty := by simp [fields]
  finished := by simp [fields, LayoutSlots.attributes]
  ext := by
    intro x y h
    simp only [fields, List.forall_mem_cons] at h
    obtain ⟨_, _, ⟨_, _, _, _⟩, _, _, _, _⟩ := x
    obtain ⟨_, _, ⟨_, _, _, _⟩, _, _, _, _⟩ := y
    simp_all

def TextAttributes.fields : List (Field TextSlots TextAttributes) := [
  ⟨⟨"characters", .text, "", (·.characters)⟩, (·.characters)⟩,
  ⟨⟨"opacity", .number, 1, (·.opacity)⟩, (·.opacity)⟩,
  ⟨⟨"textStyleId", .nullable .styleId, none, (·.style)⟩, (·.style)⟩,
  ⟨⟨"textAlignHorizontal", .named, .left, (·.align)⟩, (·.align)⟩,
  ⟨⟨"boundFillVariable", .nullable .variableId, none, (·.boundFill)⟩,
    (·.boundFill)⟩]

private theorem TextAttributes.gathers :
    Gathers TextAttributes.fields TextSlots.write {} TextSlots.attributes where
  fills := {
    filled := by
      intro state name v after h
      unfold TextSlots.write at h
      split at h
      case h_6 =>
        cases h
        simp_all [fields, Field.slot, Ne.symm]
      all_goals
        obtain ⟨hnone, a, ha, rfl⟩ := fill_map_eq_ok_iff.1 h
        simp [fields, Field.slot, hnone, ha]
    succeeds := by
      intro state name v _ h
      simp only [fields, List.map_cons, List.map_nil, List.forall_mem_cons, Field.slot] at h
      unfold TextSlots.write
      split
      case h_6 => exact ⟨state, rfl⟩
      all_goals
        simp only [fill_map_eq_ok_iff]
        simp at h
        obtain ⟨hnone, a, ha⟩ := h
        exact ⟨_, hnone, a, ha, rfl⟩ }
  empty := by simp [fields]
  finished := by simp [fields, TextSlots.attributes]
  ext := by
    intro x y h
    simp only [fields, List.forall_mem_cons] at h
    cases x
    cases y
    simp_all

namespace Node

/-- The attributes of a node that are decoded as soon as they are met, but for its children. -/
def fields : List (Field NodeSlots Node) := [
  ⟨⟨"name", .text, "", (·.name)⟩, (·.name)⟩,
  ⟨⟨"fills", .listOf .paint, [], (·.fills)⟩, (·.fills)⟩,
  ⟨⟨"fillStyleId", .nullable .styleId, none, (·.fillStyle)⟩, (·.fillStyle)⟩,
  ⟨⟨"cornerStyleId", .nullable .styleId, none, (·.cornerStyle)⟩, (·.cornerStyle)⟩,
  ⟨⟨"componentProperties", .mapOf .property, .empty, (·.properties)⟩,
    (·.properties)⟩]

def childrenField : Field NodeSlots Node :=
  ⟨⟨"children", .listOf (.ofDecoder Node.decode), [], (·.children)⟩, (·.children)⟩

def memberSlots : List (Slot NodeSlots) :=
  ⟨"id", decodeString, (·.id)⟩ :: ⟨"type", decodeString, (·.kind)⟩ ::
    (childrenField :: fields).map Field.slot

/-- All attributes of a node but its children. -/
def attributes : List (Attribute Node) :=
  fields.map (·.toAttribute) ++ LayoutAttributes.fields.map (·.toAttribute.of Node.layout) ++
    TextAttributes.fields.map (·.toAttribute.of Node.text)

private theorem decodeNodes_eq_mapM (items : List Value) :
    decodeNodes items = items.mapM Node.decode := by
  induction items with
  | nil => rw [decodeNodes, List.mapM_nil]; rfl
  | cons v rest ih => rw [decodeNodes, List.mapM_cons, ih]

private theorem decodeChildren_eq : decodeChildren = decodeList Node.decode := by
  funext v
  cases v <;> simp [decodeChildren, decodeList, decodeNodes_eq_mapM]

end Node

/-- A member of a node, the children among them. -/
def NodeSlots.writeAny (slots : NodeSlots) (name : String) (v : Value) :
    Except DecodeError NodeSlots :=
  if name = "children" then
    (fill name slots.children (decodeList Node.decode) v).map ({ slots with children := · })
  else
    slots.write name v

namespace Node

private theorem decodeNodeMembers_eq_foldlM (slots : NodeSlots) (members : List (String × Value)) :
    decodeNodeMembers slots members =
      members.foldlM (fun slots m => NodeSlots.writeAny slots m.1 m.2) slots := by
  induction members generalizing slots with
  | nil => rw [decodeNodeMembers]; rfl
  | cons m rest ih =>
    obtain ⟨name, v⟩ := m
    rw [decodeNodeMembers, List.foldlM_cons]
    simp only [← ih]
    rw [NodeSlots.writeAny, decodeChildren_eq]
    split
    · cases slots.children with
      | none =>
        simp only [fill]
        cases decodeList Node.decode v <;> rfl
      | some _ => rfl
    · rfl

private theorem memberSlots_fills : Fills memberSlots NodeSlots.writeAny where
  filled := by
    intro state name v after h
    unfold NodeSlots.writeAny at h
    split at h
    · obtain ⟨hnone, a, ha, rfl⟩ := fill_map_eq_ok_iff.1 h
      simp_all [memberSlots, fields, childrenField, Field.slot]
    · unfold NodeSlots.write at h
      split at h
      case h_8 =>
        obtain ⟨_, _, rfl⟩ := map_eq_ok_iff.1 h
        simp_all [memberSlots, fields, childrenField, Field.slot, Ne.symm]
      all_goals
        obtain ⟨hnone, a, ha, rfl⟩ := fill_map_eq_ok_iff.1 h
        simp [memberSlots, fields, childrenField, Field.slot, hnone, ha]
  succeeds := by
    intro state name v hsound h
    simp only [memberSlots, fields, childrenField, List.map_cons, List.map_nil,
      List.forall_mem_cons, Field.slot] at h
    unfold NodeSlots.writeAny
    split
    · simp_all [fill_map_eq_ok_iff]
    · unfold NodeSlots.write
      split
      case h_8 => exact ⟨_, map_eq_ok_iff.2 ⟨(), hsound.whole, rfl⟩⟩
      all_goals
        simp only [fill_map_eq_ok_iff]
        simp at h
        obtain ⟨hnone, a, ha⟩ := h
        exact ⟨_, hnone, a, ha, rfl⟩

private theorem memberSlots_start : ∀ s ∈ memberSlots, s.get {} = none := by
  simp [memberSlots, fields, childrenField, Field.slot]

/-- Whether a member is decoded as soon as it is met. -/
def isDirect (name : String) : Bool :=
  name ∈ memberSlots.map (·.name)

private theorem collected_writeAny {state after : NodeSlots} {name : String} {v : Value}
    (h : state.writeAny name v = .ok after) :
    after.collected =
      if isDirect name then state.collected else (name, v) :: state.collected := by
  unfold NodeSlots.writeAny at h
  split at h
  · obtain ⟨_, _, _, rfl⟩ := fill_map_eq_ok_iff.1 h
    simp_all [isDirect, memberSlots, fields, childrenField, Field.slot]
  · unfold NodeSlots.write at h
    split at h
    case h_8 =>
      obtain ⟨_, _, rfl⟩ := map_eq_ok_iff.1 h
      simp_all [isDirect, memberSlots, fields, childrenField, Field.slot]
    all_goals
      obtain ⟨_, _, _, rfl⟩ := fill_map_eq_ok_iff.1 h
      simp [isDirect, memberSlots, fields, childrenField, Field.slot]

/-- The node has what the values under the known names are decoded to. -/
structure Reads (members : List (String × Value)) (n : Node) : Prop where
  id : valuesOf "id" members = [.string n.id.text]
  kind : ∃ s, valuesOf "type" members = [.string s] ∧ n.kind = .ofName s
  children : childrenField.Reads members n
  others : ∀ a ∈ attributes, a.Reads members n

theorem forall_attributes {P : Attribute Node → Prop} : (∀ a ∈ attributes, P a) ↔
    (∀ f ∈ fields, P f.toAttribute) ∧
    (∀ f ∈ LayoutAttributes.fields, P (f.toAttribute.of Node.layout)) ∧
    ∀ f ∈ TextAttributes.fields, P (f.toAttribute.of Node.text) := by
  simp only [attributes, List.forall_mem_append, List.forall_mem_map, and_assoc]

section

variable {members : List (String × Value)} {n m : Node}

theorem Reads.unique (hn : n.Reads members) (hm : m.Reads members) : n = m := by
  obtain ⟨hfields, hlayout, htext⟩ := forall_attributes.1 fun a ha =>
    (hn.others a ha).get_eq (hm.others a ha)
  have hid : n.id.text = m.id.text := by
    have h := hn.id.symm.trans hm.id
    simpa only [List.cons.injEq, Value.string.injEq, and_true] using h
  have hkind : n.kind = m.kind := by
    obtain ⟨s, hs, hn⟩ := hn.kind
    obtain ⟨t, ht, hm⟩ := hm.kind
    have h := hs.symm.trans ht
    simp only [List.cons.injEq, Value.string.injEq, and_true] at h
    rw [hn, hm, h]
  have hchildren : n.children = m.children := hn.children.get_eq hm.children
  have hlayout : n.layout = m.layout := LayoutAttributes.gathers.ext _ _ hlayout
  have htext : n.text = m.text := TextAttributes.gathers.ext _ _ htext
  simp only [fields, List.forall_mem_cons] at hfields
  obtain ⟨hname, hfills, hfillStyle, hcornerStyle, hproperties, -⟩ := hfields
  obtain ⟨⟨_⟩, _, _, _, _, _, _, _, _, _⟩ := n
  obtain ⟨⟨_⟩, _, _, _, _, _, _, _, _, _⟩ := m
  simp_all

variable {slots : NodeSlots}

private theorem collected_of_decodeNodeMembers (h : decodeNodeMembers {} members = .ok slots) :
    slots.collected.reverse = members.filter fun m => !isDirect m.1 := by
  rw [decodeNodeMembers_eq_foldlM] at h
  rw [collected_foldlM isDirect (fun _ _ _ _ => collected_writeAny) h]
  simp

private theorem holds_of_decodeNodeMembers (h : decodeNodeMembers {} members = .ok slots) :
    ∀ s ∈ memberSlots, Holds s.decode (valuesOf s.name members) (s.get slots) := by
  rw [decodeNodeMembers_eq_foldlM] at h
  exact fun s hs => memberSlots_fills.holds hs (memberSlots_start s hs) h

private theorem isDirect_layout : ∀ f ∈ LayoutAttributes.fields, isDirect f.name = false := by
  simp [isDirect, memberSlots, fields, childrenField, Field.slot, LayoutAttributes.fields]

private theorem isDirect_text : ∀ f ∈ TextAttributes.fields, isDirect f.name = false := by
  simp [isDirect, memberSlots, fields, childrenField, Field.slot, TextAttributes.fields]

private theorem valuesOf_collected {name : String} (h : isDirect name = false) :
    valuesOf name (members.filter fun m => !isDirect m.1) = valuesOf name members :=
  valuesOf_filter (fun name => !isDirect name) (by rw [h]; rfl) members

theorem reads_of_decode (h : Node.decode (.object members) = .ok n) : n.Reads members := by
  rw [Node.decode] at h
  obtain ⟨slots, hslots, hnode⟩ := exists_of_bind_ok h
  have hholds := holds_of_decodeNodeMembers hslots
  rw [NodeSlots.node, collected_of_decodeNodeMembers hslots] at hnode
  obtain ⟨id, hid, hnode⟩ := exists_of_bind_ok hnode
  obtain ⟨kind, hkind, hnode⟩ := exists_of_bind_ok hnode
  obtain ⟨layout, hlayout, hnode⟩ := exists_of_bind_ok hnode
  obtain ⟨text, htext, hnode⟩ := exists_of_bind_ok hnode
  cases hnode
  simp only [memberSlots, List.map_cons, List.forall_mem_cons] at hholds
  obtain ⟨hids, hkinds, hchildren, hfields⟩ := hholds
  constructor
  case id => exact hids.string_iff.2 (require_eq_ok_iff.1 hid)
  case kind => exact ⟨kind, hkinds.string_iff.2 (require_eq_ok_iff.1 hkind), rfl⟩
  case children => exact childrenField.reads_of_holds hchildren rfl
  case others =>
    refine forall_attributes.2 ⟨fun f hf => ?_, fun f hf => ?_, fun f hf => ?_⟩
    · refine f.reads_of_holds (hfields _ (List.mem_map_of_mem hf)) ?_
      revert f
      simp [fields, Field.slot]
    · exact (Attribute.reads_congr (valuesOf_collected (isDirect_layout f hf))).1
        (LayoutAttributes.gathers.reads hlayout f hf)
    · exact (Attribute.reads_congr (valuesOf_collected (isDirect_text f hf))).1
        (TextAttributes.gathers.reads htext f hf)

/-- The required texts stand there once, and each other known name at most once, with a value of
its kind. -/
structure Fits (members : List (String × Value)) : Prop where
  id : ∃ s, valuesOf "id" members = [.string s]
  kind : ∃ s, valuesOf "type" members = [.string s]
  children : childrenField.Fits members
  others : ∀ a ∈ attributes, a.Fits members

private theorem Reads.fits (h : n.Reads members) : Fits members where
  id := ⟨_, h.id⟩
  kind := h.kind.imp fun _ h => h.1
  children := h.children.fits
  others a ha := (h.others a ha).fits

private theorem exists_decode_of_fits (hsound : ∀ m ∈ members, m.2.Sound) (h : Fits members) :
    ∃ n, Node.decode (.object members) = .ok n := by
  obtain ⟨hfields, hlayouts, htexts⟩ := forall_attributes.1 h.others
  obtain ⟨id, hid⟩ := h.id
  obtain ⟨kind, hkind⟩ := h.kind
  have hslotsFit : ∀ s ∈ memberSlots, FitsOnce s.decode (valuesOf s.name members) := by
    simp only [memberSlots, List.map_cons, List.forall_mem_cons, List.forall_mem_map]
    exact ⟨Or.inr ⟨_, id, hid, rfl⟩, Or.inr ⟨_, kind, hkind, rfl⟩, h.children.fitsOnce hsound,
      fun f hf => (hfields f hf).fitsOnce hsound⟩
  obtain ⟨slots, hslots⟩ := memberSlots_fills.exists_foldlM {} hsound fun s hs =>
    Or.inl ⟨memberSlots_start s hs, hslotsFit s hs⟩
  rw [← decodeNodeMembers_eq_foldlM] at hslots
  have hholds := holds_of_decodeNodeMembers hslots
  simp only [memberSlots, List.map_cons, List.forall_mem_cons] at hholds
  obtain ⟨hids, hkinds, -⟩ := hholds
  have hcollected : ∀ m ∈ members.filter fun m => !isDirect m.1, m.2.Sound := fun m hm =>
    hsound m (List.mem_of_mem_filter hm)
  obtain ⟨layout, hlayout⟩ := LayoutAttributes.gathers.exists_ok hcollected fun f hf =>
    (Attribute.fits_congr (valuesOf_collected (isDirect_layout f hf))).2 (hlayouts f hf)
  obtain ⟨text, htext⟩ := TextAttributes.gathers.exists_ok hcollected fun f hf =>
    (Attribute.fits_congr (valuesOf_collected (isDirect_text f hf))).2 (htexts f hf)
  rw [Node.decode, hslots]
  change ∃ n, slots.node = .ok n
  rw [NodeSlots.node, collected_of_decodeNodeMembers hslots, hids.string_iff.1 hid,
    hkinds.string_iff.1 hkind, decodeLayoutAttributes, hlayout, decodeTextAttributes, htext]
  exact ⟨_, rfl⟩

/-- A node is decoded from an object exactly if it has what the members say. -/
theorem decode_object_ok_iff (h : (Value.object members).Sound) :
    Node.decode (.object members) = .ok n ↔ n.Reads members := by
  constructor
  · exact reads_of_decode
  · intro hn
    obtain ⟨m, hm⟩ := exists_decode_of_fits h.members hn.fits
    rw [hn.unique (reads_of_decode hm)]
    exact hm

theorem Reads.perm {others : List (String × Value)} (h : n.Reads members)
    (hperm : members.Perm others) : n.Reads others where
  id := valuesOf_eq_of_perm hperm h.id (by simp)
  kind := h.kind.imp fun s hs => ⟨valuesOf_eq_of_perm hperm hs.1 (by simp), hs.2⟩
  children := h.children.perm hperm
  others a ha := (h.others a ha).perm hperm

def memberNames : List String :=
  "id" :: "type" :: "children" :: attributes.map (·.name)

theorem reads_filter_iff :
    n.Reads (members.filter (·.1 ∈ memberNames)) ↔ n.Reads members := by
  have hvalues : ∀ name ∈ memberNames,
      valuesOf name (members.filter (·.1 ∈ memberNames)) = valuesOf name members :=
    fun name hname => valuesOf_filter (· ∈ memberNames) (decide_eq_true hname) members
  have hattribute : ∀ a ∈ attributes, a.Reads (members.filter (·.1 ∈ memberNames)) n ↔
      a.Reads members n := fun a ha =>
    Attribute.reads_congr (hvalues a.name (by simp [memberNames, List.mem_map_of_mem ha]))
  have hid := hvalues "id" (by simp [memberNames])
  have hkind := hvalues "type" (by simp [memberNames])
  have hchildren : childrenField.Reads (members.filter (·.1 ∈ memberNames)) n ↔
      childrenField.Reads members n :=
    Attribute.reads_congr (hvalues "children" (by simp [memberNames]))
  constructor <;> rintro ⟨h1, h2, h3, h4⟩
  · exact ⟨hid ▸ h1, hkind ▸ h2, hchildren.1 h3, fun a ha => (hattribute a ha).1 (h4 a ha)⟩
  · exact ⟨hid ▸ h1, hkind ▸ h2, hchildren.2 h3, fun a ha => (hattribute a ha).2 (h4 a ha)⟩

/-- Values that a node is decoded from. -/
inductive Acceptable : Value → Prop where
  | object {members : List (String × Value)}
    (id : ∃ s, valuesOf "id" members = [.string s])
    (kind : ∃ s, valuesOf "type" members = [.string s])
    (children : valuesOf "children" members = [] ∨
      ∃ items, valuesOf "children" members = [.array items])
    (nested : ∀ items, valuesOf "children" members = [.array items] →
      ∀ item ∈ items, Acceptable item)
    (others : ∀ a ∈ attributes, a.Fits members) : Acceptable (.object members)

/-- Each item of the list of children is decoded to a child. -/
theorem Reads.exists_child (hn : n.Reads members) {items : List Value}
    (hitems : valuesOf "children" members = [.array items]) {item : Value} (hitem : item ∈ items) :
    ∃ c ∈ n.children, Node.decode item = .ok c := by
  obtain ⟨hnil, -⟩ | ⟨v, hv, hdecode⟩ := hn.children
  · cases hnil.symm.trans hitems
  · cases hv.symm.trans hitems
    obtain ⟨_, hdecoded, hall⟩ : ∃ decoded, Value.array items = .array decoded ∧
        List.Forall₂ (fun v c => Node.decode v = .ok c) decoded n.children :=
      decodeList_eq_ok_iff.1 hdecode
    cases hdecoded
    exact exists_mem_of_forall₂ hall hitem

private theorem acceptable_of_decode {v : Value} (h : Node.decode v = .ok n) : Acceptable v := by
  induction n using induct generalizing v with
  | step n ih =>
    cases v with
    | object members =>
      have hn := reads_of_decode h
      constructor
      case id => exact hn.fits.id
      case kind => exact hn.fits.kind
      case children =>
        refine hn.fits.children.imp_right ?_
        rintro ⟨_, hv, items, rfl, -⟩
        exact ⟨items, hv⟩
      case nested =>
        intro items hitems item hitem
        obtain ⟨c, hc, hdecode⟩ := hn.exists_child hitems hitem
        exact ih c hc hdecode
      case others => exact hn.fits.others
    | _ => simp [Node.decode] at h

private theorem exists_decode_of_acceptable {v : Value} (hsound : v.Sound) (h : Acceptable v) :
    ∃ n, Node.decode v = .ok n := by
  induction h with
  | @object members id kind children nested others ih =>
    refine exists_decode_of_fits hsound.members ⟨id, kind, ?_, others⟩
    refine children.imp_right ?_
    rintro ⟨items, hitems⟩
    refine ⟨_, hitems, items, rfl, fun item hitem => ih items hitems item hitem ?_⟩
    have hchildren : (Value.array items).Sound :=
      hsound.members _ (mem_of_valuesOf (hitems ▸ List.mem_cons_self))
    exact hchildren.items item hitem

theorem exists_decode_iff {v : Value} (h : v.Sound) :
    (∃ n, Node.decode v = .ok n) ↔ Acceptable v :=
  ⟨fun ⟨_, hn⟩ => acceptable_of_decode hn, exists_decode_of_acceptable h⟩

end

end Node

end Mockup
