import Mockup.Proofs.Json.Encoding
import Mockup.Proofs.Json.Finite
import Mockup.Proofs.Node.Format

/-!
# Encoded nodes

A node that is encoded is decoded to itself, as long as its floats are finite and no kind outside
the known ones has the name of a known one. Decoded nodes are of that sort.
-/

namespace Mockup

open Json

def Rgb.floats (color : Rgb) : List Float :=
  [color.r, color.g, color.b]

def Paint.floats (paint : Paint) : List Float :=
  paint.color.toList.flatMap Rgb.floats

def LayoutAttributes.floats (layout : LayoutAttributes) : List Float :=
  [layout.itemSpacing, layout.padding.left, layout.padding.right, layout.padding.top,
    layout.padding.bottom] ++ layout.cornerRadius.toList

private theorem Rgb.decode_encode {color : Rgb} (h : ∀ x ∈ color.floats, x.isFinite) :
    rgbRecord.decode color.encode = .ok color := by
  simp only [floats, List.forall_mem_cons] at h
  obtain ⟨hr, hg, hb, -⟩ := h
  rw [encode, encodeFloat, encodeFloat, encodeFloat, if_pos hr, if_pos hg, if_pos hb]
  rfl

private theorem sound_encodeFloat (x : Float) : (encodeFloat x).Sound := by
  rw [encodeFloat]
  split
  · exact .number _
  · exact .null

private theorem sound_encodeNamed {α : Type} [Named α] (a : α) : (encodeNamed a).Sound :=
  .string _

private theorem sound_encodeOptional {α : Type} {encode : α → Value} (h : ∀ a, (encode a).Sound)
    (a? : Option α) : (encodeOptional encode a?).Sound := by
  cases a? with
  | none => exact .null
  | some a => exact h a

private theorem Rgb.sound_encode (color : Rgb) : color.encode.Sound := by
  refine .object ?_
  simp only [List.forall_mem_cons]
  exact ⟨sound_encodeFloat _, sound_encodeFloat _, sound_encodeFloat _, List.forall_mem_nil _⟩

private theorem Paint.sound_encode (paint : Paint) : paint.encode.Sound := by
  refine .object ?_
  simp only [List.forall_mem_cons]
  exact ⟨sound_encodeNamed _, sound_encodeOptional Rgb.sound_encode _, List.forall_mem_nil _⟩

private theorem Constraints.sound_encode (c : Constraints) : c.encode.Sound := by
  refine .object ?_
  simp only [List.forall_mem_cons]
  exact ⟨sound_encodeNamed _, sound_encodeNamed _, List.forall_mem_nil _⟩

private theorem PropertyValue.sound_encode (value : PropertyValue) : value.encode.Sound := by
  cases value with
  | bool b => exact .bool b
  | string s => exact .string s

private theorem Property.sound_encode (p : Property) : p.encode.Sound := by
  refine .object ?_
  simp only [List.forall_mem_cons]
  exact ⟨sound_encodeNamed _, p.value.sound_encode, List.forall_mem_nil _⟩

private theorem Paint.decode_encode {paint : Paint} (h : ∀ x ∈ paint.floats, x.isFinite) :
    paintRecord.decode paint.encode = .ok paint := by
  obtain ⟨kind, color⟩ := paint
  have hkind : decodeNamedBy readPaintKind (encodeNamed kind) = .ok kind := by
    cases kind <;> rfl
  have hcolor : decodeOptional rgbRecord.decode (encodeOptional Rgb.encode color) = .ok color := by
    refine decodeOptional_encode fun c hc => ⟨Rgb.decode_encode fun x hx => h x ?_, nofun⟩
    rw [floats, Option.mem_def.1 hc]
    exact List.mem_flatMap.2 ⟨c, List.mem_singleton_self c, hx⟩
  rw [encode, paintRecord, Record.decode]
  exact Record.ofMembers_pair (sound_encodeNamed kind) (sound_encodeOptional Rgb.sound_encode color)
    (congrArg some (fill_map_eq_ok_iff.2 ⟨rfl, kind, hkind, rfl⟩))
    (congrArg some (fill_map_eq_ok_iff.2 ⟨rfl, color, hcolor, rfl⟩)) rfl

private theorem Constraints.decode_encode (c : Constraints) :
    constraintsRecord.decodeWhole c.encode = .ok c := by
  rw [encode, Record.decodeWhole]
  exact Record.ofMembers_pair (sound_encodeNamed _) (sound_encodeNamed _)
    (congrArg some (fill_map_eq_ok_iff.2 ⟨rfl, _, decodeNamedCollected_encode _, rfl⟩))
    (congrArg some (fill_map_eq_ok_iff.2 ⟨rfl, _, decodeNamedCollected_encode _, rfl⟩)) rfl

private theorem PropertyValue.decode_encode (value : PropertyValue) :
    decodePropertyValue value.encode = .ok value := by
  cases value <;> rfl

private theorem Property.decode_encode (p : Property) : propertyRecord.decode p.encode = .ok p := by
  rw [encode, Record.decode]
  exact Record.ofMembers_pair (sound_encodeNamed _) p.value.sound_encode
    (congrArg some (fill_map_eq_ok_iff.2 ⟨rfl, _, decodeNamed_encode _, rfl⟩))
    (congrArg some (fill_map_eq_ok_iff.2 ⟨rfl, _, p.value.decode_encode, rfl⟩)) rfl

private theorem StyleId.decode_encode (id? : Option StyleId) :
    decodeOptional decodeStyleId (encodeOptional (.string ·.text) id?) = .ok id? :=
  decodeOptional_encode fun _ _ => ⟨rfl, nofun⟩

private theorem VariableId.decode_encode (id? : Option VariableId) :
    decodeOptional decodeVariableId (encodeOptional (.string ·.text) id?) = .ok id? :=
  decodeOptional_encode fun _ _ => ⟨rfl, nofun⟩

/-- A kind outside the known ones does not have the name of a known one. -/
def NodeKind.IsProper (k : NodeKind) : Prop :=
  ∀ s, k = .other s → s ∉ known.map name

instance (k : NodeKind) : Decidable k.IsProper :=
  match k with
  | .other s => decidable_of_iff (s ∉ NodeKind.known.map NodeKind.name)
      ⟨fun h _ ht => NodeKind.other.inj ht ▸ h, fun h => h s rfl⟩
  | .frame | .componentInstance | .group | .text | .rectangle | .ellipse | .vector | .line =>
    .isTrue nofun

private theorem NodeKind.ofName_name {k : NodeKind} (h : k.IsProper) : ofName k.name = k := by
  cases k with
  | other s =>
    have hnone : known.find? (·.name == s) = none := by
      refine List.find?_eq_none.2 fun k hk => ?_
      rw [beq_iff_eq]
      rintro rfl
      exact h _ rfl (List.mem_map_of_mem hk)
    rw [ofName, name, hnone]
    rfl
  | _ => rfl

private theorem NodeKind.isProper_ofName (s : String) : (ofName s).IsProper := by
  intro t ht hmem
  obtain ⟨k, hk, hname⟩ := List.mem_map.1 hmem
  rw [ofName] at ht
  cases hfind : known.find? (·.name == s) with
  | some found =>
    rw [hfind] at ht
    have hknown : found ∈ known := List.mem_of_find?_eq_some hfind
    rw [show found = other t from ht] at hknown
    simp [known] at hknown
  | none =>
    rw [hfind] at ht
    cases ht
    exact List.find?_eq_none.1 hfind k hk (beq_iff_eq.2 hname)

namespace Node

def floats (n : Node) : List Float :=
  n.layout.floats ++ n.fills.flatMap Paint.floats ++ [n.text.opacity]

def HasProperKinds (n : Node) : Prop :=
  ∀ d ∈ n :: n.descendants, d.kind.IsProper

def HasFiniteFloats (n : Node) : Prop :=
  ∀ d ∈ n :: n.descendants, ∀ x ∈ d.floats, x.isFinite

instance (n : Node) : Decidable n.HasProperKinds :=
  inferInstanceAs (Decidable (∀ d ∈ n :: n.descendants, d.kind.IsProper))

instance (n : Node) : Decidable n.HasFiniteFloats :=
  inferInstanceAs (Decidable (∀ d ∈ n :: n.descendants, ∀ x ∈ d.floats, x.isFinite))

/-- The members that a node is written with. -/
def members (n : Node) : List (String × Value) :=
  [("id", .string n.id.text), ("type", .string n.kind.name), ("name", .string n.name),
    ("children", .array (n.children.map Node.encode))] ++ n.layout.encode ++
    [("fills", .array (n.fills.map Paint.encode)),
    ("fillStyleId", encodeOptional (.string ·.text) n.fillStyle),
    ("cornerStyleId", encodeOptional (.string ·.text) n.cornerStyle)] ++ n.text.encode ++
    [("componentProperties", encodeMap Property.encode n.properties)]

private theorem encode_eq (n : Node) : n.encode = .object n.members := by
  have hall (cs : List Node) : encodeNodes cs = cs.map Node.encode := by
    induction cs with
    | nil => rfl
    | cons c cs ih => rw [encodeNodes, ih, List.map_cons]
  rw [members, ← hall]
  cases n
  rfl

private theorem reads_layout {n : Node} (h : ∀ x ∈ n.layout.floats, x.isFinite) :
    ∀ f ∈ LayoutAttributes.fields, (f.toAttribute.of Node.layout).Reads n.members n := by
  simp only [LayoutAttributes.floats, List.forall_mem_append, List.forall_mem_cons,
    Option.mem_toList] at h
  obtain ⟨⟨hspacing, hleft, hright, htop, hbottom, -⟩, hradius⟩ := h
  simp only [LayoutAttributes.fields, List.forall_mem_cons]
  refine ⟨Or.inr ⟨_, rfl, decodeNamedCollected_encode _⟩,
    Or.inr ⟨_, rfl, decodeFloat_encode hspacing⟩,
    Or.inr ⟨_, rfl, decodeFloat_encode hleft⟩, Or.inr ⟨_, rfl, decodeFloat_encode hright⟩,
    Or.inr ⟨_, rfl, decodeFloat_encode htop⟩, Or.inr ⟨_, rfl, decodeFloat_encode hbottom⟩,
    Or.inr ⟨_, rfl, decodeNamedCollected_encode _⟩, Or.inr ⟨_, rfl, decodeNamedCollected_encode _⟩,
    Or.inr ⟨_, rfl, decodeOptional_encode fun c _ =>
      ⟨c.decode_encode, by simp [Constraints.encode]⟩⟩,
    Or.inr ⟨_, rfl, decodeOptional_encode fun x hx =>
      ⟨decodeFloat_encode (hradius x hx), encodeFloat_ne_null (hradius x hx)⟩⟩,
    List.forall_mem_nil _⟩

private theorem reads_text {n : Node} (h : n.text.opacity.isFinite) :
    ∀ f ∈ TextAttributes.fields, (f.toAttribute.of Node.text).Reads n.members n := by
  simp only [TextAttributes.fields, List.forall_mem_cons]
  exact ⟨Or.inr ⟨_, rfl, rfl⟩, Or.inr ⟨_, rfl, decodeFloat_encode h⟩,
    Or.inr ⟨_, rfl, StyleId.decode_encode _⟩, Or.inr ⟨_, rfl, decodeNamedCollected_encode _⟩,
    Or.inr ⟨_, rfl, VariableId.decode_encode _⟩, List.forall_mem_nil _⟩

private theorem reads_fields {n : Node} (h : ∀ x ∈ n.fills.flatMap Paint.floats, x.isFinite) :
    ∀ f ∈ fields, f.toAttribute.Reads n.members n := by
  have hpaint : ∀ paint ∈ n.fills, ∀ x ∈ paint.floats, x.isFinite :=
    fun paint hp x hx => h x (List.mem_flatMap.2 ⟨paint, hp, hx⟩)
  simp only [fields, List.forall_mem_cons]
  exact ⟨Or.inr ⟨_, rfl, rfl⟩,
    Or.inr ⟨_, rfl, decodeList_encode fun paint hp => Paint.decode_encode (hpaint paint hp)⟩,
    Or.inr ⟨_, rfl, StyleId.decode_encode _⟩, Or.inr ⟨_, rfl, StyleId.decode_encode _⟩,
    Or.inr ⟨_, rfl, decodeMap_encode fun entry _ => entry.2.decode_encode⟩, List.forall_mem_nil _⟩

/-- The members that a node is written with say the node, once its children are decoded to
themselves. -/
theorem reads_members {n : Node} (hkind : n.kind.IsProper) (hfloats : ∀ x ∈ n.floats, x.isFinite)
    (hchildren : ∀ c ∈ n.children, Node.decode c.encode = .ok c) : n.Reads n.members := by
  simp only [floats, List.forall_mem_append, List.forall_mem_cons] at hfloats
  obtain ⟨⟨hlayout, hfills⟩, hopacity, -⟩ := hfloats
  constructor
  case id => rfl
  case kind => exact ⟨_, rfl, (NodeKind.ofName_name hkind).symm⟩
  case children => exact Or.inr ⟨_, rfl, decodeList_encode hchildren⟩
  case others =>
    exact forall_attributes.2 ⟨reads_fields hfills, reads_layout hlayout, reads_text hopacity⟩

private theorem sound_members {n : Node} (h : ∀ c ∈ n.children, c.encode.Sound) :
    ∀ m ∈ n.members, m.2.Sound := by
  simp only [members, LayoutAttributes.encode, TextAttributes.encode, List.forall_mem_append,
    List.forall_mem_cons]
  refine ⟨⟨⟨⟨⟨.string _, .string _, .string _, .array ?_, List.forall_mem_nil _⟩,
    sound_encodeNamed _, sound_encodeFloat _, sound_encodeFloat _, sound_encodeFloat _,
    sound_encodeFloat _, sound_encodeFloat _, sound_encodeNamed _, sound_encodeNamed _,
    sound_encodeOptional Constraints.sound_encode _, sound_encodeOptional sound_encodeFloat _,
    List.forall_mem_nil _⟩, .array ?_, sound_encodeOptional (fun _ => .string _) _,
    sound_encodeOptional (fun _ => .string _) _, List.forall_mem_nil _⟩,
    .string _, sound_encodeFloat _, sound_encodeOptional (fun _ => .string _) _,
    sound_encodeNamed _,
    sound_encodeOptional (fun _ => .string _) _, List.forall_mem_nil _⟩,
    .object ?_, List.forall_mem_nil _⟩
  · exact List.forall_mem_map.2 h
  · exact List.forall_mem_map.2 fun paint _ => paint.sound_encode
  · exact List.forall_mem_map.2 fun entry _ => entry.2.sound_encode

private theorem sound_encode (n : Node) : n.encode.Sound := by
  induction n using induct with
  | step n ih =>
    rw [encode_eq]
    exact .object (sound_members ih)

private theorem decode_encode_of_proper (n : Node) (hkinds : n.HasProperKinds)
    (hfloats : n.HasFiniteFloats) : Node.decode n.encode = .ok n := by
  induction n using induct with
  | step n ih =>
    obtain ⟨hkind, hkinds⟩ := forall_tree_iff.1 hkinds
    obtain ⟨hself, hfloats⟩ := forall_tree_iff.1 hfloats
    have hreads : n.Reads n.members :=
      reads_members hkind hself fun c hc => ih c hc (hkinds c hc) (hfloats c hc)
    rw [encode_eq]
    exact (decode_object_ok_iff (.object (sound_members fun c _ => c.sound_encode))).2 hreads

end Node

private theorem Rgb.isFinite_of_decode {v : Value} {color : Rgb} (hv : v.HasFiniteNumbers)
    (h : rgbRecord.decode v = .ok color) : ∀ x ∈ color.floats, x.isFinite := by
  have hkeeps : rgbRecord.Keeps fun slots : RgbSlots =>
      ∀ x ∈ slots.r.toList ++ slots.g.toList ++ slots.b.toList, x.isFinite := by
    intro slots name v after hslots hv hafter
    simp only [List.forall_mem_append, Option.mem_toList] at hslots ⊢
    obtain ⟨⟨hr, hg⟩, hb⟩ := hslots
    simp only [rgbRecord] at hafter
    split at hafter
    case h_4 => cases hafter
    all_goals
      obtain ⟨-, x, hx, rfl⟩ := fill_map_eq_ok_iff.1 (Option.some.inj hafter)
      have hfinite := isFinite_of_decodeFloat hv hx
      simp_all
  have hstart : ∀ x ∈ (none.toList ++ none.toList ++ none.toList : List Float), x.isFinite :=
    List.forall_mem_nil _
  obtain ⟨slots, hslots, hfinish⟩ := hkeeps.exists_of_decode hstart hv h
  obtain ⟨r, hr, hfinish⟩ := exists_of_bind_ok hfinish
  obtain ⟨g, hg, hfinish⟩ := exists_of_bind_ok hfinish
  obtain ⟨b, hb, hfinish⟩ := exists_of_bind_ok hfinish
  cases hfinish
  rw [require_eq_ok_iff.1 hr, require_eq_ok_iff.1 hg, require_eq_ok_iff.1 hb] at hslots
  exact hslots

private theorem Paint.isFinite_of_decode {v : Value} {paint : Paint} (hv : v.HasFiniteNumbers)
    (h : paintRecord.decode v = .ok paint) : ∀ x ∈ paint.floats, x.isFinite := by
  have hkeeps : paintRecord.Keeps fun slots : PaintSlots =>
      ∀ c ∈ slots.color.getD none, ∀ x ∈ c.floats, x.isFinite := by
    intro slots name v after hslots hv hafter
    simp only [paintRecord, paintRecordBy] at hafter
    split at hafter
    · obtain ⟨-, kind, -, rfl⟩ := fill_map_eq_ok_iff.1 (Option.some.inj hafter)
      exact hslots
    · obtain ⟨-, color, hcolor, rfl⟩ := fill_map_eq_ok_iff.1 (Option.some.inj hafter)
      rintro c ⟨⟩
      exact Rgb.isFinite_of_decode hv (decodeOptional_eq_some_iff.1 hcolor).2
    · cases hafter
  have hstart : ∀ c ∈ (none : Option Rgb), ∀ x ∈ c.floats, x.isFinite := by simp
  obtain ⟨slots, hslots, hfinish⟩ := hkeeps.exists_of_decode hstart hv h
  obtain ⟨kind, -, hfinish⟩ := exists_of_bind_ok hfinish
  cases hfinish
  intro x hx
  obtain ⟨c, hc, hx⟩ := List.mem_flatMap.1 hx
  exact hslots c (Option.mem_toList.1 hc) x hx

namespace Node

variable {members : List (String × Value)} {n : Node}

private theorem Reads.isFinite_layout (hn : n.Reads members)
    (hmembers : ∀ m ∈ members, m.2.HasFiniteNumbers) : ∀ x ∈ n.layout.floats, x.isFinite := by
  have hzero : (0 : Float).isFinite := by decide
  obtain ⟨-, hlayout, -⟩ := forall_attributes.1 hn.others
  simp only [LayoutAttributes.fields, List.forall_mem_cons] at hlayout
  obtain ⟨-, hspacing, hleft, hright, htop, hbottom, -, -, -, hradius, -⟩ := hlayout
  simp only [LayoutAttributes.floats, List.forall_mem_append, List.forall_mem_cons,
    Option.mem_toList]
  refine ⟨⟨?_, ?_, ?_, ?_, ?_, List.forall_mem_nil _⟩, ?_⟩
  · exact Attribute.isFinite_of_reads hmembers hzero hspacing
  · exact Attribute.isFinite_of_reads hmembers hzero hleft
  · exact Attribute.isFinite_of_reads hmembers hzero hright
  · exact Attribute.isFinite_of_reads hmembers hzero htop
  · exact Attribute.isFinite_of_reads hmembers hzero hbottom
  · exact Attribute.isFinite_of_reads_nullable hmembers hradius

private theorem Reads.isFinite_fills (hn : n.Reads members)
    (hmembers : ∀ m ∈ members, m.2.HasFiniteNumbers) :
    ∀ x ∈ n.fills.flatMap Paint.floats, x.isFinite := by
  obtain ⟨hfields, -, -⟩ := forall_attributes.1 hn.others
  simp only [fields, List.forall_mem_cons] at hfields
  intro x hx
  obtain ⟨paint, hpaint, hx⟩ := List.mem_flatMap.1 hx
  obtain ⟨items, hitems, item, hitem, hdecode⟩ := Attribute.exists_item_of_reads hfields.2.1 hpaint
  exact paint.isFinite_of_decode ((hmembers _ hitems).items item hitem) hdecode x hx

private theorem Reads.isFinite_opacity (hn : n.Reads members)
    (hmembers : ∀ m ∈ members, m.2.HasFiniteNumbers) : n.text.opacity.isFinite := by
  have hone : (1 : Float).isFinite := by decide
  obtain ⟨-, -, htext⟩ := forall_attributes.1 hn.others
  simp only [TextAttributes.fields, List.forall_mem_cons] at htext
  exact Attribute.isFinite_of_reads hmembers hone htext.2.1

private theorem hasProperKinds_of_decode {v : Value} (h : Node.decode v = .ok n) :
    n.HasProperKinds := by
  induction n using induct generalizing v with
  | step n ih =>
    cases v with
    | object members =>
      have hn := reads_of_decode h
      refine forall_tree_iff.2 ⟨?_, fun c hc => ?_⟩
      · obtain ⟨s, -, hkind⟩ := hn.kind
        rw [hkind]
        exact NodeKind.isProper_ofName s
      · obtain ⟨items, -, item, -, hdecode⟩ := Attribute.exists_item_of_reads hn.children hc
        exact ih c hc hdecode
    | _ => simp [Node.decode] at h

private theorem hasFiniteFloats_of_decode {v : Value} (hv : v.HasFiniteNumbers)
    (h : Node.decode v = .ok n) : n.HasFiniteFloats := by
  induction n using induct generalizing v with
  | step n ih =>
    cases v with
    | object members =>
      have hn := reads_of_decode h
      refine forall_tree_iff.2 ⟨?_, fun c hc => ?_⟩
      · simp only [floats, List.forall_mem_append, List.forall_mem_singleton]
        exact ⟨⟨hn.isFinite_layout hv.members, hn.isFinite_fills hv.members⟩,
          hn.isFinite_opacity hv.members⟩
      · obtain ⟨items, hitems, item, hitem, hdecode⟩ :=
          Attribute.exists_item_of_reads hn.children hc
        exact ih c hc ((hv.members _ hitems).items item hitem) hdecode
    | _ => simp [Node.decode] at h

/-- A node with finite floats in which no kind outside the known ones has the name of one is decoded
from what it is encoded to. Every decoded node is such a node, as far as the floats of its value are
finite, so that to encode it and to decode it again changes nothing. -/
theorem decode_inverts_encode :
    (∀ n : Node, n.HasProperKinds → n.HasFiniteFloats → Node.decode n.encode = .ok n) ∧
    ∀ v n, Node.decode v = .ok n →
      n.HasProperKinds ∧ (v.HasFiniteNumbers → Node.decode n.encode = Node.decode v) := by
  refine ⟨decode_encode_of_proper, fun v n h => ?_⟩
  have hkinds : n.HasProperKinds := hasProperKinds_of_decode h
  refine ⟨hkinds, fun hv => ?_⟩
  rw [h]
  exact decode_encode_of_proper n hkinds (hasFiniteFloats_of_decode hv h)

/-- A frame with a video as its fill and with a child of no known kind. -/
def canvas : Value := .object [
  ("id", .string "1:1"),
  ("type", .string "FRAME"),
  ("children", .array [.object [("id", .string "1:2"), ("type", .string "STAR")]]),
  ("fills", .array [.object [("type", .string "VIDEO"), ("color", .null)]]),
  ("cornerRadius", .number (.int 4))]

theorem decode_inverts_encode_canvas : ∃ n, Node.decode canvas = .ok n ∧
    n.HasProperKinds ∧ n.HasFiniteFloats ∧ canvas.HasFiniteNumbers ∧
    Node.decode n.encode = .ok n ∧ Node.decode n.encode = Node.decode canvas := by
  refine ⟨_, rfl, by decide, by decide, by decide, ?_, ?_⟩
  · exact decode_inverts_encode.1 _ (by decide) (by decide)
  · exact (decode_inverts_encode.2 canvas _ rfl).2 (by decide)

end Node

end Mockup
