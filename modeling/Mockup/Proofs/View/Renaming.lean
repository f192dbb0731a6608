import Mockup.Proofs.Node.Tree
import Mockup.Proofs.View.Likeness

/-!
# Renamed nodes

Ids can be exchanged for others. A view does not show them, and each is told from the others after
a renaming as it was before.
-/

namespace Mockup

/-- New ids for nodes, styles and variables: different ones for different ones. -/
structure Renaming where
  ofNode : NodeId → NodeId
  ofStyle : StyleId → StyleId
  ofVariable : VariableId → VariableId
  ofNode_injective : ofNode.Injective
  ofStyle_injective : ofStyle.Injective
  ofVariable_injective : ofVariable.Injective

def TextAttributes.rename (r : Renaming) (text : TextAttributes) : TextAttributes :=
  { text with style := text.style.map r.ofStyle, boundFill := text.boundFill.map r.ofVariable }

mutual

def Node.rename (r : Renaming) : Node → Node
  | ⟨id, kind, name, children, layout, fills, fillStyle, cornerStyle, text, properties⟩ =>
    ⟨r.ofNode id, kind, name, renameNodes r children, layout, fills, fillStyle.map r.ofStyle,
      cornerStyle.map r.ofStyle, text.rename r, properties⟩

def renameNodes (r : Renaming) : List Node → List Node
  | [] => []
  | n :: rest => n.rename r :: renameNodes r rest

end

mutual

/-- A snapshot holds the answers to references, and none of the ids in them. -/
def Snapshot.rename (r : Renaming) : Snapshot → Snapshot
  | ⟨n, component, fillStyle, cornerStyle, textStyle, fillVariable, swaps, children⟩ =>
    ⟨n.rename r, component, fillStyle, cornerStyle, textStyle, fillVariable, swaps,
      renameSnapshots r children⟩

def renameSnapshots (r : Renaming) : List Snapshot → List Snapshot
  | [] => []
  | s :: rest => s.rename r :: renameSnapshots r rest

end

namespace Node

variable (r : Renaming) (n : Node)

@[simp] theorem rename_id : (n.rename r).id = r.ofNode n.id := by cases n; rfl
@[simp] theorem rename_kind : (n.rename r).kind = n.kind := by cases n; rfl
@[simp] theorem rename_name : (n.rename r).name = n.name := by cases n; rfl
@[simp] theorem rename_layout : (n.rename r).layout = n.layout := by cases n; rfl
@[simp] theorem rename_fills : (n.rename r).fills = n.fills := by cases n; rfl
@[simp] theorem rename_fillStyle : (n.rename r).fillStyle = n.fillStyle.map r.ofStyle := by
  cases n; rfl
@[simp] theorem rename_cornerStyle : (n.rename r).cornerStyle = n.cornerStyle.map r.ofStyle := by
  cases n; rfl
@[simp] theorem rename_text : (n.rename r).text = n.text.rename r := by cases n; rfl
@[simp] theorem rename_properties : (n.rename r).properties = n.properties := by cases n; rfl

@[simp] theorem rename_children : (n.rename r).children = n.children.map (rename r) := by
  have hall (cs : List Node) : renameNodes r cs = cs.map (rename r) := by
    induction cs with
    | nil => rfl
    | cons c cs ih => rw [renameNodes, ih, List.map_cons]
  cases n
  exact hall _

private theorem descendants_rename : (n.rename r).descendants = n.descendants.map (rename r) := by
  induction n using induct with
  | step n ih =>
    rw [descendants_eq, descendants_eq, rename_children, List.flatMap_map, List.map_flatMap]
    refine List.flatMap_congr fun c hc => ?_
    rw [ih c hc, List.map_cons]

theorem firstBelow?_rename {test : Node → Bool} (h : ∀ m, test (m.rename r) = test m) :
    (n.rename r).firstBelow? test = (n.firstBelow? test).map (rename r) := by
  have htest : test ∘ rename r = test := funext h
  rw [firstBelow?_eq_find?, firstBelow?_eq_find?, descendants_rename, List.find?_map, htest]

private theorem slot_rename (slotName : String) : (n.rename r).slot slotName = n.slot slotName := by
  have hfound : (n.rename r).firstBelow? (fun d => d.kind == .text && d.name == slotName) =
      (n.firstBelow? fun d => d.kind == .text && d.name == slotName).map (rename r) :=
    n.firstBelow?_rename r fun m => by simp
  rw [slot, slot, slot?, slot?, hfound, Option.map_map]
  congr 2
  funext m
  simp [TextAttributes.rename]

private theorem segmentLabels_rename : (n.rename r).segmentLabels = n.segmentLabels := by
  rw [segmentLabels, segmentLabels, rename_children, List.map_map]
  exact List.map_congr_left fun c _ => c.slot_rename r "Button"

private theorem itemName_rename : (n.rename r).itemName = n.itemName := by
  rw [itemName.eq_def, itemName.eq_def]
  cases h : n.children with
  | nil => simp [h]
  | cons c cs =>
    cases h' : c.children <;> simp [h, h']

private theorem isOn_rename (fragment : String) : (n.rename r).isOn fragment = n.isOn fragment := by
  rw [isOn, isOn, propertyMentioning?, propertyMentioning?, rename_properties]

private theorem axis_rename : (n.rename r).axis = n.axis := by
  rw [axis, axis, isFrame, isFrame, rename_kind, rename_layout]

private theorem rowPosition_rename (parent : Option Node) :
    (n.rename r).rowPosition (parent.map (rename r)) = n.rowPosition parent := by
  cases parent with
  | none => rfl
  | some p =>
    have hids : (p.rename r).children.map (·.id) = p.children.map (r.ofNode ·.id) := by
      rw [rename_children, List.map_map]
      exact List.map_congr_left fun c _ => c.rename_id r
    exact rowPosition_congr r.ofNode_injective (n.rename_id r)
      (by rw [rename_text, TextAttributes.rename]) (p.axis_rename r) hids

end Node

namespace Snapshot

variable (r : Renaming) (s : Snapshot)

@[simp] theorem rename_node : (s.rename r).node = s.node.rename r := by cases s; rfl
@[simp] theorem rename_component : (s.rename r).component = s.component := by cases s; rfl
@[simp] theorem rename_swaps : (s.rename r).swaps = s.swaps := by cases s; rfl

@[simp] theorem name_rename : (s.rename r).name = s.name := by
  rw [name, name, rename_node, Node.rename_name]

theorem rename_with_children (cs : List Snapshot) :
    ({ s with children := cs } : Snapshot).rename r =
      { s.rename r with children := cs.map (rename r) } := by
  have hall (cs : List Snapshot) : renameSnapshots r cs = cs.map (rename r) := by
    induction cs with
    | nil => rfl
    | cons c cs ih => rw [renameSnapshots, ih, List.map_cons]
  rw [rename, hall]
  cases s
  rfl

private theorem rename_children : (s.rename r).children = s.children.map (rename r) := by
  have h := congrArg children (s.rename_with_children r s.children)
  cases s
  exact h

private theorem shownChildren_rename (config : Config) :
    (s.rename r).shownChildren config = (s.shownChildren config).map (rename r) := by
  have hname : (fun c => !config.omits (name c)) ∘ rename r = fun c => !config.omits c.name :=
    funext fun c => by rw [Function.comp_apply, name_rename]
  rw [shownChildren, shownChildren, rename_children, List.filter_map, hname]

private theorem alike_rename (parent : Option Node) :
    s.Alike parent (parent.map (Node.rename r)) (s.rename r) where
  kind := by simp
  layout := by simp
  fills := by simp
  characters := by simp [TextAttributes.rename]
  opacity := by simp [TextAttributes.rename]
  fillStyle := by cases s; rfl
  cornerStyle := by cases s; rfl
  textStyle := by cases s; rfl
  fillVariable := by cases s; rfl
  position := by rw [rename_node, Node.rowPosition_rename]
  place := by cases parent <;> simp

end Snapshot

namespace Widget

variable (r : Renaming) (s : Snapshot)

private theorem rowItem_rename : rowItem (s.rename r) = rowItem s := by
  have hfound : (s.node.rename r).firstBelow? (·.name == "Leading Item") =
      (s.node.firstBelow? (·.name == "Leading Item")).map (Node.rename r) :=
    s.node.firstBelow?_rename r fun m => by simp
  rw [rowItem.eq_def, rowItem.eq_def, Snapshot.rename_node, hfound]
  cases s.node.firstBelow? (·.name == "Leading Item") with
  | none => rfl
  | some item => simp [Node.itemName_rename]

private theorem fillColor_rename : (s.rename r).fillColor = s.fillColor :=
  (s.alike_rename r none).fillColor_eq

private theorem buttonIcon_rename (switch swap argument : String) :
    buttonIcon (s.rename r) switch swap argument = buttonIcon s switch swap argument := by
  rw [buttonIcon, buttonIcon, Snapshot.rename_node, Node.isOn_rename, Snapshot.swapMentioning?,
    Snapshot.rename_swaps]
  rfl

private theorem button_rename (parent : Option Node) :
    button (s.rename r) (parent.map (Node.rename r)) = button s parent := by
  have hwidth : (s.node.rename r).spansWidth (parent.map (Node.rename r)) =
      s.node.spansWidth parent :=
    Node.spansWidth_congr (s.node.rename_layout r) (s.alike_rename r parent).place
  have hstyle : buttonStyle (s.rename r) = buttonStyle s := by
    rw [buttonStyle, buttonStyle, Snapshot.rename_node, Node.rename_properties]
  simp only [button, Snapshot.name_rename, Snapshot.rename_node, hwidth, hstyle, buttonIcon_rename,
    fillColor_rename, Node.slot_rename]

private theorem inputField_rename (binding : String) :
    inputField (s.rename r) binding = inputField s binding := by
  have hicon (start : String) : fieldIcon (s.rename r) start = fieldIcon s start := by
    rw [fieldIcon, fieldIcon, fieldIcon?, fieldIcon?, Snapshot.rename_node, Snapshot.swapStarting?,
      Snapshot.rename_swaps, Node.propertyStarting?, Node.rename_properties]
    rfl
  simp only [inputField, Snapshot.rename_node, Node.slot_rename, Node.isOn_rename, hicon]

private theorem fieldBinding_rename (state : ModelState) :
    fieldBinding (s.rename r) state = fieldBinding s state := by
  rw [fieldBinding, fieldBinding, Snapshot.rename_node, Node.slot_rename]

private theorem listRow_rename : listRow (s.rename r) = listRow s := by
  rw [listRow, listRow, rowItem_rename]
  simp only [rowTexts, Snapshot.rename_node, Node.slot_rename]

private theorem icon_rename : icon (s.rename r) = icon s := by
  rw [icon.eq_def, icon.eq_def, Snapshot.rename_node, Node.rename_children, Snapshot.name_rename]
  cases s.node.children with
  | nil => rfl
  | cons c cs => simp

private theorem badge_rename : badge (s.rename r) = badge s := by
  have hlabel : (s.rename r).node.slot "Badge label" = s.node.slot "Badge label" := by
    rw [Snapshot.rename_node, Node.slot_rename]
  unfold badge
  rw [hlabel]

private theorem checkbox_rename : checkbox (s.rename r) = checkbox s := by
  have hlabel : (s.rename r).node.slot "Label" = s.node.slot "Label" := by
    rw [Snapshot.rename_node, Node.slot_rename]
  unfold checkbox
  rw [hlabel]

private theorem fragment_rename (kind : ComponentKind) (parent : Option Node) (state : ModelState) :
    fragment kind (s.rename r) (parent.map (Node.rename r)) state =
      fragment kind s parent state := by
  cases kind with
  | listRow => exact listRow_rename r s
  | button => exact congrArg Except.ok (button_rename r s parent)
  | badge => exact congrArg Except.ok (badge_rename r s)
  | segmentedControl => simp only [fragment, segmentedControl, fillColor_rename]
  | inputField => simp only [fragment, fieldBinding_rename, inputField_rename]
  | checkbox => exact congrArg Except.ok (checkbox_rename r s)
  | icon => exact icon_rename r s
  | image => simp only [fragment, Snapshot.name_rename]
  | divider => rfl
  | leadingItem | trailingItem =>
    simp only [fragment, itemIcon, Snapshot.rename_node, Node.itemName_rename]
  | container => simp only [fragment, Snapshot.name_rename]

private theorem record_rename (kind : ComponentKind) (state : ModelState) :
    record kind (s.rename r) state = record kind s state := by
  cases kind with
  | segmentedControl => simp only [record, Snapshot.rename_node, Node.segmentLabels_rename]
  | inputField => simp only [record, fieldBinding_rename]
  | _ => rfl

end Widget

/-- A node and its renaming below the renamed parent. -/
theorem Snapshot.likens_rename (r : Renaming) (config : Config) :
    Composition.Likens config fun parent s other t =>
      other = parent.map (Node.rename r) ∧ t = s.rename r where
  kind := by
    rintro parent s other t ⟨-, rfl⟩
    simp
  name := by
    rintro parent s other t ⟨-, rfl⟩
    exact s.name_rename r
  alike := by
    rintro parent s other t ⟨rfl, rfl⟩ -
    exact s.alike_rename r parent
  frame := by
    rintro parent s other t ⟨-, rfl⟩ - -
    rw [shownChildren_rename, List.forall₂_map_right_iff, List.forall₂_same]
    exact fun c _ => ⟨by rw [rename_node]; rfl, rfl⟩
  group := by
    rintro parent s other t ⟨-, rfl⟩ -
    rw [rename_children, List.forall₂_map_right_iff, List.forall₂_same]
    exact fun c _ => ⟨by rw [rename_node]; rfl, rfl⟩
  widget := by
    rintro parent s other t ⟨rfl, rfl⟩ -
    refine ⟨?_, fun kind state => ⟨?_, ?_⟩⟩
    · rw [widgetKind, widgetKind, name_rename, rename_component]
    · exact Widget.fragment_rename r s kind parent state
    · exact Widget.record_rename r s kind state

theorem Composer.compose_rename (r : Renaming) (c : Composer) (s : Snapshot) :
    c.compose (s.rename r) = c.compose s :=
  compose_congr (Snapshot.likens_rename r c.config) ⟨rfl, rfl⟩

end Mockup
