import Mockup.Layout.Arrangement
import Mockup.Snapshot.Style
import Mockup.Text.Words
import Mockup.View.Fragment
import Mockup.View.Model

/-!
# Widgets

The fragment of an instance for each kind of widget, and what the widget records in the state of
its view. Icons and list items may lack the parts that name their picture.
-/

namespace Mockup

inductive WidgetFault where
  | missingChild (component path : String)
  | missingProperty (component property : String)
deriving DecidableEq, Repr

def WidgetFault.message : WidgetFault → String
  | missingChild component path => "Component '" ++ component ++ "' has no child at " ++ path
  | missingProperty component property =>
    "Missing required property '" ++ property ++ "' on component '" ++ component ++ "'"

namespace Node

/-- Whether the first property whose key contains the fragment is set. -/
def isOn (n : Node) (fragment : String) : Bool :=
  ((n.propertyMentioning? fragment).bind (·.2.value.bool?)).getD false

def itemNames : List (String × String) := [
  ("171:3678", "Radio"),
  ("171:3680", "Checkbox"),
  ("171:3682", "Switch"),
  ("171:3684", "Avatar"),
  ("181:2602", "Progress Circle"),
  ("171:3686", "Image"),
  ("171:3688", "Video")]

/-- The name of the picture that a list item shows. Its type says where the name is found. -/
def itemName (item : Node) : Except WidgetFault String :=
  match item.properties.get? "Type" with
  | none => .error (.missingProperty item.name "Type")
  | some property =>
    match property.value.display with
    | "Button" =>
      match item.children.head?.bind (·.children.head?) with
      | some picture => .ok picture.name
      | none => .error (.missingChild item.name "0/0")
    | "Icon" =>
      match item.children.head? with
      | some picture => .ok picture.name
      | none => .error (.missingChild item.name "0")
    | itemType => .ok ((itemNames.lookup itemType).getD "Unknown Component")

end Node

namespace Widget

def picture (name : String) : String :=
  "Image(veloAsset: ." ++ Text.camelCase name ++ ")"

def rowSlots : List (String × String) := [
  ("Overline", "overline"),
  ("Headline", "headline"),
  ("Supporting Text", "supportingText"),
  ("Meta Data", "metaData")]

/-- The arguments for the filled text slots of a list row. -/
def rowTexts (s : Snapshot) : List String :=
  (rowSlots.filter fun slot => s.node.slot slot.1 ≠ "").map fun slot =>
    slot.2 ++ ": " ++ Text.Quoted.encode (s.node.slot slot.1)

def rowItem (s : Snapshot) : Except WidgetFault (List String) :=
  match s.node.firstBelow? (·.name == "Leading Item") with
  | none => .ok []
  | some item => item.itemName.map fun name =>
    ["leadingItem: .icon(imageName: ." ++ Text.camelCase name ++ ")"]

def listRow (s : Snapshot) : Except WidgetFault String :=
  (rowItem s).map fun item =>
    "ListRow(itemViewModel: " ++
      Fragment.call "RowViewModel" (rowTexts s ++ item ++ ["divider: true"]) ++ ")"

def logo : String := "Logo"

def buttonStyle (s : Snapshot) : String :=
  match s.node.properties.get? "Style" with
  | some property => Text.camelCase property.value.display
  | none => "filledA"

/-- An icon of a button, when it is switched on and known. -/
def buttonIcon (s : Snapshot) (switch swap argument : String) : List String :=
  if s.node.isOn switch then
    match s.swapMentioning? swap with
    | some icon => [argument ++ ": ." ++ Text.camelCase icon]
    | none => []
  else
    []

def button (s : Snapshot) (parent : Option Node) : String :=
  if s.name = logo then "Image(veloAsset: .arrowRightLong)"
  else
    let maxWidth := if s.node.spansWidth parent then ".infinity" else ".none"
    let label := s.node.slot "Button"
    let arguments :=
      (if label = "" then [] else [Text.Quoted.encode label]) ++
      ["background: " ++ s.fillColor, "style: ." ++ buttonStyle s] ++
      buttonIcon s "Content Left" "Icon-Left" "iconLeft" ++
      buttonIcon s "Icon Right" "Icon-Right" "iconRight" ++
      ["isDisabled: false", "maxWidth: " ++ maxWidth, "action: \x7b\x7d"]
    Fragment.call "VeloButton" arguments ++
      "\n.frame(maxWidth: " ++ maxWidth ++ ", alignment: .leading)"

def badge (s : Snapshot) : String :=
  "BadgeView(text: " ++ Text.Quoted.encode (s.node.slot "Badge label") ++
    ", backgroundColor: .infoFocus)"

/-- How a segmented control draws each of its labels. -/
def segmentLines : List String := [
  "Text(item)",
  "    .font(.textRegularSemiBold)",
  "    .frame(maxWidth: .infinity, alignment: .center)",
  "    .foregroundColor(viewModel.selectedSegment == item ? .textNeutral05 : .textNeutral9)",
  "    .padding(.vertical, 10)"]

def segmentedControl (s : Snapshot) : String :=
  Fragment.call "SegmentedPicker" [
      "viewModel.segmentData",
      "selectedItem: $viewModel.selectedSegment",
      "backgroundColor: " ++ s.fillColor] ++
    " \x7b item in\n" ++ Text.indent Fragment.indentWidth ("\n".intercalate segmentLines) ++
    "\n\x7d\n.onChange(of: viewModel.selectedSegment) \x7b _, _ in \x7d"

/-- The binding of a text field: the words of its label, or a fresh one. -/
def fieldBinding (s : Snapshot) (state : ModelState) : String :=
  match Text.camelCase (s.node.slot "Text") with
  | "" => state.freshBinding
  | name => name

/-- The icon of a text field that the first property with such a key switches on or swaps in. -/
def fieldIcon? (s : Snapshot) (start : String) : Option String :=
  (s.node.propertyStarting? start).bind fun (key, property) =>
    match property.kind with
    | .boolean => if property.value = .bool true then s.swapStarting? start else none
    | .instanceSwap => s.swaps.get? key
    | _ => none

def fieldIcon (s : Snapshot) (start : String) : String :=
  match fieldIcon? s start with
  | some icon => picture icon
  | none => "nil"

/-- The left icon must be switched on besides. -/
def inputField (s : Snapshot) (binding : String) : String :=
  let label := Text.Quoted.encode (s.node.slot "Text")
  Fragment.call "CustomTextField" [
    "text: $viewModel." ++ binding,
    "label: " ++ label,
    "placeholder: " ++ label,
    "isEmail: false",
    "iconRight: " ++ fieldIcon s "Icon Right",
    "iconLeft: " ++ (if s.node.isOn "Icon Left" then fieldIcon s "Icon Left" else "nil")]

def checkbox (s : Snapshot) : String :=
  "CheckboxView(isChecked: $viewModel.isChecked, text: " ++
    Text.Quoted.encode (s.node.slot "Label") ++ ")"

def namedIcon (name : String) : String :=
  "Icon(imageName: ." ++ Text.camelCase name ++ ")"

def icon (s : Snapshot) : Except WidgetFault String :=
  match s.node.children.head? with
  | some glyph => .ok (namedIcon glyph.name)
  | none => .error (.missingChild s.name "0")

def itemIcon (s : Snapshot) : Except WidgetFault String :=
  s.node.itemName.map namedIcon

/-- The fragment of an instance as a widget of the given kind. The state is that before the
widget. -/
def fragment (kind : ComponentKind) (s : Snapshot) (parent : Option Node) (state : ModelState) :
    Except WidgetFault String :=
  match kind with
  | .listRow => listRow s
  | .button => .ok (button s parent)
  | .badge => .ok (badge s)
  | .segmentedControl => .ok (segmentedControl s)
  | .inputField => .ok (inputField s (fieldBinding s state))
  | .checkbox => .ok (checkbox s)
  | .icon => icon s
  | .image => .ok (picture s.name)
  | .divider => .ok "Separator().padding(.vertical, .xs)"
  | .leadingItem | .trailingItem => itemIcon s
  | .container => .ok ("Text(" ++ Text.Quoted.encode s.name ++ ")")

def record (kind : ComponentKind) (s : Snapshot) (state : ModelState) : ModelState :=
  match kind with
  | .segmentedControl => state.withSegments s.node.segmentLabels
  | .inputField => state.addBinding (fieldBinding s state)
  | .checkbox => state.withCheckbox
  | _ => state

end Widget
end Mockup
