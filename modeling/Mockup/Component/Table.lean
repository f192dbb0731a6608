import Mockup.Component.Identity
import Mockup.Json.Record
import Mockup.OrderedMap

/-!
# Component kinds and their table

The table says which kind of widget a component is. A plain namespace is one kind; a compound
namespace has a table of its own for the local ids, and what is not in it is a container.
-/

namespace Mockup

inductive ComponentKind where
  | button
  | badge
  | segmentedControl
  | inputField
  | checkbox
  | icon
  | image
  | divider
  | leadingItem
  | trailingItem
  | listRow
  | container
deriving DecidableEq, Repr

namespace ComponentKind

def all : List ComponentKind :=
  [button, badge, segmentedControl, inputField, checkbox, icon, image, divider, leadingItem,
    trailingItem, listRow, container]

def name : ComponentKind → String
  | button => "Button"
  | badge => "Badge"
  | segmentedControl => "SegmentedControl"
  | inputField => "InputField"
  | checkbox => "Checkbox"
  | icon => "Icon"
  | image => "Image"
  | divider => "Divider"
  | leadingItem => "LeadingItem"
  | trailingItem => "TrailingItem"
  | listRow => "ListRow"
  | container => "Container"

instance : Json.Named ComponentKind := ⟨all, name⟩

def recordsState : ComponentKind → Bool
  | segmentedControl | inputField | checkbox => true
  | _ => false

end ComponentKind

structure ComponentTable where
  /-- The kinds of plain namespaces. -/
  families : OrderedMap String ComponentKind
  /-- The kinds of local ids in compound namespaces. -/
  localKinds : OrderedMap String (OrderedMap String ComponentKind)

namespace ComponentTable

def empty : ComponentTable :=
  ⟨.empty, .empty⟩

def setFamily (t : ComponentTable) (family : String) (kind : ComponentKind) : ComponentTable :=
  { t with families := t.families.insert family kind }

def setLocal (t : ComponentTable) (family localId : String) (kind : ComponentKind) :
    ComponentTable :=
  let locals := (t.localKinds.get? family).getD .empty
  { t with localKinds := t.localKinds.insert family (locals.insert localId kind) }

/-- The kind of a component. A compound namespace hides the plain one of the same name. -/
def lookup (t : ComponentTable) (i : Identity) : ComponentKind :=
  match t.localKinds.get? i.family with
  | some locals => (locals.get? i.localId).getD .container
  | none => (t.families.get? i.family).getD .container

/-- The namespace of dividers and list items. -/
def structureFamily : String := "171"

def iconFamily : String := "104"

def standard : ComponentTable :=
  empty
    |>.setFamily "119" .button
    |>.setFamily "159" .button
    |>.setFamily "152" .badge
    |>.setFamily "161" .segmentedControl
    |>.setFamily "125" .inputField
    |>.setFamily "153" .checkbox
    |>.setFamily "17" .image
    |>.setFamily "352" .image
    |>.setLocal structureFamily "3064" .divider
    |>.setLocal structureFamily "3684" .leadingItem
    |>.setLocal structureFamily "3676" .leadingItem
    |>.setLocal structureFamily "3693" .trailingItem
    |>.setLocal iconFamily "925" .icon

open Json (Value)

def encodeKinds (kinds : OrderedMap String ComponentKind) : Value :=
  .object (kinds.entries.map fun entry => (entry.1, .string entry.2.name))

def encode (t : ComponentTable) : Value :=
  .object [
    ("namespaces", encodeKinds t.families),
    ("compound", .object (t.localKinds.entries.map fun entry => (entry.1, encodeKinds entry.2)))]

structure Slots where
  families : Option (OrderedMap String ComponentKind) := none
  localKinds : Option (OrderedMap String (OrderedMap String ComponentKind)) := none

/-- A table in which each missing part is that of the standard table. -/
def record : Json.Record Slots ComponentTable where
  start := {}
  names := ["namespaces", "compound"]
  member slots name v :=
    match name with
    | "namespaces" =>
      some ((Json.fill name slots.families (Json.decodeMap Json.decodeNamed) v).map
        ({ slots with families := · }))
    | "compound" =>
      let decode := Json.decodeMap (Json.decodeMap Json.decodeNamed)
      some ((Json.fill name slots.localKinds decode v).map ({ slots with localKinds := · }))
    | _ => none
  finish slots :=
    .ok ⟨slots.families.getD standard.families, slots.localKinds.getD standard.localKinds⟩

end ComponentTable
end Mockup
