import Mockup.Node.Basic
import Mockup.Json.Record

/-!
# Nodes from JSON

A node is an object whose members come in any order. The attributes of layout and of text are
collected while the other members are decoded, and decoded after them.
-/

namespace Mockup

open Json

structure RgbSlots where
  r : Option Float := none
  g : Option Float := none
  b : Option Float := none

def rgbRecord : Record RgbSlots Rgb where
  start := {}
  names := ["r", "g", "b"]
  member slots name v :=
    match name with
    | "r" => some ((fill "r" slots.r decodeFloat v).map ({ slots with r := · }))
    | "g" => some ((fill "g" slots.g decodeFloat v).map ({ slots with g := · }))
    | "b" => some ((fill "b" slots.b decodeFloat v).map ({ slots with b := · }))
    | _ => none
  finish slots := do
    return ⟨← require "r" slots.r, ← require "g" slots.g, ← require "b" slots.b⟩

structure PaintSlots where
  kind : Option PaintKind := none
  color : Option (Option Rgb) := none

def readPaintKind (s : String) : Except DecodeError PaintKind :=
  .ok (PaintKind.ofName s)

/-- Paints, given how their kinds and colours are decoded. -/
def paintRecordBy (decodeKind : Value → Except DecodeError PaintKind)
    (decodeColor : Value → Except DecodeError Rgb) : Record PaintSlots Paint where
  start := {}
  names := ["type", "color"]
  member slots name v :=
    match name with
    | "type" => some ((fill "type" slots.kind decodeKind v).map ({ slots with kind := · }))
    | "color" =>
      some ((fill "color" slots.color (decodeOptional decodeColor) v).map
        ({ slots with color := · }))
    | _ => none
  finish slots := do
    return ⟨← require "type" slots.kind, slots.color.getD none⟩

def paintRecord : Record PaintSlots Paint :=
  paintRecordBy (decodeNamedBy readPaintKind) rgbRecord.decode

def decodePaintWhole : Value → Except DecodeError Paint :=
  (paintRecordBy (decodeNamedWholeBy Value.isNull readPaintKind) rgbRecord.decodeWhole).decodeWhole

def decodePropertyValue (v : Value) : Except DecodeError PropertyValue := do
  v.whole
  match v with
  | .bool b => return .bool b
  | .string s => return .string s
  | _ => throw .noPropertyValue

structure PropertySlots where
  kind : Option PropertyKind := none
  value : Option PropertyValue := none

def propertyRecord : Record PropertySlots Property where
  start := {}
  names := ["type", "value"]
  member slots name v :=
    match name with
    | "type" => some ((fill "type" slots.kind decodeNamed v).map ({ slots with kind := · }))
    | "value" =>
      some ((fill "value" slots.value decodePropertyValue v).map ({ slots with value := · }))
    | _ => none
  finish slots := do
    return ⟨← require "type" slots.kind, ← require "value" slots.value⟩

structure ConstraintsSlots where
  horizontal : Option Constraint := none
  vertical : Option Constraint := none

def constraintsRecord : Record ConstraintsSlots Constraints where
  start := {}
  names := ["horizontal", "vertical"]
  member slots name v :=
    match name with
    | "horizontal" =>
      some ((fill "horizontal" slots.horizontal decodeNamedCollected v).map
        ({ slots with horizontal := · }))
    | "vertical" =>
      some ((fill "vertical" slots.vertical decodeNamedCollected v).map
        ({ slots with vertical := · }))
    | _ => none
  finish slots := do
    return ⟨← require "horizontal" slots.horizontal, ← require "vertical" slots.vertical⟩

structure LayoutSlots where
  mode : Option LayoutMode := none
  itemSpacing : Option Float := none
  paddingLeft : Option Float := none
  paddingRight : Option Float := none
  paddingTop : Option Float := none
  paddingBottom : Option Float := none
  distribution : Option Distribution := none
  align : Option CrossAlign := none
  constraints : Option (Option Constraints) := none
  cornerRadius : Option (Option Float) := none

def LayoutSlots.write (slots : LayoutSlots) (name : String) (v : Value) :
    Except DecodeError LayoutSlots :=
  match name with
  | "layoutMode" =>
    (fill name slots.mode decodeNamedCollected v).map ({ slots with mode := · })
  | "itemSpacing" =>
    (fill name slots.itemSpacing decodeFloat v).map ({ slots with itemSpacing := · })
  | "paddingLeft" =>
    (fill name slots.paddingLeft decodeFloat v).map ({ slots with paddingLeft := · })
  | "paddingRight" =>
    (fill name slots.paddingRight decodeFloat v).map ({ slots with paddingRight := · })
  | "paddingTop" => (fill name slots.paddingTop decodeFloat v).map ({ slots with paddingTop := · })
  | "paddingBottom" =>
    (fill name slots.paddingBottom decodeFloat v).map ({ slots with paddingBottom := · })
  | "primaryAxisAlignItems" =>
    (fill name slots.distribution decodeNamedCollected v).map ({ slots with distribution := · })
  | "layoutAlign" =>
    (fill name slots.align decodeNamedCollected v).map ({ slots with align := · })
  | "constraints" =>
    (fill name slots.constraints (decodeOptional constraintsRecord.decodeWhole) v).map
      ({ slots with constraints := · })
  | "cornerRadius" =>
    (fill name slots.cornerRadius (decodeOptional decodeFloat) v).map
      ({ slots with cornerRadius := · })
  | _ => .ok slots

def LayoutSlots.attributes (slots : LayoutSlots) : LayoutAttributes where
  mode := slots.mode.getD .none
  itemSpacing := slots.itemSpacing.getD 0
  padding := {
    top := slots.paddingTop.getD 0
    right := slots.paddingRight.getD 0
    bottom := slots.paddingBottom.getD 0
    left := slots.paddingLeft.getD 0 }
  distribution := slots.distribution.getD .min
  align := slots.align.getD .inherit
  constraints := slots.constraints.getD none
  cornerRadius := slots.cornerRadius.getD none

def decodeLayoutAttributes (members : List (String × Value)) :
    Except DecodeError LayoutAttributes :=
  (members.foldlM (fun slots member => LayoutSlots.write slots member.1 member.2) {}).map
    LayoutSlots.attributes

structure TextSlots where
  characters : Option String := none
  opacity : Option Float := none
  style : Option (Option StyleId) := none
  align : Option TextAlign := none
  boundFill : Option (Option VariableId) := none

def decodeStyleId (v : Value) : Except DecodeError StyleId :=
  (decodeString v).map StyleId.mk

def decodeVariableId (v : Value) : Except DecodeError VariableId :=
  (decodeString v).map VariableId.mk

def TextSlots.write (slots : TextSlots) (name : String) (v : Value) :
    Except DecodeError TextSlots :=
  match name with
  | "characters" =>
    (fill name slots.characters decodeString v).map ({ slots with characters := · })
  | "opacity" => (fill name slots.opacity decodeFloat v).map ({ slots with opacity := · })
  | "textStyleId" =>
    (fill name slots.style (decodeOptional decodeStyleId) v).map ({ slots with style := · })
  | "textAlignHorizontal" =>
    (fill name slots.align decodeNamedCollected v).map ({ slots with align := · })
  | "boundFillVariable" =>
    (fill name slots.boundFill (decodeOptional decodeVariableId) v).map
      ({ slots with boundFill := · })
  | _ => .ok slots

def TextSlots.attributes (slots : TextSlots) : TextAttributes where
  characters := slots.characters.getD ""
  opacity := slots.opacity.getD 1
  style := slots.style.getD none
  align := slots.align.getD .left
  boundFill := slots.boundFill.getD none

def decodeTextAttributes (members : List (String × Value)) : Except DecodeError TextAttributes :=
  (members.foldlM (fun slots member => TextSlots.write slots member.1 member.2) {}).map
    TextSlots.attributes

structure NodeSlots where
  id : Option String := none
  kind : Option String := none
  name : Option String := none
  children : Option (List Node) := none
  fills : Option (List Paint) := none
  fillStyle : Option (Option StyleId) := none
  cornerStyle : Option (Option StyleId) := none
  properties : Option (OrderedMap String Property) := none
  /-- All other members, from last to first. -/
  collected : List (String × Value) := []

/-- A member other than the children. -/
def NodeSlots.write (slots : NodeSlots) (name : String) (v : Value) :
    Except DecodeError NodeSlots :=
  match name with
  | "id" => (fill name slots.id decodeString v).map ({ slots with id := · })
  | "type" => (fill name slots.kind decodeString v).map ({ slots with kind := · })
  | "name" => (fill name slots.name decodeString v).map ({ slots with name := · })
  | "fills" =>
    (fill name slots.fills (decodeList paintRecord.decode) v).map ({ slots with fills := · })
  | "fillStyleId" =>
    (fill name slots.fillStyle (decodeOptional decodeStyleId) v).map
      ({ slots with fillStyle := · })
  | "cornerStyleId" =>
    (fill name slots.cornerStyle (decodeOptional decodeStyleId) v).map
      ({ slots with cornerStyle := · })
  | "componentProperties" =>
    (fill name slots.properties (decodeMap propertyRecord.decode) v).map
      ({ slots with properties := · })
  | _ => v.whole.map fun _ => { slots with collected := (name, v) :: slots.collected }

def NodeSlots.node (slots : NodeSlots) : Except DecodeError Node := do
  let id ← require "id" slots.id
  let kind ← require "type" slots.kind
  let layout ← decodeLayoutAttributes slots.collected.reverse
  let text ← decodeTextAttributes slots.collected.reverse
  return {
    id := ⟨id⟩
    kind := .ofName kind
    name := slots.name.getD ""
    children := slots.children.getD []
    layout
    fills := slots.fills.getD []
    fillStyle := slots.fillStyle.getD none
    cornerStyle := slots.cornerStyle.getD none
    text
    properties := slots.properties.getD .empty }

mutual

def Node.decode : Value → Except DecodeError Node
  | .object members => do
    let slots ← decodeNodeMembers {} members
    slots.node
  | v => .error (v.misfit { object := true })

def decodeNodeMembers (slots : NodeSlots) : List (String × Value) → Except DecodeError NodeSlots
  | [] => .ok slots
  | (name, v) :: rest => do
    let slots ←
      if name = "children" then
        match slots.children with
        | some _ => .error (.duplicateField name)
        | none => (decodeChildren v).map fun children => { slots with children := some children }
      else
        slots.write name v
    decodeNodeMembers slots rest

def decodeChildren : Value → Except DecodeError (List Node)
  | .array items => decodeNodes items
  | v => .error (v.misfit { list := true })

def decodeNodes : List Value → Except DecodeError (List Node)
  | [] => .ok []
  | v :: rest => do
    let n ← Node.decode v
    return n :: (← decodeNodes rest)

end

end Mockup
