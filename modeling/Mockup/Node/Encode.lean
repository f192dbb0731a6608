import Mockup.Node.Basic

/-!
# Nodes as JSON

Every field of a node is written, also one that has its default.
-/

namespace Mockup

open Json (Value Named)

/-- JSON has numbers for finite floats only; the others are `null`. -/
def encodeFloat (x : Float) : Value :=
  if x.isFinite then .number (.float x) else .null

def encodeNamed {α : Type} [Named α] (a : α) : Value :=
  .string (Named.name a)

def encodeOptional {α : Type} (encode : α → Value) : Option α → Value
  | some a => encode a
  | none => .null

def encodeMap {α : Type} (encode : α → Value) (m : OrderedMap String α) : Value :=
  .object (m.entries.map fun entry => (entry.1, encode entry.2))

def Rgb.encode (color : Rgb) : Value :=
  .object [("r", encodeFloat color.r), ("g", encodeFloat color.g), ("b", encodeFloat color.b)]

def Paint.encode (paint : Paint) : Value :=
  .object [("type", encodeNamed paint.kind), ("color", encodeOptional Rgb.encode paint.color)]

def Constraints.encode (c : Constraints) : Value :=
  .object [("horizontal", encodeNamed c.horizontal), ("vertical", encodeNamed c.vertical)]

def PropertyValue.encode : PropertyValue → Value
  | bool b => .bool b
  | string s => .string s

def Property.encode (p : Property) : Value :=
  .object [("type", encodeNamed p.kind), ("value", p.value.encode)]

def LayoutAttributes.encode (layout : LayoutAttributes) : List (String × Value) := [
  ("layoutMode", encodeNamed layout.mode),
  ("itemSpacing", encodeFloat layout.itemSpacing),
  ("paddingLeft", encodeFloat layout.padding.left),
  ("paddingRight", encodeFloat layout.padding.right),
  ("paddingTop", encodeFloat layout.padding.top),
  ("paddingBottom", encodeFloat layout.padding.bottom),
  ("primaryAxisAlignItems", encodeNamed layout.distribution),
  ("layoutAlign", encodeNamed layout.align),
  ("constraints", encodeOptional Constraints.encode layout.constraints),
  ("cornerRadius", encodeOptional encodeFloat layout.cornerRadius)]

def TextAttributes.encode (text : TextAttributes) : List (String × Value) := [
  ("characters", .string text.characters),
  ("opacity", encodeFloat text.opacity),
  ("textStyleId", encodeOptional (.string ·.text) text.style),
  ("textAlignHorizontal", encodeNamed text.align),
  ("boundFillVariable", encodeOptional (.string ·.text) text.boundFill)]

mutual

def Node.encode : Node → Value
  | ⟨id, kind, name, children, layout, fills, fillStyle, cornerStyle, text, properties⟩ =>
    .object ([
      ("id", .string id.text),
      ("type", .string kind.name),
      ("name", .string name),
      ("children", .array (encodeNodes children))] ++
      layout.encode ++ [
      ("fills", .array (fills.map Paint.encode)),
      ("fillStyleId", encodeOptional (.string ·.text) fillStyle),
      ("cornerStyleId", encodeOptional (.string ·.text) cornerStyle)] ++
      text.encode ++ [
      ("componentProperties", encodeMap Property.encode properties)])

def encodeNodes : List Node → List Value
  | [] => []
  | n :: rest => n.encode :: encodeNodes rest

end

end Mockup
