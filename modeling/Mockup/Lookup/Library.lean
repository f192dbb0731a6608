import Mockup.Lookup.Source
import Mockup.Json.Record
import Mockup.Json.Writer
import Mockup.OrderedMap

/-!
# Libraries

A source that answers from four tables.
-/

namespace Mockup

structure Library where
  instances : OrderedMap NodeId String := .empty
  components : OrderedMap String String := .empty
  styles : OrderedMap StyleId String := .empty
  variableNames : OrderedMap VariableId String := .empty

namespace Library

def addInstance (l : Library) (node : NodeId) (component : String) : Library :=
  { l with instances := l.instances.insert node component }

def addComponent (l : Library) (id name : String) : Library :=
  { l with components := l.components.insert id name }

def addStyle (l : Library) (id : StyleId) (name : String) : Library :=
  { l with styles := l.styles.insert id name }

def addVariable (l : Library) (id : VariableId) (name : String) : Library :=
  { l with variableNames := l.variableNames.insert id name }

/-- The component with an id; its name is empty when the table does not have it. -/
def named (l : Library) (id : String) : Component :=
  ⟨id, (l.components.get? id).getD ""⟩

def source (l : Library) : Source where
  mainComponent node := .ok ((l.instances.get? node).map l.named)
  component id := .ok (if l.components.contains id then some (l.named id) else none)
  style id := .ok (l.styles.get? id)
  boundVariable id := .ok (l.variableNames.get? id)

open Json (Value DecodeError)

def encodeTable {κ : Type} (text : κ → String) (table : OrderedMap κ String) : Value :=
  .object (table.entries.map fun entry => (text entry.1, .string entry.2))

def encode (l : Library) : Value :=
  .object [
    ("instances", encodeTable NodeId.text l.instances),
    ("components", encodeTable id l.components),
    ("styles", encodeTable StyleId.text l.styles),
    ("variables", encodeTable VariableId.text l.variableNames)]

/-- A table from JSON; `key` makes a key of a member's name. -/
def decodeTable {κ : Type} [DecidableEq κ] (key : String → κ) :
    Value → Except DecodeError (OrderedMap κ String)
  | .object members =>
    members.foldlM (fun m member => (Json.decodeString member.2).map (m.insert (key member.1)))
      .empty
  | v => .error (v.misfit { object := true })

structure Slots where
  instances : Option (OrderedMap NodeId String) := none
  components : Option (OrderedMap String String) := none
  styles : Option (OrderedMap StyleId String) := none
  variableNames : Option (OrderedMap VariableId String) := none

def Slots.write (slots : Slots) (name : String) (v : Value) : Except DecodeError Slots :=
  match name with
  | "instances" =>
    (Json.fill name slots.instances (decodeTable NodeId.mk) v).map ({ slots with instances := · })
  | "components" =>
    (Json.fill name slots.components (decodeTable id) v).map ({ slots with components := · })
  | "styles" =>
    (Json.fill name slots.styles (decodeTable StyleId.mk) v).map ({ slots with styles := · })
  | "variables" =>
    (Json.fill name slots.variableNames (decodeTable VariableId.mk) v).map
      ({ slots with variableNames := · })
  | _ => .ok slots

/-- The tables among collected members; a missing one is empty. -/
def ofMembers (members : List (String × Value)) : Except DecodeError Library := do
  let slots ← members.foldlM (fun slots member => Slots.write slots member.1 member.2) {}
  return {
    instances := slots.instances.getD .empty
    components := slots.components.getD .empty
    styles := slots.styles.getD .empty
    variableNames := slots.variableNames.getD .empty }

end Library
end Mockup
