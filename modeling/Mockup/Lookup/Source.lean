import Mockup.Component.Identity
import Mockup.Node.Kind

/-!
# References and their sources

A design refers to things that live outside it: main components of instances, components to swap
in, shared styles and variables. A source answers each reference.
-/

namespace Mockup

inductive Reference where
  | mainComponent (node : NodeId)
  | component (id : String)
  | style (id : StyleId)
  | boundVariable (id : VariableId)
deriving DecidableEq, Repr

namespace Reference

def kindName : Reference → String
  | mainComponent _ => "main component"
  | component _ => "component"
  | style _ => "style"
  | boundVariable _ => "variable"

def idText : Reference → String
  | mainComponent node => node.text
  | component id => id
  | style id => id.text
  | boundVariable id => id.text

end Reference

/-- Failures of a source. That a reference leads nowhere is none of them. -/
inductive SourceFault where
  | lookup (kind id reason : String)
  | invalidComponentId (id : String)
deriving DecidableEq, Repr

def SourceFault.message : SourceFault → String
  | lookup kind id reason => "Lookup of " ++ kind ++ " '" ++ id ++ "' failed: " ++ reason
  | invalidComponentId id => "Invalid component id '" ++ id ++ "': expected 'namespace:local'"

/-- The identity of a component id, or the fault that it has none. -/
def Identity.parse (id : String) : Except SourceFault Identity :=
  match ofText? id with
  | some i => .ok i
  | none => .error (.invalidComponentId id)

/-- What a source says to a reference: what it leads to, that it leads nowhere, or a fault. -/
abbrev Answer (α : Type) := Except SourceFault (Option α)

/-- A source of answers. A style and a variable are known by their names. -/
structure Source where
  mainComponent : NodeId → Answer Component
  component : String → Answer Component
  style : StyleId → Answer String
  boundVariable : VariableId → Answer String

namespace Source

def failingAt (s : Source) (fault? : Reference → Option SourceFault) : Source where
  mainComponent node := match fault? (.mainComponent node) with
    | some f => .error f
    | none => s.mainComponent node
  component id := match fault? (.component id) with
    | some f => .error f
    | none => s.component id
  style id := match fault? (.style id) with
    | some f => .error f
    | none => s.style id
  boundVariable id := match fault? (.boundVariable id) with
    | some f => .error f
    | none => s.boundVariable id

end Source
end Mockup
