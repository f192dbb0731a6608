import Mockup.Lookup.Source
import Mockup.Snapshot.Basic

/-!
# Resolving references

A snapshot comes from putting every reference of a design to a source. What is asked is recorded,
in order and with the node that asks.
-/

namespace Mockup

structure Question where
  /-- Name of the node that asks. -/
  asker : String
  reference : Reference
deriving DecidableEq, Repr

/-- A result with the questions that led to it, up to the one that failed if one did. -/
structure Inquiry (α : Type) where
  asked : List Question
  result : Except SourceFault α

namespace Inquiry

variable {α β : Type}

def bind (q : Inquiry α) (next : α → Inquiry β) : Inquiry β :=
  match q.result with
  | .error fault => ⟨q.asked, .error fault⟩
  | .ok a => ⟨q.asked ++ (next a).asked, (next a).result⟩

instance : Monad Inquiry where
  pure a := ⟨[], .ok a⟩
  bind := bind

def ask (asker : Node) (reference : Reference) (answer : Answer α) : Inquiry (Option α) :=
  ⟨[⟨asker.name, reference⟩], answer⟩

/-- The results of several inquiries of which each waits for the one before it: the first failure
is the last thing that happens. -/
def inTurn : List (Inquiry α) → Inquiry (List α)
  | [] => pure []
  | q :: rest => do return (← q) :: (← inTurn rest)

/-- The results of several inquiries that do not wait for each other: all are made, and the first
failure among them counts. -/
def together (qs : List (Inquiry α)) : Inquiry (List α) :=
  ⟨qs.flatMap (·.asked), qs.mapM (·.result)⟩

end Inquiry

namespace Node

def askComponent (source : Source) (asker : Node) : Inquiry (Option Component) :=
  if asker.kind = .componentInstance then
    .ask asker (.mainComponent asker.id) (source.mainComponent asker.id)
  else
    pure none

def askStyle (source : Source) (asker : Node) : Option StyleId → Inquiry (Option String)
  | none => pure none
  | some id => .ask asker (.style id) (source.style id)

def askVariable (source : Source) (asker : Node) : Inquiry (Option String) :=
  match asker.text.boundFill with
  | none => pure none
  | some id => .ask asker (.boundVariable id) (source.boundVariable id)

/-- Adds the name of the component that a property swaps in, where it is known. -/
def askSwap (source : Source) (asker : Node) (swaps : OrderedMap String String)
    (property : String × Property) : Inquiry (OrderedMap String String) :=
  match property.2.kind, property.2.value with
  | .instanceSwap, .string id => do
    match ← Inquiry.ask asker (.component id) (source.component id) with
    | some component => return swaps.insert property.1 component.name
    | none => return swaps
  | _, _ => return swaps

def askSwaps (source : Source) (asker : Node) : Inquiry (OrderedMap String String) :=
  if asker.kind = .componentInstance then
    asker.properties.entries.foldlM (asker.askSwap source) .empty
  else
    pure .empty

/-- The snapshot of a node without its children. -/
def resolveSelf (source : Source) (n : Node) : Inquiry Snapshot := do
  let component ← n.askComponent source
  let swaps ← n.askSwaps source
  let fillStyle ← n.askStyle source n.fillStyle
  let cornerStyle ← n.askStyle source n.cornerStyle
  let textStyle ← n.askStyle source n.text.style
  let fillVariable ← n.askVariable source
  return { node := n, component, fillStyle, cornerStyle, textStyle, fillVariable, swaps }

/-- The snapshots of the children of a node. The children of a group do not wait for each other,
all others do, and those of an instance are left alone. -/
def gather (kind : NodeKind) (children : List (Inquiry Snapshot)) : Inquiry (List Snapshot) :=
  match kind with
  | .componentInstance => pure []
  | .group => .together children
  | _ => .inTurn children

mutual

def resolve (source : Source) : Node → Inquiry Snapshot
  | n@⟨_, kind, _, children, _, _, _, _, _, _⟩ => do
    let s ← n.resolveSelf source
    return { s with children := ← gather kind (resolveEach source children) }

def resolveEach (source : Source) : List Node → List (Inquiry Snapshot)
  | [] => []
  | n :: rest => n.resolve source :: resolveEach source rest

end

end Node
end Mockup
