import Mockup.Artifact
import Mockup.Document
import Mockup.Snapshot.Resolve
import Mockup.View.Composition
import Mockup.View.File

/-!
# Generation

From a node and a source to the two files of a view, or to a diagnostic when that fails.
-/

namespace Mockup

/-- A reference that leads nowhere is only warned about. -/
def Question.warning? (source : Source) (q : Question) : Option LogRecord :=
  let missing {α : Type} (answer : Answer α) (message : String) : Option LogRecord :=
    match answer with
    | .ok none => some ⟨.warn, message⟩
    | _ => none
  match q.reference with
  | .mainComponent node =>
    missing (source.mainComponent node)
      ("instance '" ++ q.asker ++ "' (" ++ node.text ++ ") has no main component")
  | .component id =>
    missing (source.component id)
      ("swap target '" ++ id ++ "' of '" ++ q.asker ++ "' is unresolved")
  | .style id => missing (source.style id) ("style '" ++ id.text ++ "' is unresolved")
  | .boundVariable id =>
    missing (source.boundVariable id)
      ("variable '" ++ id.text ++ "' bound on '" ++ q.asker ++ "' is unresolved")

inductive GenerationFault where
  | source (fault : SourceFault)
  | widget (fault : WidgetFault)
  | template (fault : Template.Fault)
deriving DecidableEq, Repr

def GenerationFault.message : GenerationFault → String
  | source fault => fault.message
  | widget fault => fault.message
  | template .malformed => "Invalid template"
  | template (.unknownTemplate name) => "Template error: no template '" ++ name ++ "'"
  | template (.unknownHelper name) => "Template error: no helper '" ++ name ++ "'"
  | template (.missingOperand helper) => "Template error: no operand for '" ++ helper ++ "'"
  | template (.wrongOperand helper) => "Template error: wrong operand for '" ++ helper ++ "'"
  | template (.noPosition name) => "Template error: no position '" ++ name ++ "' in a list"

inductive Generation where
  | generated (view viewModel : Artifact) (state : ModelState)
  | failed (diagnostic : Artifact)

namespace Generation

def hasFailed : Generation → Bool
  | generated .. => false
  | failed _ => true

/-- The view comes first. -/
def artifacts : Generation → List Artifact
  | generated view viewModel _ => [view, viewModel]
  | failed diagnostic => [diagnostic]

def nothingSelected : String := "No valid node selected."

def aborted : String := "Error generating SwiftUI code."

def assemble (root : Node) (config : Config) (body : String) (state : ModelState) :
    Except Template.Fault Generation := do
  let typeName := Text.compactName root.name
  return .generated
    (.swift (typeName ++ "View.swift") (← viewFile typeName root.name body config))
    (.swift (typeName ++ "ViewModel.swift") (← modelFile typeName root.name state))
    state

/-- The generation for a node, with all that is logged on the way. -/
def attempt (source : Source) (root : Node) (config : Config) :
    List LogRecord × Except GenerationFault Generation :=
  let inquiry := root.resolve source
  let warnings := inquiry.asked.filterMap (·.warning? source)
  match inquiry.result with
  | .error fault => (warnings, .error (.source fault))
  | .ok snapshot =>
    let (body, progress) := Composer.run { config } snapshot
    let log := warnings ++ progress.events.toList.map Event.record
    match body with
    | .error fault => (log, .error (.widget fault))
    | .ok body => (log, (assemble root config body progress.state).mapError .template)

/-- A generation never fails without a diagnostic. -/
def runLogged (source : Source) (root : Option Node) (config : Config) :
    List LogRecord × Generation :=
  match root with
  | none =>
    ([⟨.error, "Generation requested without a node"⟩], .failed (.diagnostic nothingSelected))
  | some root =>
    let start : LogRecord := ⟨.info, "Generating SwiftUI for " ++ root.kind.name ++ " '" ++
      root.name ++ "' (" ++ root.id.text ++ ")"⟩
    match attempt source root config with
    | (log, .ok generation) => (start :: log, generation)
    | (log, .error fault) =>
      (start :: log ++
          [⟨.error, "Generation of '" ++ root.name ++ "' failed: " ++ fault.message⟩],
        .failed (.diagnostic aborted))

def run (source : Source) (root : Option Node) (config : Config) : Generation :=
  (runLogged source root config).2

end Generation
end Mockup
