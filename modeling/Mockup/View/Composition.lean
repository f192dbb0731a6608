import Mockup.Config
import Mockup.View.Event
import Mockup.View.Widget

/-!
# Composition of a view

The text of a view is built from a snapshot in one walk, which collects the state of the view as it
goes. The walk enters frames and groups, and stops at the first fault.
-/

namespace Mockup

namespace Snapshot

def textFragment (s : Snapshot) (parent : Option Node) : String :=
  "\n".intercalate (
    ["Text(" ++ Text.Quoted.encode s.node.text.characters ++ ")"] ++
    (if s.fontName = "" then [] else [".font(." ++ s.fontName ++ ")"]) ++
    (if s.boundColor = "" then [] else [".foregroundColor(." ++ s.boundColor ++ ")"]) ++
    [".opacity(" ++ Decimal.designValue s.node.text.opacity ++ ")",
      ".frame(maxWidth: .infinity, alignment: ." ++ (s.node.rowPosition parent).name ++ ")"])

def shapeFragment (shape : String) (s : Snapshot) : String :=
  shape ++ "().fill(" ++ s.fillColor ++ ")"

def stackOpener (axis : Axis) (spacing : String) : String :=
  axis.container ++ "(spacing: " ++ spacing ++ ")"

def groupFragment (name : String) (parts : List String) : String :=
  Fragment.block ("VStack(spacing: .md) /* " ++ name ++ " */") parts

/-- Padding, background and corners of a frame. The root has no padding of its own. -/
def frameModifiers (s : Snapshot) (parent : Option Node) : List String :=
  (if parent.isNone then [] else (Arrangement.of s.node parent).padding.map PaddingModifier.text) ++
    [".background(" ++ s.fillColor ++ ")"] ++ (s.cornerModifier? parent).toList

/-- A frame around its parts. Overlapping children have no modifiers, and the root scrolls. -/
def frameFragment (s : Snapshot) (parent : Option Node) (parts : List String) : String :=
  let layout := Arrangement.of s.node parent
  let parts := if s.node.spreadsChildren parent then parts.intersperse "Spacer()" else parts
  if layout.spacing.isOverlap then
    Fragment.block (stackOpener layout.axis layout.spacing.display) parts
  else
    let spacing :=
      if layout.axis = .horizontal ∧ layout.spansWidth then ".zero" else layout.spacing.display
    let stack := Fragment.block (stackOpener layout.axis spacing) parts
    let content := if parent.isNone then Fragment.block "ScrollView" [stack] else stack
    content ++ "\n" ++ "\n".intercalate (s.frameModifiers parent)

end Snapshot

structure Progress where
  state : ModelState := {}
  events : Array Event := #[]

/-- Steps of a composition; what is collected survives a fault. -/
abbrev Composition := ExceptT WidgetFault (StateM Progress)

namespace Composition

def report (event : Event) : Composition Unit :=
  modify fun p => { p with events := p.events.push event }

def widget (config : Config) (parent : Option Node) (s : Snapshot) : Composition String := do
  let kind := s.widgetKind config.components
  report (.classified s.name kind)
  let before := (← get).state
  modify fun p => { p with state := Widget.record kind s p.state }
  match Widget.fragment kind s parent before with
  | .ok text => return text
  | .error fault => throw fault

mutual

def node (config : Config) (parent : Option Node) : Snapshot → Composition String
  | s@⟨n, _, _, _, _, _, _, children⟩ => do
    report (.entered n.kind n.name)
    match n.kind with
    | .frame =>
      if config.omits n.name then
        report (.skipped n.name)
        return ""
      else
        report (.aligned n.name (n.rowRole parent))
        return s.frameFragment parent (← nodes config n config.omits children)
    | .group => return Snapshot.groupFragment n.name (← nodes config n (fun _ => false) children)
    | .componentInstance => widget config parent s
    | .text => return s.textFragment parent
    | .rectangle => return s.shapeFragment "Rectangle"
    | .ellipse | .vector => return s.shapeFragment "Circle"
    | .line => return "Separator()"
    | .other kind =>
      report (.unhandled kind n.name)
      return "// Unhandled node type: " ++ kind

def nodes (config : Config) (parent : Node) (leavesOut : String → Bool) :
    List Snapshot → Composition (List String)
  | [] => return []
  | s :: rest => do
    if leavesOut s.name then nodes config parent leavesOut rest
    else return (← node config (some parent) s) :: (← nodes config parent leavesOut rest)

end
end Composition

/-- Composes views under one configuration. It keeps the state of its last composition, which ended
with a view or with a fault. -/
structure Composer where
  config : Config
  state : ModelState := default

namespace Composer

/-- The body of the view for a snapshot, with all that was collected. -/
def run (c : Composer) (s : Snapshot) : Except WidgetFault String × Progress :=
  (Composition.node c.config none s).run.run { state := c.state.reset }

/-- The body of the view for a snapshot, and the composer after it. -/
def compose (c : Composer) (s : Snapshot) : Except WidgetFault String × Composer :=
  let (result, progress) := c.run s
  (result, { c with state := progress.state })

end Composer
end Mockup
