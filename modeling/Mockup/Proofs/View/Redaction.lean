import Mockup.Proofs.View.Likeness

/-!
# Elided content

A frame leaves out its children with omitted names, and a group shows nothing of such frames. Of
what is elided a view shows nothing: only that it is there counts for the layout around it.
-/

namespace Mockup

/-- Whether a node shows nothing of a child: a frame elides each child with an omitted name, a group
only frames. -/
def Config.elides (config : Config) (parent child : NodeKind) (name : String) : Bool :=
  config.omits name && (parent == .frame || (parent == .group && child == .frame))

namespace Node

/-- What is left of an elided node. -/
def stub (n : Node) : Node where
  id := n.id
  kind := .frame
  name := n.name

mutual

/-- The node without what is elided in it. Instances stay as they are: their slots are read from
all nodes below them. -/
def redact (config : Config) : Node → Node
  | ⟨id, kind, name, children, layout, fills, fillStyle, cornerStyle, text, properties⟩ =>
    let children :=
      if kind = .componentInstance then children else redactAmong config kind children
    ⟨id, kind, name, children, layout, fills, fillStyle, cornerStyle, text, properties⟩

def redactAmong (config : Config) (parent : NodeKind) : List Node → List Node
  | [] => []
  | n :: rest =>
    (if config.elides parent n.kind n.name then n.stub else n.redact config) ::
      redactAmong config parent rest

end

end Node

namespace Snapshot

def stub (s : Snapshot) : Snapshot where
  node := s.node.stub

mutual

/-- The snapshot without what is elided in it, and its nodes likewise. -/
def redact (config : Config) : Snapshot → Snapshot
  | ⟨n, component, fillStyle, cornerStyle, textStyle, fillVariable, swaps, children⟩ =>
    let children :=
      if n.kind = .componentInstance then children else redactAmong config n.kind children
    ⟨n.redact config, component, fillStyle, cornerStyle, textStyle, fillVariable, swaps, children⟩

def redactAmong (config : Config) (parent : NodeKind) : List Snapshot → List Snapshot
  | [] => []
  | s :: rest =>
    (if config.elides parent s.node.kind s.name then s.stub else s.redact config) ::
      redactAmong config parent rest

end

end Snapshot

namespace Node

variable (config : Config) (n : Node)

@[simp] theorem redact_id : (n.redact config).id = n.id := by cases n; rfl
@[simp] theorem redact_kind : (n.redact config).kind = n.kind := by cases n; rfl
@[simp] theorem redact_name : (n.redact config).name = n.name := by cases n; rfl
@[simp] theorem redact_layout : (n.redact config).layout = n.layout := by cases n; rfl
@[simp] theorem redact_fills : (n.redact config).fills = n.fills := by cases n; rfl
@[simp] theorem redact_text : (n.redact config).text = n.text := by cases n; rfl

private theorem redactAmong_eq (parent : NodeKind) (cs : List Node) : redactAmong config parent cs =
    cs.map fun c => if config.elides parent c.kind c.name then c.stub else c.redact config := by
  induction cs with
  | nil => rfl
  | cons c cs ih => rw [redactAmong, ih, List.map_cons]

private theorem redact_children : (n.redact config).children =
    if n.kind = .componentInstance then n.children else redactAmong config n.kind n.children := by
  cases n; rfl

variable {n} in
private theorem redact_of_instance (h : n.kind = .componentInstance) : n.redact config = n := by
  cases n
  simp only at h
  rw [redact, if_pos h]

theorem map_id_redact_children :
    (n.redact config).children.map (·.id) = n.children.map (·.id) := by
  rw [redact_children]
  split
  · rfl
  · rw [redactAmong_eq, List.map_map]
    refine List.map_congr_left fun c _ => ?_
    simp only [Function.comp_apply]
    split
    · rfl
    · exact redact_id config c

private theorem axis_redact : (n.redact config).axis = n.axis := by
  rw [axis, axis, isFrame, isFrame, redact_kind, redact_layout]

private theorem rowPosition_redact (parent : Option Node) :
    (n.redact config).rowPosition (parent.map (redact config)) = n.rowPosition parent := by
  cases parent with
  | none => rfl
  | some p =>
    exact rowPosition_congr Function.injective_id (n.redact_id config) (by rw [redact_text])
      (p.axis_redact config) (p.map_id_redact_children config)

end Node

/-- Of its parent a widget needs the layout only. -/
theorem Widget.fragment_place {kind : ComponentKind} {s : Snapshot} {parent other : Option Node}
    {state : ModelState} (h : other.map (·.layout) = parent.map (·.layout)) :
    fragment kind s other state = fragment kind s parent state := by
  have hbutton : button s other = button s parent := by
    rw [button, button, Node.spansWidth_congr rfl h]
  rw [fragment.eq_def, fragment.eq_def, hbutton]

namespace Snapshot

variable (config : Config) (s : Snapshot)

@[simp] theorem redact_node : (s.redact config).node = s.node.redact config := by cases s; rfl

private theorem name_redact : (s.redact config).name = s.name := by
  rw [name, name, redact_node, Node.redact_name]

private theorem redactAmong_eq (parent : NodeKind) (cs : List Snapshot) :
    redactAmong config parent cs =
      cs.map fun c =>
        if config.elides parent c.node.kind c.name then c.stub else c.redact config := by
  induction cs with
  | nil => rfl
  | cons c cs ih => rw [redactAmong, ih, List.map_cons]

private theorem redact_children : (s.redact config).children =
    if s.node.kind = .componentInstance then s.children
    else redactAmong config s.node.kind s.children := by
  cases s; rfl

variable {s} in
private theorem redact_of_instance (h : s.node.kind = .componentInstance) :
    s.redact config = s := by
  cases s
  simp only at h
  rw [redact, if_pos h, Node.redact_of_instance config h]

private theorem alike_redact (parent : Option Node) :
    s.Alike parent (parent.map (Node.redact config)) (s.redact config) where
  kind := by simp
  layout := by simp
  fills := by simp
  characters := by simp
  opacity := by simp
  fillStyle := by cases s; rfl
  cornerStyle := by cases s; rfl
  textStyle := by cases s; rfl
  fillVariable := by cases s; rfl
  position := by rw [redact_node, Node.rowPosition_redact]
  place := by cases parent <;> simp

variable {s} in
private theorem redact_children_of_ne (h : s.node.kind ≠ .componentInstance) :
    (s.redact config).children = s.children.map fun c =>
      if config.elides s.node.kind c.node.kind c.name then c.stub else c.redact config := by
  rw [redact_children, if_neg h, redactAmong_eq]

variable {s} in
private theorem shownChildren_redact (h : s.node.kind = .frame) :
    (s.redact config).shownChildren config = (s.shownChildren config).map (redact config) := by
  rw [shownChildren, shownChildren, redact_children_of_ne config (by simp [h]), List.filter_map]
  have hname : (fun c => !config.omits (name c)) ∘ (fun c : Snapshot =>
      if config.elides s.node.kind c.node.kind c.name then c.stub else c.redact config) =
      fun c => !config.omits c.name := by
    funext c
    simp only [Function.comp_apply]
    split
    · rfl
    · rw [name_redact]
  rw [hname]
  refine List.map_congr_left fun c hc => if_neg ?_
  have hshown : config.omits c.name = false := by simpa using (List.mem_filter.1 hc).2
  simp [Config.elides, hshown]

/-- A node and its redaction in the redacted place, or what is left of an elided frame. -/
def Redacts (parent : Option Node) (s : Snapshot) (other : Option Node) (t : Snapshot) : Prop :=
  other = parent.map (Node.redact config) ∧
    (t = s.redact config ∨ (s.node.kind = .frame ∧ config.omits s.name = true) ∧ t = s.stub)

private theorem likens_redacts : Composition.Likens config (Redacts config) where
  kind := by
    rintro parent s other t ⟨-, rfl | ⟨hs, rfl⟩⟩
    · simp
    · exact hs.1.symm
  name := by
    rintro parent s other t ⟨-, rfl | ⟨hs, rfl⟩⟩
    · exact name_redact config s
    · rfl
  alike := by
    rintro parent s other t ⟨rfl, rfl | ⟨hs, -⟩⟩ hshown
    · exact s.alike_redact config parent
    · exact absurd hs hshown
  frame := by
    rintro parent s other t ⟨-, rfl | ⟨hs, -⟩⟩ hk ho
    · rw [shownChildren_redact config hk, List.forall₂_map_right_iff, List.forall₂_same]
      exact fun c _ => ⟨by rw [redact_node]; rfl, Or.inl rfl⟩
    · rw [hs.2] at ho
      cases ho
  group := by
    rintro parent s other t ⟨-, rfl | ⟨hs, -⟩⟩ hk
    · rw [redact_children_of_ne config (by simp [hk]), List.forall₂_map_right_iff,
        List.forall₂_same]
      refine fun c _ => ⟨by rw [redact_node]; rfl, ?_⟩
      split
      · next helided =>
        refine Or.inr ⟨?_, rfl⟩
        simpa [Config.elides, hk, and_comm] using helided
      · exact Or.inl rfl
    · cases hk.symm.trans hs.1
  widget := by
    rintro parent s other t ⟨rfl, rfl | ⟨hs, -⟩⟩ hk
    · rw [redact_of_instance config hk]
      refine ⟨rfl, fun kind state => ⟨Widget.fragment_place ?_, rfl⟩⟩
      exact (s.alike_redact config parent).place
    · cases hk.symm.trans hs.1

end Snapshot

namespace Composer

private theorem compose_redact (c : Composer) (s : Snapshot) :
    c.compose (s.redact c.config) = c.compose s :=
  compose_congr (Snapshot.likens_redacts c.config) ⟨rfl, Or.inl rfl⟩

/-- Two snapshots that differ only in what is elided are composed to the same view and the same
state, or to the same fault. -/
theorem compose_eq_of_redact_eq (c : Composer) {s t : Snapshot}
    (h : s.redact c.config = t.redact c.config) : c.compose s = c.compose t := by
  rw [← compose_redact, h, compose_redact]

/-- A frame with a bar and a title, and with a group that holds a second bar. -/
def barred (top bottom : Snapshot) : Snapshot :=
  let title : Snapshot :=
    { node := { id := ⟨"2"⟩, kind := .text, name := "Title", text := { characters := "Hello" } } }
  let tray : Snapshot :=
    { node := { id := ⟨"3"⟩, kind := .group, name := "Tray", children := [bottom.node] }
      children := [bottom] }
  { node := {
      id := ⟨"0"⟩, kind := .frame, name := "Screen", layout := { mode := .horizontal }
      children := [top.node, title.node, tray.node] }
    children := [top, title, tray] }

/-- An instance that records state, under a name that is left out. -/
def checkboxBar : Snapshot where
  node := { id := ⟨"1"⟩, kind := .componentInstance, name := "Top App Bar" }
  component := some { id := "153:1", name := "Checkbox" }

def emptyBar : Snapshot where
  node := { id := ⟨"1"⟩, kind := .frame, name := "Top App Bar" }

/-- A frame with an instance that cannot be composed. -/
def brokenBar : Snapshot :=
  let icon : Snapshot :=
    { node := { id := ⟨"4"⟩, kind := .componentInstance, name := "Icon" }
      component := some { id := "104:925", name := "Icon" } }
  { node := { emptyBar.node with children := [icon.node] }, children := [icon] }

theorem compose_eq_of_redact_eq_barred :
    (barred checkboxBar emptyBar).redact {} = (barred emptyBar brokenBar).redact {} ∧
    (⟨{}, default⟩ : Composer).compose (barred checkboxBar emptyBar) =
      (⟨{}, default⟩ : Composer).compose (barred emptyBar brokenBar) :=
  ⟨rfl, compose_eq_of_redact_eq ⟨{}, default⟩ rfl⟩

end Composer

end Mockup
