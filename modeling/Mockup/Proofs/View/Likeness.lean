import Mathlib.Data.List.Forall2
import Mockup.Proofs.View.Composed

/-!
# Snapshots that look alike

Two snapshots are composed to the same text, from the same state to the same state, when the nodes
that they show correspond to each other and have the same looks.
-/

namespace Mockup

theorem Node.spansWidth_congr {n m : Node} {parent other : Option Node} (h : m.layout = n.layout)
    (hparent : other.map (·.layout) = parent.map (·.layout)) :
    m.spansWidth other = n.spansWidth parent := by
  cases parent with
  | none =>
    rw [Option.map_none, Option.map_eq_none_iff] at hparent
    subst hparent
    simp only [spansWidth, scalesWidth, h]
  | some p =>
    obtain ⟨q, rfl, hq⟩ := Option.map_eq_some_iff.1 hparent
    have hq : q.layout = p.layout := hq
    simp only [spansWidth, scalesWidth, h]
    cases n.layout.align <;> simp only [hq]

/-- The place of a child is known by its id, whichever ids the children have. -/
theorem Node.idxOfChild?_congr {p q : Node} {f : NodeId → NodeId} (hf : f.Injective)
    (h : q.children.map (·.id) = p.children.map (f ·.id)) (id : NodeId) :
    q.idxOfChild? (f id) = p.idxOfChild? id := by
  have hids (n : Node) (id : NodeId) :
      n.idxOfChild? id = (n.children.map (·.id)).findIdx? (· == id) := by
    rw [idxOfChild?, List.findIdx?_map]
    rfl
  have hsame : ((· == f id) ∘ (f ·.id) : Node → Bool) = (·.id == id) := by
    funext c
    rw [Function.comp_apply, Bool.eq_iff_iff, beq_iff_eq, beq_iff_eq, hf.eq_iff]
  rw [hids, h, List.findIdx?_map, hsame, idxOfChild?]

theorem Node.rowPosition_congr {n m p q : Node} {f : NodeId → NodeId} (hf : f.Injective)
    (hid : m.id = f n.id) (halign : m.text.align = n.text.align) (haxis : q.axis = p.axis)
    (h : q.children.map (·.id) = p.children.map (f ·.id)) :
    m.rowPosition (some q) = n.rowPosition (some p) := by
  have hlength : q.children.length = p.children.length := by
    have hmap := congrArg List.length h
    rwa [List.length_map, List.length_map] at hmap
  simp only [rowPosition, haxis, hid, idxOfChild?_congr hf h, hlength, halign]

namespace Snapshot

/-- All that the text of a node shows but for its parts: its own looks, and those of its place. -/
structure Alike (parent : Option Node) (s : Snapshot) (other : Option Node) (t : Snapshot) :
    Prop where
  kind : t.node.kind = s.node.kind
  layout : t.node.layout = s.node.layout
  fills : t.node.fills = s.node.fills
  characters : t.node.text.characters = s.node.text.characters
  opacity : t.node.text.opacity = s.node.text.opacity
  fillStyle : t.fillStyle = s.fillStyle
  cornerStyle : t.cornerStyle = s.cornerStyle
  textStyle : t.textStyle = s.textStyle
  fillVariable : t.fillVariable = s.fillVariable
  position : t.node.rowPosition other = s.node.rowPosition parent
  place : other.map (·.layout) = parent.map (·.layout)

namespace Alike

variable {s t : Snapshot} {parent other : Option Node}

private theorem isNone_eq (h : Alike parent s other t) : other.isNone = parent.isNone := by
  have hmap := congrArg Option.isNone h.place
  rwa [Option.isNone_map, Option.isNone_map] at hmap

private theorem textFragment_eq (h : Alike parent s other t) :
    t.textFragment other = s.textFragment parent := by
  have hfont : t.fontName = s.fontName := by rw [fontName, fontName, h.textStyle]
  have hcolor : t.boundColor = s.boundColor := by rw [boundColor, boundColor, h.fillVariable]
  rw [textFragment, textFragment, hfont, hcolor, h.characters, h.opacity, h.position]

theorem fillColor_eq (h : Alike parent s other t) : t.fillColor = s.fillColor := by
  rw [fillColor, fillColor, h.fills, h.fillStyle]

private theorem shapeFragment_eq (h : Alike parent s other t) (shape : String) :
    t.shapeFragment shape = s.shapeFragment shape := by
  rw [shapeFragment, shapeFragment, h.fillColor_eq]

private theorem axis_eq (h : Alike parent s other t) : t.node.axis = s.node.axis := by
  rw [Node.axis, Node.axis, Node.isFrame, Node.isFrame, h.kind, h.layout]

private theorem arrangement_eq (h : Alike parent s other t) :
    Arrangement.of t.node other = Arrangement.of s.node parent := by
  rw [Arrangement.of, Arrangement.of, h.axis_eq, h.layout, h.position,
    Node.spansWidth_congr h.layout h.place]

private theorem spreadsChildren_eq (h : Alike parent s other t) :
    t.node.spreadsChildren other = s.node.spreadsChildren parent := by
  rw [Node.spreadsChildren, Node.spreadsChildren, h.axis_eq, h.layout,
    Node.spansWidth_congr h.layout h.place]

private theorem cornerModifier?_eq (h : Alike parent s other t) :
    t.cornerModifier? other = s.cornerModifier? parent := by
  have hradius : t.radius? = s.radius? := by rw [radius?, radius?, h.layout, h.cornerStyle]
  have hnone := h.isNone_eq
  rw [cornerModifier?.eq_def, cornerModifier?.eq_def, hradius]
  cases parent <;> cases other <;> simp_all

private theorem frameFragment_eq (h : Alike parent s other t) (parts : List String) :
    t.frameFragment other parts = s.frameFragment parent parts := by
  simp only [frameFragment, frameModifiers, h.arrangement_eq, h.spreadsChildren_eq, h.isNone_eq,
    h.fillColor_eq, h.cornerModifier?_eq]

end Alike

end Snapshot

namespace Composition

/-- The outcome of a composition without the events on the way. -/
def outcome {α : Type} (result : Except WidgetFault α × Progress) :
    Except WidgetFault α × ModelState :=
  (result.1, result.2.state)

theorem outcome_map {α β : Type} {x y : Except WidgetFault α × Progress}
    (h : outcome y = outcome x) (f : α → β) :
    outcome (y.1.map f, y.2) = outcome (x.1.map f, x.2) := by
  obtain ⟨hresult, hstate⟩ : y.1 = x.1 ∧ y.2.state = x.2.state := Prod.ext_iff.1 h
  exact Prod.ext (congrArg (Except.map f) hresult) hstate

/-- A correspondence between the nodes of two snapshots, in their places, under which the text of
each is made of the same. -/
structure Likens (config : Config)
    (R : Option Node → Snapshot → Option Node → Snapshot → Prop) : Prop where
  kind {parent s other t} : R parent s other t → t.node.kind = s.node.kind
  name {parent s other t} : R parent s other t → t.name = s.name
  alike {parent s other t} : R parent s other t →
    ¬(s.node.kind = .frame ∧ config.omits s.name = true) → s.Alike parent other t
  frame {parent s other t} : R parent s other t → s.node.kind = .frame →
    config.omits s.name = false → List.Forall₂ (fun c d => R (some s.node) c (some t.node) d)
      (s.shownChildren config) (t.shownChildren config)
  group {parent s other t} : R parent s other t → s.node.kind = .group →
    List.Forall₂ (fun c d => R (some s.node) c (some t.node) d) s.children t.children
  widget {parent s other t} : R parent s other t → s.node.kind = .componentInstance →
    t.widgetKind config.components = s.widgetKind config.components ∧
    ∀ kind state, Widget.fragment kind t other state = Widget.fragment kind s parent state ∧
      Widget.record kind t state = Widget.record kind s state

theorem exec_nodes_filter (config : Config) (parent : Node) (leavesOut : String → Bool)
    (cs : List Snapshot) (p : Progress) :
    exec (nodes config parent leavesOut cs) p =
      exec (nodes config parent (fun _ => false) (cs.filter (!leavesOut ·.name))) p := by
  induction cs generalizing p with
  | nil => rfl
  | cons c cs ih =>
    rw [exec_nodes_cons]
    by_cases hc : leavesOut c.name = true
    · rw [if_pos hc, List.filter_cons_of_neg (by simpa using hc), ih]
    · rw [if_neg hc, List.filter_cons_of_pos (by simpa using hc), exec_nodes_cons,
        if_neg (by simp)]
      simp only [ih]

theorem outcome_nodes_congr {config : Config} {n m : Node} {cs ds : List Snapshot}
    (h : List.Forall₂ (fun c d => ∀ p q : Progress, q.state = p.state →
      outcome (exec (node config (some m) d) q) = outcome (exec (node config (some n) c) p)) cs ds)
    {p q : Progress} (hstate : q.state = p.state) :
    outcome (exec (nodes config m (fun _ => false) ds) q) =
      outcome (exec (nodes config n (fun _ => false) cs) p) := by
  induction h generalizing p q with
  | nil => exact Prod.ext rfl hstate
  | cons hhead _ ih =>
    have hfirst := hhead p q hstate
    rw [exec_nodes_cons, exec_nodes_cons, if_neg Bool.false_ne_true, if_neg Bool.false_ne_true]
    rcases hleft : exec (node config (some n) _) p with ⟨text, p⟩
    rcases hright : exec (node config (some m) _) q with ⟨text', q⟩
    rw [hleft, hright] at hfirst
    obtain ⟨rfl, hstate⟩ : text' = text ∧ q.state = p.state := Prod.ext_iff.1 hfirst
    cases text' with
    | error fault => exact Prod.ext rfl hstate
    | ok text => exact outcome_map (ih hstate) (text :: ·)

/-- Nodes that correspond to each other are composed to the same text and the same state, or to the
same fault. -/
theorem Likens.outcome_node {config : Config}
    {R : Option Node → Snapshot → Option Node → Snapshot → Prop} (h : Likens config R)
    {parent other : Option Node} {s t : Snapshot} (hst : R parent s other t) {p q : Progress}
    (hstate : q.state = p.state) :
    outcome (exec (node config other t) q) = outcome (exec (node config parent s) p) := by
  induction s using Snapshot.induct generalizing parent other t p q with
  | step s ih =>
    have hnodes {cs ds : List Snapshot} (hcs : ∀ c ∈ cs, c ∈ s.children)
        (hparts : List.Forall₂ (fun c d => R (some s.node) c (some t.node) d) cs ds)
        {p q : Progress} (hstate : q.state = p.state) :
        outcome (exec (nodes config t.node (fun _ => false) ds) q) =
          outcome (exec (nodes config s.node (fun _ => false) cs) p) := by
      refine outcome_nodes_congr ?_ hstate
      refine ((List.forall₂_and_left _ _).2 ⟨hcs, hparts⟩).imp fun c d hcd p q hstate => ?_
      exact ih c hcd.1 hcd.2 hstate
    rw [exec_node, exec_node, h.name hst, h.kind hst]
    cases hk : s.node.kind with
    | frame =>
      by_cases ho : config.omits s.name = true
      · simp only [if_pos ho]
        exact Prod.ext rfl hstate
      · have hparts := h.frame hst hk (by simpa using ho)
        have hframe : t.frameFragment other = s.frameFragment parent :=
          funext (h.alike hst fun hs => ho hs.2).frameFragment_eq
        simp only [if_neg ho, exec_nodes_filter config _ config.omits, hframe]
        refine outcome_map (hnodes (fun c hc => (List.mem_filter.1 hc).1) hparts ?_) _
        exact hstate
    | group =>
      refine outcome_map (hnodes (fun c hc => hc) (h.group hst hk) ?_) _
      exact hstate
    | componentInstance =>
      obtain ⟨hkind, hwidget⟩ := h.widget hst hk
      obtain ⟨hfragment, hrecord⟩ := hwidget (s.widgetKind config.components) p.state
      simp only [outcome, exec_widget, hkind, Progress.add_state, hstate, hfragment, hrecord]
    | text =>
      have halike := h.alike hst fun hs => by simp [hk] at hs
      exact Prod.ext (congrArg Except.ok halike.textFragment_eq) hstate
    | rectangle | ellipse | vector =>
      have halike := h.alike hst fun hs => by simp [hk] at hs
      exact Prod.ext (congrArg Except.ok (halike.shapeFragment_eq _)) hstate
    | line | other => exact Prod.ext rfl hstate

end Composition

theorem Composer.compose_congr {c : Composer}
    {R : Option Node → Snapshot → Option Node → Snapshot → Prop}
    (h : Composition.Likens c.config R) {s t : Snapshot} (hst : R none s none t) :
    c.compose t = c.compose s := by
  obtain ⟨hview, hstate⟩ := Prod.ext_iff.1 (h.outcome_node hst rfl)
  exact Prod.ext hview (congrArg (Composer.mk c.config) hstate)

end Mockup
