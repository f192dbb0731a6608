import Mathlib.Data.List.Infix
import Mockup.Proofs.Text.Lines
import Mockup.Proofs.View.Composed

/-!
# Drawings

A view is a tree of drawings. Each visible node has a text of its own, and the texts of its parts
stand in it one after the other, further to the right. From what a drawing does with its parts
follows where each of all the drawings stands in the view.
-/

namespace Mockup

open Mockup.Composition (Composed)
open Text (Tidy shift)

namespace Snapshot

/-- The children whose texts stand in that of a snapshot. -/
def shownParts (config : Config) (s : Snapshot) : List Snapshot :=
  match s.node.kind with
  | .frame => s.shownChildren config
  | .group => s.children.filter fun c => !(c.visible config).isEmpty
  | _ => []

theorem filter_shownChildren (s : Snapshot) (config : Config) :
    (s.shownChildren config).filter (fun c => !(c.visible config).isEmpty) =
      s.shownChildren config := by
  refine List.filter_eq_self.2 fun c hc => ?_
  have hkept : config.omits c.name = false := by simpa using (List.mem_filter.1 hc).2
  rw [visible_eq, hkept]
  cases c.node.kind <;> rfl

theorem shownParts_leaf {s : Snapshot} {config : Config} {parent : Option Node} {text : String}
    (h : s.leafFragment? parent = some text) : s.shownParts config = [] := by
  rw [leafFragment?.eq_def] at h
  rw [shownParts]
  cases hk : s.node.kind <;> simp_all

private theorem flatMap_shown (config : Config) (cs : List Snapshot) :
    (cs.filter fun c => !(c.visible config).isEmpty).flatMap (visible config) =
      cs.flatMap (visible config) := by
  induction cs with
  | nil => rfl
  | cons c cs ih => cases hc : c.visible config <;> simp [hc, ih]

private theorem visible_eq_cons {s : Snapshot} {config : Config} (h : s.visible config ≠ []) :
    s.visible config = s :: (s.shownParts config).flatMap (visible config) := by
  cases hk : s.node.kind with
  | frame =>
    cases ho : config.omits s.name with
    | true => exact absurd (visible_omitted hk ho) h
    | false => rw [visible_frame hk ho, shownParts, hk]
  | group =>
    rw [visible_group hk, shownParts, hk, flatMap_shown]
  | _ =>
    rw [visible_eq, shownParts, hk]
    rfl

end Snapshot

/-- A visible node with its text, the state before and after it, and the drawings of its parts. -/
structure Drawing where
  shown : Snapshot
  parent : Option Node
  before : ModelState
  text : String
  after : ModelState
  parts : List Drawing

namespace Drawing

def lines (d : Drawing) : List (List Char) :=
  Text.lines d.text.toList

/-- The root scrolls when it is a frame whose children do not overlap. -/
def scrolls (d : Drawing) : Bool :=
  d.parent.isNone && d.shown.node.isFrame &&
    !(Arrangement.of d.shown.node d.parent).spacing.isOverlap

/-- By how many levels the parts are further to the right. As many lines open the stack. -/
def steps (d : Drawing) : Nat :=
  if d.scrolls then 2 else 1

def spacer : List Char := "Spacer()".toList

/-- The lines between two parts. -/
def separator (d : Drawing) : List (List Char) :=
  if d.shown.node.spreadsChildren d.parent then [spacer] else []

theorem separator_group {d : Drawing} (hk : d.shown.node.kind = .group) : d.separator = [] := by
  simp [separator, Node.spreadsChildren, Node.axis, Node.isFrame, hk]

/-- The lines of the parts, with what is between them. -/
def body (d : Drawing) : List (List Char) :=
  d.separator.intercalate (d.parts.map lines)

/-- Each drawing goes on from the state that the one before left. -/
def InTurn (before : ModelState) : List Drawing → Prop
  | [] => True
  | d :: rest => d.before = before ∧ InTurn d.after rest

/-- Lines around inner ones, which are moved right by as many levels as there are lines in front.
There is no further spacer next to the inner ones. -/
def Surrounds (steps : Nat) (inner lines : List (List Char)) : Prop :=
  ∃ front rear, lines = front ++ inner.map (shift (4 * steps)) ++ rear ∧
    front.length = steps ∧ shift (4 * steps) spacer ∉ front ++ rear

/-- A drawing is what its node is composed to, and its parts are those that the node shows. -/
structure Sound (config : Config) (d : Drawing) : Prop where
  composed : Composed config d.parent d.shown d.before d.text d.after
  shown : d.parts.map (·.shown) = d.shown.shownParts config
  parents : ∀ p ∈ d.parts, p.parent = some d.shown.node
  inTurn : InTurn d.before d.parts
  dense : d.shown.node.kind = .group → d.separator = []
  surrounds : d.parts ≠ [] → Surrounds d.steps d.body d.lines

end Drawing

/-- A drawing at a place in the view. -/
structure Placement where
  drawing : Drawing
  /-- Which part it is of which part, and so on, from the root on. -/
  path : List Nat
  level : Nat
  /-- The number of lines in front of it. -/
  start : Nat

namespace Placement

def stop (p : Placement) : Nat :=
  p.start + p.drawing.lines.length

/-- A place in a part as a place in the whole. -/
def within (index steps start : Nat) (p : Placement) : Placement :=
  { p with path := index :: p.path, level := steps + p.level, start := start + p.start }

/-- The node of the one is an ancestor of that of the other. -/
def Above (p q : Placement) : Prop :=
  p.path <+: q.path ∧ p.path ≠ q.path

/-- The lines of the one are among those of the other. -/
def Holds (p q : Placement) : Prop :=
  p.start ≤ q.start ∧ q.stop ≤ p.stop

/-- Of two drawings, the first holds the second as its ancestor, or is in front of it. -/
def Precedes (p q : Placement) : Prop :=
  (p.Above q ∧ p.Holds q) ∨ (¬ p.path <+: q.path ∧ ¬ q.path <+: p.path ∧ p.stop ≤ q.start)

variable {p q : Placement}

private theorem Precedes.within (h : p.Precedes q) (index steps start : Nat) :
    (p.within index steps start).Precedes (q.within index steps start) := by
  rcases h with ⟨⟨hbelow, hne⟩, hstart, hstop⟩ | ⟨hpq, hqp, hstop⟩
  · refine Or.inl ⟨⟨?_, fun heq => hne (List.cons.inj heq).2⟩, ?_, ?_⟩
    · exact List.cons_prefix_cons.2 ⟨rfl, hbelow⟩
    · exact Nat.add_le_add_left hstart start
    · simp only [stop, Placement.within] at hstop ⊢
      omega
  · refine Or.inr ⟨fun h => hpq (List.cons_prefix_cons.1 h).2,
      fun h => hqp (List.cons_prefix_cons.1 h).2, ?_⟩
    simp only [stop, Placement.within] at hstop ⊢
    omega

/-- Placements in different parts are in front of each other. -/
theorem precedes_of_ne {i j steps a b : Nat} (hindex : i ≠ j) (h : a + p.stop ≤ b) :
    (p.within i steps a).Precedes (q.within j steps b) := by
  refine Or.inr ⟨?_, ?_, ?_⟩
  · exact fun hbelow => hindex (List.cons_prefix_cons.1 hbelow).1
  · exact fun hbelow => hindex (List.cons_prefix_cons.1 hbelow).1.symm
  · simp only [stop, Placement.within] at h ⊢
    omega

/-- The lines of two drawings are nested exactly when one is an ancestor of the other. Else they
are apart, in the order of the drawings. -/
theorem Precedes.nested_iff (h : p.Precedes q) (hp : p.drawing.lines ≠ [])
    (hq : q.drawing.lines ≠ []) :
    (p.Holds q ∨ q.Holds p ↔ p.Above q ∨ q.Above p) ∧
      (¬ (p.Above q ∨ q.Above p) → p.stop ≤ q.start) := by
  have hp := List.length_pos_iff.2 hp
  have hq := List.length_pos_iff.2 hq
  rcases h with ⟨habove, hholds⟩ | ⟨hpq, hqp, hstop⟩
  · exact ⟨iff_of_true (Or.inl hholds) (Or.inl habove), fun h => absurd (Or.inl habove) h⟩
  · have hapart : ¬ (p.Above q ∨ q.Above p) := by
      rintro (h | h)
      · exact hpq h.1
      · exact hqp h.1
    refine ⟨iff_of_false ?_ hapart, fun _ => hstop⟩
    simp only [Holds, stop] at hstop ⊢
    omega

end Placement

namespace Drawing

open Placement

mutual

/-- A drawing and all drawings in it in preorder, each at its place. -/
def placements : Drawing → List Placement
  | d@⟨_, _, _, _, _, parts⟩ =>
    ⟨d, [], 0, 0⟩ :: placementsAmong d.steps d.separator.length 0 d.steps parts

def placementsAmong (steps gap index start : Nat) : List Drawing → List Placement
  | [] => []
  | d :: rest =>
    d.placements.map (within index steps start) ++
      placementsAmong steps gap (index + 1) (start + d.lines.length + gap) rest

end

private theorem placements_eq (d : Drawing) : d.placements =
    ⟨d, [], 0, 0⟩ :: placementsAmong d.steps d.separator.length 0 d.steps d.parts := by
  cases d
  rfl

theorem exists_of_mem_placementsAmong {steps : Nat} (separator : List (List Char))
    {parts : List Drawing} {p : Placement} {index start : Nat}
    (h : p ∈ placementsAmong steps separator.length index start parts) :
    ∃ c ∈ parts, ∃ q ∈ c.placements, ∃ i before, index ≤ i ∧
      c.lines <+: (separator.intercalate (parts.map lines)).drop before ∧
      p = q.within i steps (start + before) := by
  induction parts generalizing index start with
  | nil => cases h
  | cons d rest ih =>
    rw [placementsAmong, List.mem_append] at h
    rcases h with h | h
    · obtain ⟨q, hq, rfl⟩ := List.mem_map.1 h
      refine ⟨d, List.mem_cons_self, q, hq, index, 0, Nat.le_refl index, ?_, rfl⟩
      cases rest with
      | nil => simp
      | cons e rest => simp [List.intercalate_cons_cons]
    · obtain ⟨c, hc, q, hq, i, before, hi, hlines, rfl⟩ := ih h
      refine ⟨c, List.mem_cons_of_mem d hc, q, hq, i, d.lines.length + separator.length + before,
        by omega, ?_, ?_⟩
      · cases rest with
        | nil => cases hc
        | cons e rest =>
          have hskip : ((separator.intercalate ((d :: e :: rest).map lines)).drop
              (d.lines.length + separator.length)) =
              separator.intercalate ((e :: rest).map lines) := by
            simp [List.intercalate_cons_cons, ← List.drop_drop]
          rw [← List.drop_drop, hskip]
          exact hlines
      · simp only [Nat.add_assoc]

/-- A drawing all of whose drawings are sound. -/
inductive Drawn (config : Config) : Drawing → Prop where
  | mk {d : Drawing} (sound : d.Sound config) (tidy : Tidy d.text)
    (visible : d.shown.visible config ≠ []) (parts : ∀ p ∈ d.parts, Drawn config p) :
    Drawn config d

section

variable {config : Config} {d : Drawing}

theorem Drawn.tidy (h : d.Drawn config) : Tidy d.text := by
  cases h with
  | mk sound tidy visible parts => exact tidy

theorem Drawn.visible_ne_nil (h : d.Drawn config) : d.shown.visible config ≠ [] := by
  cases h with
  | mk sound tidy visible parts => exact visible

private theorem Drawn.sound_of_mem (h : d.Drawn config) :
    ∀ p ∈ d.placements, p.drawing.Sound config ∧ p.drawing.lines ≠ [] := by
  induction h with
  | @mk d sound tidy visible parts ih =>
    rw [placements_eq, List.forall_mem_cons]
    refine ⟨⟨sound, Text.lines_ne_nil tidy⟩, fun p hp => ?_⟩
    obtain ⟨c, hc, q, hq, i, before, -, -, rfl⟩ := exists_of_mem_placementsAmong d.separator hp
    exact ih c hc q hq

private theorem shown_placementsAmong (steps gap index start : Nat) (ds : List Drawing) :
    (placementsAmong steps gap index start ds).map (·.drawing.shown) =
      ds.flatMap fun d => d.placements.map (·.drawing.shown) := by
  induction ds generalizing index start with
  | nil => rfl
  | cons d rest ih =>
    rw [placementsAmong, List.map_append, List.map_map, ih, List.flatMap_cons]
    rfl

/-- The drawings are those of the visible nodes, in their order. -/
theorem Drawn.shown_placements (h : d.Drawn config) :
    d.placements.map (·.drawing.shown) = d.shown.visible config := by
  induction h with
  | @mk d sound tidy visible parts ih =>
    rw [placements_eq, List.map_cons, shown_placementsAmong, Snapshot.visible_eq_cons visible,
      ← sound.shown, List.flatMap_map]
    congr 1
    exact List.flatMap_congr ih

private theorem Drawn.level_of_mem (h : d.Drawn config) :
    ∀ p ∈ d.placements, p.level = p.path.length + if p.path ≠ [] ∧ d.scrolls then 1 else 0 := by
  induction h with
  | @mk d sound tidy visible parts ih =>
    rw [placements_eq, List.forall_mem_cons]
    refine ⟨rfl, fun p hp => ?_⟩
    obtain ⟨c, hc, q, hq, i, before, -, -, rfl⟩ := exists_of_mem_placementsAmong d.separator hp
    have hstill : c.scrolls = false := by
      rw [scrolls, sound.parents c hc]
      rfl
    have hlevel := ih c hc q hq
    simp only [hstill, Bool.false_eq_true, and_false, if_false, Nat.add_zero] at hlevel
    simp only [within, steps, hlevel, List.length_cons, ne_eq, reduceCtorEq, not_false_eq_true,
      true_and]
    split <;> omega

/-- Each drawing stands in the view at its place. -/
theorem Drawn.lines_of_mem (h : d.Drawn config) :
    ∀ p ∈ d.placements, p.drawing.lines.map (shift (4 * p.level)) <+: d.lines.drop p.start := by
  induction h with
  | @mk d sound tidy visible parts ih =>
    rw [placements_eq, List.forall_mem_cons]
    constructor
    · simp [funext Text.shift_zero]
    · intro p hp
      obtain ⟨c, hc, q, hq, i, before, -, hpart, rfl⟩ :=
        exists_of_mem_placementsAmong d.separator hp
      obtain ⟨front, rear, hlines, hfront, -⟩ := sound.surrounds (List.ne_nil_of_mem hc)
      have hbody : (d.body.map (shift (4 * d.steps))).drop before <+:
          d.lines.drop (d.steps + before) := by
        rw [← List.drop_drop, hlines, ← hfront, List.append_assoc, List.drop_left]
        exact (List.prefix_append _ rear).drop before
      have hshift : q.drawing.lines.map (shift (4 * (d.steps + q.level))) =
          (q.drawing.lines.map (shift (4 * q.level))).map (shift (4 * d.steps)) := by
        simp [Function.comp_def, Nat.mul_add]
      have hinner := ((ih c hc q hq).trans (hpart.drop q.start)).map (shift (4 * d.steps))
      rw [← hshift, List.map_drop, List.map_drop] at hinner
      have houter := hinner.trans (hbody.drop q.start)
      rw [List.drop_drop] at houter
      exact houter

private theorem Drawn.stop_le (h : d.Drawn config) :
    ∀ p ∈ d.placements, p.stop ≤ d.lines.length := by
  intro p hp
  have hlength := (h.lines_of_mem p hp).length_le
  have hfilled := List.length_pos_iff.2 (h.sound_of_mem p hp).2
  rw [List.length_map, List.length_drop] at hlength
  rw [stop]
  omega

private theorem pairwise_placementsAmong {steps : Nat} (separator : List (List Char))
    {ds : List Drawing} (hds : ∀ d ∈ ds, d.placements.Pairwise Precedes ∧
      ∀ p ∈ d.placements, p.stop ≤ d.lines.length) (index start : Nat) :
    (placementsAmong steps separator.length index start ds).Pairwise Precedes := by
  induction ds generalizing index start with
  | nil => exact .nil
  | cons d rest ih =>
    obtain ⟨hd, hrest⟩ := List.forall_mem_cons.1 hds
    rw [placementsAmong, List.pairwise_append]
    refine ⟨?_, ih hrest _ _, ?_⟩
    · exact hd.1.map _ fun p q h => h.within index steps start
    · intro p hp q hq
      obtain ⟨o, ho, rfl⟩ := List.mem_map.1 hp
      obtain ⟨c, -, q, -, i, before, hi, -, rfl⟩ := exists_of_mem_placementsAmong separator hq
      have hstop := hd.2 o ho
      exact precedes_of_ne (by omega) (by omega)

private theorem Drawn.pairwise_precedes (h : d.Drawn config) : d.placements.Pairwise Precedes := by
  have hstop := h.stop_le
  induction h with
  | @mk d sound tidy visible parts ih =>
    rw [placements_eq, List.forall_mem_cons] at hstop
    rw [placements_eq, List.pairwise_cons]
    constructor
    · intro p hp
      obtain ⟨c, -, q, -, i, before, -, -, rfl⟩ := exists_of_mem_placementsAmong d.separator hp
      have hpath : [] ≠ i :: q.path := List.cons_ne_nil i q.path |>.symm
      refine Or.inl ⟨⟨List.nil_prefix, hpath⟩, Nat.zero_le _, ?_⟩
      simpa [stop] using hstop.2 _ hp
    · exact pairwise_placementsAmong d.separator
        (fun c hc => ⟨ih c hc (parts c hc).stop_le, (parts c hc).stop_le⟩) 0 d.steps

/-- Nothing that is visible is lost, doubled or moved: the drawings are those of the visible nodes
in their order, each stands in the view as it is but for its indentation, and they are nested as
their nodes are. -/
structure LaidOut (config : Config) (d : Drawing) : Prop where
  shown : d.placements.map (·.drawing.shown) = d.shown.visible config
  sound : ∀ p ∈ d.placements, p.drawing.Sound config ∧ p.drawing.lines ≠ []
  level : ∀ p ∈ d.placements,
    p.level = p.path.length + if p.path ≠ [] ∧ d.scrolls then 1 else 0
  lines : ∀ p ∈ d.placements,
    p.drawing.lines.map (shift (4 * p.level)) <+: d.lines.drop p.start
  order : d.placements.Pairwise fun p q =>
    (p.Holds q ∨ q.Holds p ↔ p.Above q ∨ q.Above p) ∧
      (¬ (p.Above q ∨ q.Above p) → p.stop ≤ q.start)

theorem Drawn.laidOut (h : d.Drawn config) : d.LaidOut config where
  shown := h.shown_placements
  sound := h.sound_of_mem
  level := h.level_of_mem
  lines := h.lines_of_mem
  order := h.pairwise_precedes.imp_of_mem fun hp hq hprecedes =>
    hprecedes.nested_iff (h.sound_of_mem _ hp).2 (h.sound_of_mem _ hq).2

end

end Drawing
end Mockup
