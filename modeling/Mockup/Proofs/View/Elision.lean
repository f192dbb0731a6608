import Mockup.Proofs.View.Likeness
import Mockup.Proofs.View.Marks

/-!
# Omitted children

What becomes of a child with an omitted name. A frame drops it whatever it is, a group only when it
is a frame itself.
-/

namespace Mockup

open Swift (marks)

namespace Composition

variable {config : Config}

private theorem exec_nodes_append (config : Config) (parent : Node) (leavesOut : String → Bool)
    (cs ds : List Snapshot) (p : Progress) :
    exec (nodes config parent leavesOut (cs ++ ds)) p =
      match exec (nodes config parent leavesOut cs) p with
      | (.error fault, q) => (.error fault, q)
      | (.ok parts, q) =>
        let outcome := exec (nodes config parent leavesOut ds) q
        (outcome.1.map (parts ++ ·), outcome.2) := by
  have hnil (r : Except WidgetFault (List String) × Progress) :
      (r.1.map ([] ++ ·), r.2) = r := by
    rcases r with ⟨_ | parts, q⟩ <;> rfl
  induction cs generalizing p with
  | nil => exact (hnil _).symm
  | cons c cs ih =>
    rw [List.cons_append, exec_nodes_cons, exec_nodes_cons]
    split
    · exact ih p
    · rcases exec (node config (some parent) c) p with ⟨fault | text, q⟩
      · rfl
      · dsimp only
        rw [ih]
        rcases exec (nodes config parent leavesOut cs) q with ⟨fault | parts, q⟩
        · rfl
        · dsimp only [Except.map]
          cases (exec (nodes config parent leavesOut ds) q).1 <;> rfl

private theorem exists_of_nodes_append {parent : Node} {leavesOut : String → Bool}
    {cs ds : List Snapshot} {p : Progress} {parts : List String}
    (h : (exec (nodes config parent leavesOut (cs ++ ds)) p).1 = .ok parts) :
    ∃ front q rest, exec (nodes config parent leavesOut cs) p = (.ok front, q) ∧
      (exec (nodes config parent leavesOut ds) q).1 = .ok rest ∧ front ++ rest = parts := by
  rw [exec_nodes_append] at h
  rcases hcs : exec (nodes config parent leavesOut cs) p with ⟨fault | front, q⟩
  · rw [hcs] at h
    cases h
  · rw [hcs] at h
    obtain ⟨rest, hrest, hparts⟩ := map_eq_ok_iff.1 h
    exact ⟨front, q, rest, rfl, hrest, hparts⟩

private theorem exists_of_nodes_cons {parent : Node} {c : Snapshot} {cs : List Snapshot}
    {p : Progress}
    {parts : List String}
    (h : (exec (nodes config parent (fun _ => false) (c :: cs)) p).1 = .ok parts) :
    ∃ text q rest, exec (node config (some parent) c) p = (.ok text, q) ∧
      (exec (nodes config parent (fun _ => false) cs) q).1 = .ok rest ∧ text :: rest = parts := by
  rw [exec_nodes_cons, if_neg Bool.false_ne_true] at h
  rcases hc : exec (node config (some parent) c) p with ⟨fault | text, q⟩
  · rw [hc] at h
    cases h
  · rw [hc] at h
    obtain ⟨rest, hrest, hparts⟩ := map_eq_ok_iff.1 h
    exact ⟨text, q, rest, rfl, hrest, hparts⟩

theorem likens_same (config : Config) :
    Likens config fun parent s other t => other = parent ∧ t = s where
  kind := by
    rintro parent s _ _ ⟨rfl, rfl⟩
    rfl
  name := by
    rintro parent s _ _ ⟨rfl, rfl⟩
    rfl
  alike := by
    rintro parent s _ _ ⟨rfl, rfl⟩ _
    exact ⟨rfl, rfl, rfl, rfl, rfl, rfl, rfl, rfl, rfl, rfl, rfl⟩
  frame := by
    rintro parent s _ _ ⟨rfl, rfl⟩ _ _
    exact List.forall₂_same.2 fun _ _ => ⟨rfl, rfl⟩
  group := by
    rintro parent s _ _ ⟨rfl, rfl⟩ _
    exact List.forall₂_same.2 fun _ _ => ⟨rfl, rfl⟩
  widget := by
    rintro parent s _ _ ⟨rfl, rfl⟩ _
    exact ⟨rfl, fun _ _ => ⟨rfl, rfl⟩⟩

/-- What nodes are composed to depends on the state alone of what is collected. -/
theorem outcome_nodes_of_state (config : Config) (parent : Node) (cs : List Snapshot)
    {p q : Progress} (h : q.state = p.state) :
    outcome (exec (nodes config parent (fun _ => false) cs) q) =
      outcome (exec (nodes config parent (fun _ => false) cs) p) := by
  refine outcome_nodes_congr (List.forall₂_same.2 fun c _ p q hstate => ?_) h
  exact (likens_same config).outcome_node ⟨rfl, rfl⟩ hstate

/-- A place among the children of a container, and what is collected before the container. -/
structure Place where
  parent : Option Node
  container : Snapshot
  before : List Snapshot
  after : List Snapshot
  progress : Progress

namespace Place

/-- The container with the place taken or left empty. -/
def filled (place : Place) (child : Option Snapshot) : Snapshot :=
  { place.container with children := place.before ++ child.toList ++ place.after }

/-- What the container is composed to. -/
def composed (config : Config) (place : Place) (child : Option Snapshot) :
    Except WidgetFault String × ModelState :=
  outcome (exec (node config place.parent (place.filled child)) place.progress)

/-- A child leaves nothing in the text and nothing in the state. -/
def Drops (config : Config) (place : Place) (s : Snapshot) : Prop :=
  place.composed config (some s) = place.composed config none

variable {place : Place} {s : Snapshot}

theorem composed_frame (hk : place.container.node.kind = .frame)
    (ho : config.omits place.container.name = false) (child : Option Snapshot) :
    place.composed config child =
      let parts := exec (nodes config place.container.node config.omits
        (place.before ++ child.toList ++ place.after))
        ((place.progress.add (.entered .frame place.container.name)).add
          (.aligned place.container.name (place.container.node.rowRole place.parent)))
      outcome (parts.1.map (place.container.frameFragment place.parent), parts.2) := by
  have hshown : ¬ config.omits (place.filled child).name = true := by
    rw [filled]
    exact Bool.eq_false_iff.1 ho
  have hkind : (place.filled child).node.kind = .frame := hk
  rw [composed, exec_node, hkind]
  simp only [if_neg hshown]
  rfl

private theorem composed_group (hk : place.container.node.kind = .group) (child : Option Snapshot) :
    place.composed config child =
      let parts := exec (nodes config place.container.node (fun _ => false)
        (place.before ++ child.toList ++ place.after))
        (place.progress.add (.entered .group place.container.name))
      outcome (parts.1.map (Snapshot.groupFragment place.container.name), parts.2) := by
  have hkind : (place.filled child).node.kind = .group := hk
  rw [composed, exec_node, hkind]
  rfl

private theorem drops_of_frame (hk : place.container.node.kind = .frame)
    (ho : config.omits place.container.name = false) (hs : config.omits s.name = true) :
    place.Drops config s := by
  have hkept : (place.before ++ (some s).toList ++ place.after).filter (!config.omits ·.name) =
      (place.before ++ none.toList ++ place.after).filter (!config.omits ·.name) := by
    simp [hs]
  rw [Drops, composed_frame hk ho, composed_frame hk ho, exec_nodes_filter, hkept,
    ← exec_nodes_filter]

/-- An omitted frame gives a group an empty part and keeps the state. -/
theorem drops_of_group (hk : place.container.node.kind = .group)
    (hs : config.omits s.name = true) (hframe : s.node.kind = .frame) :
    place.Drops config s := by
  have hskip (p : Progress) : exec (node config (some place.container.node) s) p =
      (.ok "", (p.add (.entered .frame s.name)).add (.skipped s.name)) := by
    rw [exec_node, hframe]
    exact if_pos hs
  have hempty (parts rest : List String) : Snapshot.groupFragment place.container.name
      (parts ++ "" :: rest) = Snapshot.groupFragment place.container.name (parts ++ rest) := by
    simp [Snapshot.groupFragment, Fragment.block, List.filter_append]
  rw [Drops, composed_group hk, composed_group hk, Option.toList_some, Option.toList_none,
    List.append_nil, List.append_assoc, List.singleton_append, exec_nodes_append,
    exec_nodes_append]
  rcases exec (nodes config place.container.node (fun _ => false) place.before)
    (place.progress.add (.entered .group place.container.name)) with ⟨fault | parts, q⟩
  · rfl
  · have hrest := outcome_nodes_of_state config place.container.node place.after
      (p := q) (q := (q.add (.entered .frame s.name)).add (.skipped s.name)) rfl
    have hwhole := outcome_map hrest fun rest =>
      Snapshot.groupFragment place.container.name (parts ++ rest)
    simp only [exec_nodes_cons, hskip, Bool.false_eq_true, if_false, except_map_map, hempty]
    exact hwhole

/-- A child that is no frame leaves a mark in a group, or stops its composition. -/
theorem not_drops_of_group (hk : place.container.node.kind = .group)
    (hok : (place.composed config none).1.isOk) (hs : s.node.kind ≠ .frame) :
    ¬ place.Drops config s := by
  intro hdrops
  obtain ⟨view, hview⟩ := exists_ok_of_isOk hok
  have hfilled : (place.composed config (some s)).1 = .ok view := by
    rw [hdrops]
    exact hview
  rw [composed_group hk] at hview hfilled
  obtain ⟨parts, hparts, hgroup⟩ := map_eq_ok_iff.1 hview
  obtain ⟨others, hothers, hsame⟩ := map_eq_ok_iff.1 hfilled
  rw [Option.toList_none, List.append_nil] at hparts
  rw [Option.toList_some, List.append_assoc, List.singleton_append] at hothers
  obtain ⟨front, q, rest, hfront, hrest, rfl⟩ := exists_of_nodes_append hparts
  obtain ⟨front', q', behind, hfront', hbehind, rfl⟩ := exists_of_nodes_append hothers
  rw [hfront] at hfront'
  cases hfront'
  obtain ⟨text, after, rest', htext, hrest', rfl⟩ := exists_of_nodes_cons hbehind
  have hmark := Composed.marks_ne_nil ⟨q, after, htext, rfl, rfl⟩ hs
  have hmarks : (exec (nodes config place.container.node (fun _ => false) place.after) q).1.map
      (List.map marks) = (exec (nodes config place.container.node (fun _ => false) place.after)
      after).1.map (List.map marks) :=
    marks_nodes _ (fun c _ => marks_node config _ c) q after
  rw [hrest, hrest'] at hmarks
  have hrests : rest.map marks = rest'.map marks := Except.ok.inj hmarks
  have hlength := congrArg (fun view => (marks view).length) (hgroup.trans hsame.symm)
  simp only [Snapshot.marks_groupFragment, List.map_append, List.map_cons, List.flatten_append,
    List.flatten_cons, List.length_append, List.length_cons, hrests] at hlength
  have hpositive := List.length_pos_iff.2 hmark
  omega

end Place

/-- A child with an omitted name is dropped by every frame that is shown, and by a group just when
it is a frame. Frames and groups drop the same only of frames. -/
theorem drops_alike_iff {frame group : Place} {s : Snapshot}
    (hframe : frame.container.node.kind = .frame)
    (hshown : config.omits frame.container.name = false)
    (hgroup : group.container.node.kind = .group)
    (hcomposed : (group.composed config none).1.isOk) (hs : config.omits s.name = true) :
    frame.Drops config s ∧ (group.Drops config s ↔ s.node.kind = .frame) ∧
      ((frame.Drops config s ↔ group.Drops config s) ↔ s.node.kind = .frame) := by
  have hdropped : frame.Drops config s := Place.drops_of_frame hframe hshown hs
  have hgroup_iff : group.Drops config s ↔ s.node.kind = .frame := by
    constructor
    · intro hdrops
      by_contra hkind
      exact Place.not_drops_of_group hgroup hcomposed hkind hdrops
    · intro hkind
      exact Place.drops_of_group hgroup hs hkind
  refine ⟨hdropped, hgroup_iff, ?_⟩
  rw [iff_true_left hdropped, hgroup_iff]

/-- A place above a rule, in a card that is a frame or a group. -/
private def cardPlace (kind : NodeKind) : Place where
  parent := none
  container := { node := { id := ⟨"0"⟩, kind, name := "Card" } }
  before := []
  after := [{ node := { id := ⟨"1"⟩, kind := .line, name := "Rule" } }]
  progress := { state := default }

private def omittedCheckbox : Snapshot where
  node := { id := ⟨"2"⟩, kind := .componentInstance, name := "Top App Bar" }
  component := some ⟨"153:1", "Checkbox"⟩

private def omittedBar : Snapshot where
  node := { id := ⟨"3"⟩, kind := .frame, name := "Top App Bar" }
  children := [omittedCheckbox]

theorem drops_alike_omittedBar :
    (cardPlace .frame).Drops {} omittedBar ∧ (cardPlace .group).Drops {} omittedBar := by
  have hcomposed : ((cardPlace .group).composed {} none).1.isOk := by decide +kernel
  obtain ⟨hframe, hgroup, -⟩ : (cardPlace .frame).Drops {} omittedBar ∧ _ ∧ _ :=
    drops_alike_iff rfl (by decide) rfl hcomposed (by decide)
  exact ⟨hframe, hgroup.2 rfl⟩

/-- A checkbox with the name of an omitted frame is dropped by a frame and kept by a group. -/
theorem drops_unlike_omittedCheckbox :
    Config.omits {} omittedCheckbox.name = true ∧
      (cardPlace .frame).Drops {} omittedCheckbox ∧
      ¬ (cardPlace .group).Drops {} omittedCheckbox ∧
      ((cardPlace .frame).composed {} (some omittedCheckbox)).2.hasCheckbox = false ∧
      ((cardPlace .group).composed {} (some omittedCheckbox)).2.hasCheckbox = true := by
  refine ⟨by decide, ?_, ?_, by decide +kernel, by decide +kernel⟩
  · exact Place.drops_of_frame rfl (by decide) (by decide)
  · exact Place.not_drops_of_group rfl (by decide +kernel) (by decide)

end Composition

end Mockup
