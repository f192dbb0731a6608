import Mathlib.Tactic.Common
import Mockup.Config
import Mockup.Snapshot.Basic

/-!
# Visible nodes

What a view shows of a snapshot: the nodes that are reached from the root through frames and
groups. A frame with an omitted name hides all it holds, and a frame drops its children with such
names; a group keeps all of its children.
-/

namespace Mockup.Snapshot

theorem induct {motive : Snapshot → Prop}
    (step : ∀ s : Snapshot, (∀ c ∈ s.children, motive c) → motive s) (s : Snapshot) :
    motive s := by
  apply step
  intro c hc
  have hlt : sizeOf c < sizeOf s := by
    cases s with
    | mk node component fillStyle cornerStyle textStyle fillVariable swaps children =>
      have h : sizeOf c < sizeOf children := List.sizeOf_lt_of_mem hc
      simp only [mk.sizeOf_spec]
      omega
  exact induct step c
termination_by sizeOf s

mutual

/-- The visible nodes of a snapshot in preorder. -/
def visible (config : Config) : Snapshot → List Snapshot
  | s@⟨n, _, _, _, _, _, _, children⟩ =>
    match n.kind with
    | .frame =>
      if config.omits n.name then [] else s :: visibleAmong config config.omits children
    | .group => s :: visibleAmong config (fun _ => false) children
    | _ => [s]

def visibleAmong (config : Config) (leavesOut : String → Bool) : List Snapshot → List Snapshot
  | [] => []
  | s :: rest =>
    if leavesOut s.name then visibleAmong config leavesOut rest
    else s.visible config ++ visibleAmong config leavesOut rest

end

/-- The children that a frame shows. -/
def shownChildren (s : Snapshot) (config : Config) : List Snapshot :=
  s.children.filter (!config.omits ·.name)

theorem visibleAmong_eq (config : Config) (leavesOut : String → Bool) (cs : List Snapshot) :
    visibleAmong config leavesOut cs =
      (cs.filter (!leavesOut ·.name)).flatMap (visible config) := by
  induction cs with
  | nil => rfl
  | cons c cs ih =>
    rw [visibleAmong, ih]
    by_cases h : leavesOut c.name = true
    · simp [h]
    · simp [h]

theorem filter_leavingNone (cs : List Snapshot) : cs.filter (fun _ => !false) = cs :=
  List.filter_eq_self.2 fun _ _ => rfl

theorem visibleAmong_all (config : Config) (cs : List Snapshot) :
    visibleAmong config (fun _ => false) cs = cs.flatMap (visible config) := by
  rw [visibleAmong_eq, filter_leavingNone]

theorem visible_eq (s : Snapshot) (config : Config) :
    s.visible config = match s.node.kind with
      | .frame =>
        if config.omits s.name then []
        else s :: (s.shownChildren config).flatMap (visible config)
      | .group => s :: s.children.flatMap (visible config)
      | _ => [s] := by
  rw [shownChildren, ← visibleAmong_eq, ← visibleAmong_all]
  cases s
  rfl

/-- The visible instances of a snapshot in preorder. -/
def visibleInstances (s : Snapshot) (config : Config) : List Snapshot :=
  (s.visible config).filter (·.node.kind == .componentInstance)

section

variable {s : Snapshot} {config : Config}

theorem visible_omitted (hk : s.node.kind = .frame) (ho : config.omits s.name = true) :
    s.visible config = [] := by
  rw [visible_eq, hk]
  exact if_pos ho

theorem visible_frame (hk : s.node.kind = .frame) (ho : config.omits s.name = false) :
    s.visible config = s :: (s.shownChildren config).flatMap (visible config) := by
  rw [visible_eq, hk]
  exact if_neg (by simp [ho])

theorem visible_group (hk : s.node.kind = .group) :
    s.visible config = s :: s.children.flatMap (visible config) := by
  rw [visible_eq, hk]

theorem forall_visible_frame {p : Snapshot → Prop} (hk : s.node.kind = .frame)
    (ho : config.omits s.name = false) (h : ∀ v ∈ s.visible config, p v) :
    p s ∧ ∀ c ∈ s.shownChildren config, ∀ v ∈ c.visible config, p v := by
  rw [visible_frame hk ho, List.forall_mem_cons] at h
  exact ⟨h.1, fun c hc v hv => h.2 v (List.mem_flatMap.2 ⟨c, hc, hv⟩)⟩

theorem forall_visible_group {p : Snapshot → Prop} (hk : s.node.kind = .group)
    (h : ∀ v ∈ s.visible config, p v) :
    p s ∧ ∀ c ∈ s.children, ∀ v ∈ c.visible config, p v := by
  rw [visible_group hk, List.forall_mem_cons] at h
  exact ⟨h.1, fun c hc v hv => h.2 v (List.mem_flatMap.2 ⟨c, hc, hv⟩)⟩

theorem visible_instance (hk : s.node.kind = .componentInstance) : s.visible config = [s] := by
  rw [visible_eq, hk]

theorem visibleInstances_omitted (hk : s.node.kind = .frame) (ho : config.omits s.name = true) :
    s.visibleInstances config = [] := by
  rw [visibleInstances, visible_omitted hk ho, List.filter_nil]

theorem visibleInstances_frame (hk : s.node.kind = .frame) (ho : config.omits s.name = false) :
    s.visibleInstances config = (s.shownChildren config).flatMap (visibleInstances · config) := by
  rw [visibleInstances, visible_frame hk ho]
  simp [hk, List.filter_flatMap, visibleInstances]

theorem visibleInstances_group (hk : s.node.kind = .group) :
    s.visibleInstances config = s.children.flatMap (visibleInstances · config) := by
  rw [visibleInstances, visible_group hk]
  simp [hk, List.filter_flatMap, visibleInstances]

theorem visibleInstances_instance (hk : s.node.kind = .componentInstance) :
    s.visibleInstances config = [s] := by
  rw [visibleInstances, visible_instance hk]
  simp [hk]

end

end Mockup.Snapshot
