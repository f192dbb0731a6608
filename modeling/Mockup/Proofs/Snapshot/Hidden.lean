import Mockup.Proofs.Snapshot.Visible

/-!
# Hidden nodes

What a view leaves of a snapshot unseen. The parts that it leaves out hold the nodes that are not
visible, and no others.
-/

namespace Mockup

/-- A list falls into what is kept, in its order, and the rest. -/
structure Splits {α : Type} (whole kept rest : List α) : Prop where
  sublist : kept.Sublist whole
  perm : whole.Perm (kept ++ rest)

namespace Splits

variable {α : Type} {whole kept rest : List α}

private theorem nothing (whole : List α) : Splits whole [] whole :=
  ⟨List.nil_sublist _, .refl _⟩

private theorem cons (a : α) (h : Splits whole kept rest) : Splits (a :: whole) (a :: kept) rest :=
  ⟨h.sublist.cons_cons a, h.perm.cons a⟩

private theorem append {whole' kept' rest' : List α} (h : Splits whole kept rest)
    (h' : Splits whole' kept' rest') :
    Splits (whole ++ whole') (kept ++ kept') (rest ++ rest') := by
  refine ⟨h.sublist.append h'.sublist, (h.perm.append h'.perm).trans ?_⟩
  rw [List.append_assoc, List.append_assoc]
  apply List.Perm.append_left
  rw [← List.append_assoc, ← List.append_assoc]
  exact List.perm_append_comm.append_right rest'

private theorem filter (test : α → Bool) (h : Splits whole kept rest) :
    Splits (whole.filter test) (kept.filter test) (rest.filter test) := by
  refine ⟨h.sublist.filter test, ?_⟩
  rw [← List.filter_append]
  exact h.perm.filter test

theorem map {β : Type} (f : α → β) (h : Splits whole kept rest) :
    Splits (whole.map f) (kept.map f) (rest.map f) := by
  refine ⟨h.sublist.map f, ?_⟩
  rw [← List.map_append]
  exact h.perm.map f

theorem eq_iff (h : Splits whole kept rest) : whole = kept ↔ rest = [] := by
  have hlength := h.perm.length_eq
  rw [List.length_append] at hlength
  constructor
  · intro heq
    rw [heq] at hlength
    apply List.eq_nil_of_length_eq_zero
    omega
  · intro hrest
    symm
    apply h.sublist.eq_of_length
    simp [hlength, hrest]

end Splits

namespace Snapshot

mutual

/-- The largest parts of a snapshot in which no node is visible: frames with omitted names, what
frames drop, and what is below nodes that are neither frames nor groups. -/
def leftOut (config : Config) : Snapshot → List Snapshot
  | s@⟨n, _, _, _, _, _, _, children⟩ =>
    match n.kind with
    | .frame => if config.omits n.name then [s] else leftOutAmong config config.omits children
    | .group => leftOutAmong config (fun _ => false) children
    | _ => children

def leftOutAmong (config : Config) (leavesOut : String → Bool) : List Snapshot → List Snapshot
  | [] => []
  | s :: rest =>
    if leavesOut s.name then s :: leftOutAmong config leavesOut rest
    else s.leftOut config ++ leftOutAmong config leavesOut rest

end

/-- All instances of a snapshot in preorder. -/
def instances (s : Snapshot) : List Snapshot :=
  s.preorder.filter (·.node.kind == .componentInstance)

private theorem preorder_eq (s : Snapshot) : s.preorder = s :: s.children.flatMap preorder := by
  have hall (cs : List Snapshot) : preorderAll cs = cs.flatMap preorder := by
    induction cs with
    | nil => rfl
    | cons c cs ih => rw [preorderAll, ih, List.flatMap_cons]
  rw [← hall]
  cases s
  rfl

private theorem leftOut_eq (s : Snapshot) (config : Config) :
    s.leftOut config = match s.node.kind with
      | .frame =>
        if config.omits s.name then [s] else leftOutAmong config config.omits s.children
      | .group => leftOutAmong config (fun _ => false) s.children
      | _ => s.children := by
  cases s
  rfl

theorem splits_among {config : Config} (leavesOut : String → Bool) {cs : List Snapshot}
    (h : ∀ c ∈ cs, Splits c.preorder (c.visible config) ((c.leftOut config).flatMap preorder)) :
    Splits (cs.flatMap preorder) (visibleAmong config leavesOut cs)
      ((leftOutAmong config leavesOut cs).flatMap preorder) := by
  induction cs with
  | nil => exact .nothing []
  | cons c cs ih =>
    rw [List.forall_mem_cons] at h
    rw [visibleAmong, leftOutAmong, List.flatMap_cons]
    by_cases hc : leavesOut c.name = true
    · rw [if_pos hc, if_pos hc, List.flatMap_cons]
      exact (Splits.nothing c.preorder).append (ih h.2)
    · rw [if_neg hc, if_neg hc, List.flatMap_append]
      exact h.1.append (ih h.2)

/-- The nodes of a snapshot are the visible ones and those of the parts that are left out. -/
theorem splits_preorder (s : Snapshot) (config : Config) :
    Splits s.preorder (s.visible config) ((s.leftOut config).flatMap preorder) := by
  induction s using Snapshot.induct with
  | step s ih =>
    have hleaf : Splits s.preorder [s] (s.children.flatMap preorder) := by
      rw [preorder_eq]
      exact (Splits.nothing _).cons s
    have hcontainer (leavesOut : String → Bool) :
        Splits s.preorder (s :: visibleAmong config leavesOut s.children)
          ((leftOutAmong config leavesOut s.children).flatMap preorder) := by
      rw [preorder_eq]
      exact (splits_among leavesOut ih).cons s
    rw [leftOut_eq]
    cases hk : s.node.kind with
    | frame =>
      by_cases ho : config.omits s.name = true
      · rw [visible_omitted hk ho]
        simpa [ho] using Splits.nothing s.preorder
      · rw [visible_frame hk (by simpa using ho), shownChildren, ← visibleAmong_eq]
        simpa [ho] using hcontainer config.omits
    | group =>
      rw [visible_group hk, ← visibleAmong_all]
      exact hcontainer fun _ => false
    | _ =>
      rw [visible_eq, hk]
      exact hleaf

theorem splits_instances (s : Snapshot) (config : Config) :
    Splits s.instances (s.visibleInstances config) ((s.leftOut config).flatMap instances) := by
  have h := (s.splits_preorder config).filter (·.node.kind == .componentInstance)
  rw [List.filter_flatMap] at h
  exact h

end Snapshot

end Mockup
