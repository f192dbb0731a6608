import Mathlib.Data.List.TakeWhile
import Mockup.Proofs.View.Binding
import Mockup.Proofs.View.Faults
import Mockup.Proofs.View.Standing

/-!
# Fresh bindings

A text field without letters and digits in its label gets a name that no field before it has. This
is so in every composition, which goes as far as the first instance that lacks a part.
-/

namespace Mockup

open Fragment (StandsIn)
open Text (Closed)

namespace Snapshot

variable {config : Config}

/-- The visible instances before the first one that lacks a part. -/
def metInstances (s : Snapshot) (config : Config) : List Snapshot :=
  (s.visibleInstances config).takeWhile fun i => (i.fault? config).isNone

private theorem metInstances_eq_self {s : Snapshot}
    (h : (s.visibleInstances config).findSome? (·.fault? config) = none) :
    s.metInstances config = s.visibleInstances config := by
  rw [metInstances, List.takeWhile_eq_self_iff]
  intro i hi
  rw [List.findSome?_eq_none_iff.1 h i hi]
  rfl

theorem effect_of_fault {s : Snapshot} (h : (s.fault? config).isSome) (state : ModelState) :
    effect config state s = state := by
  rw [← faulty_iff, Faulty] at h
  rw [effect]
  cases hk : s.widgetKind config.components <;> simp_all

end Snapshot

private theorem takeWhile_isNone_append {α β : Type} (f : α → Option β) (as bs : List α) :
    (as ++ bs).takeWhile (fun a => (f a).isNone) =
      if (as.findSome? f).isSome then as.takeWhile fun a => (f a).isNone
      else as ++ bs.takeWhile fun a => (f a).isNone := by
  induction as with
  | nil => rfl
  | cons a as ih =>
    cases ha : f a with
    | some b => simp [ha]
    | none =>
      rw [List.cons_append, List.takeWhile_cons_of_pos (by simp [ha]), ih, List.findSome?_cons, ha,
        List.takeWhile_cons_of_pos (by simp [ha])]
      split <;> rfl

namespace Composition

private theorem state_exec_nodes (config : Config) (parent : Node) (leavesOut : String → Bool)
    {cs : List Snapshot}
    (h : ∀ c ∈ cs, ∀ p, (exec (node config (some parent) c) p).2.state =
      (c.metInstances config).foldl (Snapshot.effect config) p.state) (p : Progress) :
    (exec (nodes config parent leavesOut cs) p).2.state =
      (((cs.filter (!leavesOut ·.name)).flatMap (Snapshot.visibleInstances · config)).takeWhile
        fun i => (i.fault? config).isNone).foldl (Snapshot.effect config) p.state := by
  induction cs generalizing p with
  | nil => rfl
  | cons c cs ih =>
    have hcs := ih fun d hd => h d (List.mem_cons_of_mem c hd)
    rw [exec_nodes_cons]
    by_cases hc : leavesOut c.name = true
    · rw [if_pos hc, List.filter_cons_of_neg (by simpa using hc)]
      exact hcs p
    · have hstate := h c List.mem_cons_self p
      have hfault := faultOf?_exec_node config (some parent) c p
      rw [if_neg hc, List.filter_cons_of_pos (by simpa using hc), List.flatMap_cons,
        takeWhile_isNone_append, ← hfault]
      rcases hnode : exec (node config (some parent) c) p with ⟨fault | text, q⟩
      · rw [hnode] at hstate
        exact hstate
      · rw [hnode] at hstate hfault
        have hall : c.metInstances config = c.visibleInstances config :=
          Snapshot.metInstances_eq_self hfault.symm
        rw [hall] at hstate
        have hnone : ¬ (faultOf? (.ok text : Except WidgetFault String)).isSome = true := by
          simp [faultOf?]
        rw [if_neg hnone, List.foldl_append, ← hstate]
        exact hcs q

/-- A composition goes as far as the first instance that lacks a part. -/
theorem state_exec_node (config : Config) (parent : Option Node) (s : Snapshot) (p : Progress) :
    (exec (node config parent s) p).2.state =
      (s.metInstances config).foldl (Snapshot.effect config) p.state := by
  induction s using Snapshot.induct generalizing parent p with
  | step s ih =>
    rw [exec_node]
    cases hk : s.node.kind with
    | frame =>
      dsimp only
      by_cases ho : config.omits s.name = true
      · rw [if_pos ho, Snapshot.metInstances, Snapshot.visibleInstances_omitted hk ho]
        rfl
      · rw [if_neg ho, Snapshot.metInstances,
          Snapshot.visibleInstances_frame hk (by simpa using ho)]
        exact state_exec_nodes config s.node _ (fun c hc => ih c hc (some s.node)) _
    | group =>
      dsimp only
      rw [Snapshot.metInstances, Snapshot.visibleInstances_group hk,
        state_exec_nodes config s.node _ (fun c hc => ih c hc (some s.node)),
        Snapshot.filter_leavingNone]
      rfl
    | componentInstance =>
      dsimp only
      rw [Snapshot.metInstances, Snapshot.visibleInstances_instance hk, exec_widget]
      change Widget.record (s.widgetKind config.components) s p.state = _
      rw [← Snapshot.effect_eq_record, List.takeWhile_cons, List.takeWhile_nil]
      cases hfault : s.fault? config with
      | some fault =>
        have hsome : (s.fault? config).isSome := by rw [hfault, Option.isSome_some]
        rw [Snapshot.effect_of_fault hsome]
        rfl
      | none => rfl
    | _ =>
      obtain ⟨text, hleaf⟩ : ∃ text, s.leafFragment? parent = some text :=
        ⟨_, by rw [Snapshot.leafFragment?, hk]⟩
      rw [Snapshot.metInstances, Snapshot.visibleInstances_leaf hleaf]
      rfl

/-- An instance is composed by its widget. -/
theorem Composed.fragment_eq {config : Config} {parent : Option Node} {i : Snapshot}
    {before after : ModelState} {view : String} (h : Composed config parent i before view after)
    (hk : i.node.kind = .componentInstance) :
    Widget.fragment (i.widgetKind config.components) i parent before = .ok view := by
  obtain ⟨p, q, hexec, rfl, -⟩ := h
  rw [exec_node, hk] at hexec
  dsimp only at hexec
  rw [exec_widget] at hexec
  exact congrArg Prod.fst hexec

end Composition

namespace Widget

private theorem closed_inputField (s : Snapshot) (binding : String) :
    Closed (inputField s binding) := by
  have hend : Closed ")" := Text.closed_of_oneLine (by decide) (by decide)
  have hsplit (front : String) : front ++ "\n)" = front ++ "\n" ++ ")" := by
    rw [String.append_assoc]
    rfl
  rw [inputField, Fragment.call, hsplit]
  exact hend.under _

/-- A text field whose label has no letter and no digit. -/
def Unlabelled (s : Snapshot) : Prop :=
  ∀ ch ∈ (s.node.slot "Text").toList, ch.isAlphanum = false

private theorem fieldBinding_of_unlabelled {s : Snapshot} (h : Unlabelled s) (state : ModelState) :
    fieldBinding s state = state.freshBinding := by
  have hempty : Text.camelCase (s.node.slot "Text") = "" := by
    rw [Text.camelCase_eq_empty_iff, List.find?_eq_none]
    intro ch hch
    rw [h ch hch]
    decide
  rw [fieldBinding]
  split
  · rfl
  · contradiction

private theorem fieldBinding_notMem {s : Snapshot} (h : Unlabelled s) (state : ModelState) :
    fieldBinding s state ∉ state.bindings := by
  rw [fieldBinding_of_unlabelled h]
  exact state.freshBinding_notMem

end Widget

namespace Snapshot

variable {config : Config}

private theorem bindings_subset_effect (state : ModelState) (s : Snapshot) :
    state.bindings ⊆ (effect config state s).bindings := by
  rw [bindings_effect]
  split
  · rw [ModelState.bindings_addBinding]
    split
    · exact List.Subset.refl _
    · exact List.subset_append_left _ _
  · exact List.Subset.refl _

private theorem fieldBinding_mem_effect {s : Snapshot}
    (hk : s.widgetKind config.components = .inputField) (state : ModelState) :
    Widget.fieldBinding s state ∈ (effect config state s).bindings := by
  rw [bindings_effect, if_pos hk, ModelState.bindings_addBinding]
  split
  · next hmem => exact hmem
  · exact List.mem_append_right _ (List.mem_singleton_self _)

theorem bindings_subset_of_mem_encounters {is : List Snapshot} {state : ModelState}
    {e : Snapshot × ModelState} (he : e ∈ encounters (effect config) state is) :
    state.bindings ⊆ e.2.bindings := by
  induction is generalizing state with
  | nil => cases he
  | cons i is ih =>
    rw [encounters, List.mem_cons] at he
    rcases he with rfl | he
    · exact List.Subset.refl _
    · exact List.Subset.trans (bindings_subset_effect state i) (ih he)

/-- Whatever a text field is bound to, the instances behind it meet as a binding. -/
theorem pairwise_encounters (is : List Snapshot) (state : ModelState) :
    (encounters (effect config) state is).Pairwise fun a b =>
      a.1.widgetKind config.components = .inputField →
        Widget.fieldBinding a.1 a.2 ∈ b.2.bindings := by
  induction is generalizing state with
  | nil => exact .nil
  | cons i is ih =>
    rw [encounters, List.pairwise_cons]
    refine ⟨?_, ih _⟩
    intro b hb hk
    exact bindings_subset_of_mem_encounters hb (fieldBinding_mem_effect hk state)

end Snapshot

open Widget (Unlabelled fieldBinding)

theorem Composer.metInstances_of_compose {c : Composer} {s : Snapshot} {view : String}
    (h : (c.compose s).1 = .ok view) : s.metInstances c.config = s.visibleInstances c.config := by
  apply Snapshot.metInstances_eq_self
  rw [← c.faultOf?_compose, h]
  rfl

/-- A text field stands in the view with the binding that it gets from the state it meets. -/
theorem Composer.standsIn_inputField {c : Composer} {s : Snapshot} {view : String}
    (h : (c.compose s).1 = .ok view) {e : Snapshot × ModelState}
    (he : e ∈ encounters (Snapshot.effect c.config) {} (s.visibleInstances c.config))
    (hkind : e.1.widgetKind c.config.components = .inputField) :
    ∃ depth, StandsIn depth (Widget.inputField e.1 (fieldBinding e.1 e.2)) view := by
  obtain ⟨parent, text, after, hcomposed, hstands⟩ :=
    (c.composed s h).appears e (mem_encounters_filter he)
  have hinstance : e.1.node.kind = .componentInstance := by
    simpa using (List.mem_filter.1 (mem_of_mem_encounters he)).2
  have htext := hcomposed.fragment_eq hinstance
  rw [hkind] at htext
  obtain rfl := Except.ok.inj htext
  exact hstands (Widget.closed_inputField _ _)

/-- Names for text fields without a label: the least number behind the count of bindings that is
free, which is found without going further than to twice the count and one. Where such a field is
composed, no binding has the name yet, so it differs from those of all fields before it. -/
theorem Composer.compose_freshBinding (c : Composer) (s : Snapshot) :
    let met := s.metInstances c.config
    let fields := (encounters (Snapshot.effect c.config) {} met).filter
      fun e => e.1.widgetKind c.config.components == .inputField
    (∀ state : ModelState, ∃ n ≤ 2 * state.bindings.length + 1,
      IsLeast state.freeNumbers n ∧ state.freshBinding = ModelState.numberedBinding n ∧
      ∀ tries, n ≤ state.bindings.length + tries →
        state.firstFree? tries = some state.freshBinding) ∧
    (c.compose s).2.state = met.foldl (Snapshot.effect c.config) {} ∧
    (∀ view, (c.compose s).1 = .ok view → met = s.visibleInstances c.config ∧
      ∀ e ∈ fields, ∃ depth,
        StandsIn depth (Widget.inputField e.1 (fieldBinding e.1 e.2)) view) ∧
    (∀ e ∈ fields, Unlabelled e.1 → fieldBinding e.1 e.2 = e.2.freshBinding ∧
      fieldBinding e.1 e.2 ∉ e.2.bindings) ∧
    fields.Pairwise fun a b => fieldBinding a.1 a.2 ∈ b.2.bindings ∧
      (Unlabelled b.1 → fieldBinding b.1 b.2 ≠ fieldBinding a.1 a.2) := by
  intro met fields
  have hkind (e : Snapshot × ModelState) (he : e ∈ fields) :
      e.1.widgetKind c.config.components = .inputField := by
    simpa using (List.mem_filter.1 he).2
  refine ⟨?search, ?state, ?placed, ?fresh, ?apart⟩
  case search =>
    intro state
    obtain ⟨n, hn, hleast⟩ := state.exists_isLeast_freeNumbers
    have hname := ModelState.freshBinding_eq hleast hn
    refine ⟨n, hn, hleast, hname, ?_⟩
    intro tries htries
    rw [hname]
    exact ModelState.firstFree?_eq hleast htries
  case state => exact Composition.state_exec_node c.config none s _
  case placed =>
    intro view h
    have hall : met = s.visibleInstances c.config := Composer.metInstances_of_compose h
    refine ⟨hall, ?_⟩
    intro e he
    have hmet : e ∈ encounters (Snapshot.effect c.config) {} (s.visibleInstances c.config) :=
      hall ▸ (List.mem_filter.1 he).1
    exact Composer.standsIn_inputField h hmet (hkind e he)
  case fresh =>
    intro e _ hlabel
    exact ⟨Widget.fieldBinding_of_unlabelled hlabel e.2, Widget.fieldBinding_notMem hlabel e.2⟩
  case apart =>
    have hbound : fields.Pairwise fun a b =>
        a.1.widgetKind c.config.components = .inputField → fieldBinding a.1 a.2 ∈ b.2.bindings :=
      (Snapshot.pairwise_encounters met {}).filter _
    refine hbound.imp_of_mem ?_
    intro a b ha _ h
    have hmem := h (hkind a ha)
    refine ⟨hmem, ?_⟩
    intro hlabel hshared
    rw [← hshared] at hmem
    exact Widget.fieldBinding_notMem hlabel b.2 hmem

end Mockup
