import Mockup.Proofs.View.Composed

/-!
# State of a composed view

The state that a composition leaves is what the visible instances record, one after the other,
from the empty state on. From this follow its parts.
-/

namespace Mockup

namespace Snapshot

/-- What an instance does to the state of its view: a segmented control replaces the labels, a text
field adds its binding unless it is there, a checkbox is remembered. -/
def effect (config : Config) (state : ModelState) (s : Snapshot) : ModelState :=
  match s.widgetKind config.components with
  | .segmentedControl => { state with segments := s.node.segmentLabels }
  | .inputField => state.addBinding (Widget.fieldBinding s state)
  | .checkbox => { state with hasCheckbox := true }
  | _ => state

theorem effect_eq_record (config : Config) (state : ModelState) (s : Snapshot) :
    effect config state s = Widget.record (s.widgetKind config.components) s state := by
  rw [effect, Widget.record.eq_def]
  cases s.widgetKind config.components <;> rfl

end Snapshot

namespace ModelState

theorem bindings_addBinding (state : ModelState) (name : String) :
    (state.addBinding name).bindings =
      if name ∈ state.bindings then state.bindings else state.bindings ++ [name] := by
  rw [addBinding]
  split <;> rfl

private theorem segments_addBinding (state : ModelState) (name : String) :
    (state.addBinding name).segments = state.segments := by
  rw [addBinding]
  split <;> rfl

private theorem hasCheckbox_addBinding (state : ModelState) (name : String) :
    (state.addBinding name).hasCheckbox = state.hasCheckbox := by
  rw [addBinding]
  split <;> rfl

end ModelState

open Mockup.Composition (Composed EachInTurn)

private theorem eachInTurn_foldl {config : Config} {cs : List Snapshot} {before after : ModelState}
    {parts : List String}
    (h : EachInTurn (fun c before _ after =>
      after = (c.visibleInstances config).foldl (Snapshot.effect config) before)
      cs before parts after) :
    after = (cs.flatMap (Snapshot.visibleInstances · config)).foldl (Snapshot.effect config)
      before := by
  induction h with
  | nil state => rfl
  | cons head tail ih => rw [List.flatMap_cons, List.foldl_append, ← head, ih]

theorem Composition.Composed.state_eq {config : Config} {parent : Option Node} {s : Snapshot}
    {before after : ModelState} {text : String}
    (h : Composed config parent s before text after) :
    after = (s.visibleInstances config).foldl (Snapshot.effect config) before := by
  refine Composed.induct (motive := fun _ s before _ after =>
    after = (s.visibleInstances config).foldl (Snapshot.effect config) before)
    ?omitted ?frame ?group ?widget ?leaf h
  case omitted =>
    intro parent s state hk ho
    rw [Snapshot.visibleInstances_omitted hk ho, List.foldl_nil]
  case frame =>
    intro parent s before parts after hk ho hparts
    rw [Snapshot.visibleInstances_frame hk ho]
    exact eachInTurn_foldl (hparts.mono fun c _ b t a h => h.2)
  case group =>
    intro parent s before parts after hk hparts
    rw [Snapshot.visibleInstances_group hk]
    exact eachInTurn_foldl (hparts.mono fun c _ b t a h => h.2)
  case widget =>
    intro parent s state text hk hfragment
    rw [Snapshot.visibleInstances_instance hk, List.foldl_cons, List.foldl_nil,
      Snapshot.effect_eq_record]
  case leaf =>
    intro parent s state text hleaf
    rw [Snapshot.visibleInstances_leaf hleaf, List.foldl_nil]

namespace Snapshot

variable {config : Config}

private theorem segments_effect (state : ModelState) (s : Snapshot) :
    (effect config state s).segments =
      if s.widgetKind config.components = .segmentedControl then s.node.segmentLabels
      else state.segments := by
  rw [effect]
  split
  · next h => rw [if_pos h]
  · next h => rw [if_neg (by simp [h]), ModelState.segments_addBinding]
  · next h => rw [if_neg (by simp [h])]
  · next h _ _ => rw [if_neg h]

private theorem hasCheckbox_effect (state : ModelState) (s : Snapshot) :
    (effect config state s).hasCheckbox = true ↔
      state.hasCheckbox = true ∨ s.widgetKind config.components = .checkbox := by
  rw [effect]
  split
  · next h => simp [h]
  · next h => simp [h, ModelState.hasCheckbox_addBinding]
  · next h => simp [h]
  · next h => exact ⟨Or.inl, fun hs => hs.resolve_right h⟩

theorem bindings_effect (state : ModelState) (s : Snapshot) :
    (effect config state s).bindings =
      if s.widgetKind config.components = .inputField then
        (state.addBinding (Widget.fieldBinding s state)).bindings
      else state.bindings := by
  rw [effect]
  split
  · next h => rw [if_neg (by simp [h])]
  · next h => rw [if_pos h]
  · next h => rw [if_neg (by simp [h])]
  · next h _ => rw [if_neg h]

/-- The bindings that the text fields among instances ask for, one after the other. -/
def askedBindings (config : Config) (state : ModelState) : List Snapshot → List String
  | [] => []
  | s :: rest =>
    if s.widgetKind config.components = .inputField then
      Widget.fieldBinding s state :: askedBindings config (effect config state s) rest
    else askedBindings config (effect config state s) rest

theorem forall_askedBindings_iff {p : String → Prop} {q : Snapshot → Prop}
    (h : ∀ i state, p (Widget.fieldBinding i state) ↔ q i) (is : List Snapshot)
    (state : ModelState) :
    (∀ name ∈ askedBindings config state is, p name) ↔
      ∀ i ∈ is, i.widgetKind config.components = .inputField → q i := by
  induction is generalizing state with
  | nil => exact iff_of_true (List.forall_mem_nil _) (List.forall_mem_nil _)
  | cons i is ih =>
    rw [askedBindings, List.forall_mem_cons]
    by_cases hk : i.widgetKind config.components = .inputField
    · rw [if_pos hk, List.forall_mem_cons, h, ih]
      exact and_congr_left' ⟨fun hq _ => hq, fun hq => hq hk⟩
    · rw [if_neg hk, ih]
      exact (and_iff_right fun hfield => absurd hfield hk).symm

theorem segments_foldl (is : List Snapshot) (state : ModelState) :
    (is.foldl (effect config) state).segments =
      (((is.filter (·.widgetKind config.components == .segmentedControl)).getLast?).map
        (·.node.segmentLabels)).getD state.segments := by
  induction is generalizing state with
  | nil => rfl
  | cons i is ih =>
    rw [List.foldl_cons, ih, segments_effect]
    by_cases h : i.widgetKind config.components = .segmentedControl
    · rw [List.filter_cons_of_pos (by simpa using h), List.getLast?_cons, if_pos h]
      cases (is.filter (·.widgetKind config.components == .segmentedControl)).getLast? <;> rfl
    · rw [List.filter_cons_of_neg (by simpa using h), if_neg h]

theorem hasCheckbox_foldl (is : List Snapshot) (state : ModelState) :
    (is.foldl (effect config) state).hasCheckbox = true ↔
      state.hasCheckbox = true ∨ ∃ i ∈ is, i.widgetKind config.components = .checkbox := by
  induction is generalizing state with
  | nil => simp
  | cons i is ih =>
    rw [List.foldl_cons, ih, hasCheckbox_effect, or_assoc]
    simp only [List.mem_cons, exists_eq_or_imp]

private theorem append_firstSeen (seen rest : List String) (name : String) :
    (if name ∈ seen then seen else seen ++ [name]) ++
        (rest.removeAll (if name ∈ seen then seen else seen ++ [name])).eraseDups =
      seen ++ ((name :: rest).removeAll seen).eraseDups := by
  by_cases h : name ∈ seen
  · simp only [if_pos h, List.removeAll, List.filter_cons]
    simp [h]
  · have hrest : rest.removeAll (seen ++ [name]) =
        (rest.removeAll seen).filter fun other => !other == name := by
      simp only [List.removeAll, List.filter_filter]
      apply List.filter_congr
      intro other _
      by_cases hname : other = name <;> simp [hname]
    have hcons : (name :: rest).removeAll seen = name :: rest.removeAll seen := by
      simp [List.removeAll, h]
    rw [if_neg h, hrest, hcons, List.eraseDups_cons, List.append_assoc, List.singleton_append]

theorem bindings_foldl (is : List Snapshot) (state : ModelState) :
    (is.foldl (effect config) state).bindings =
      state.bindings ++ ((askedBindings config state is).removeAll state.bindings).eraseDups := by
  induction is generalizing state with
  | nil => simp [askedBindings, List.removeAll]
  | cons i is ih =>
    rw [List.foldl_cons, ih, bindings_effect, askedBindings]
    split
    · rw [ModelState.bindings_addBinding, append_firstSeen]
    · rfl

end Snapshot

/-- The state behind a composition is what the visible instances record one after the other, from
the empty state on, whatever the composer held before. -/
theorem Composer.compose_state_eq_foldl (c : Composer) (s : Snapshot) (view : String)
    (h : (c.compose s).1 = .ok view) :
    let shown := s.visibleInstances c.config
    let state := (c.compose s).2.state
    state = shown.foldl (Snapshot.effect c.config) {} ∧
    (state.hasCheckbox = true ↔
      ∃ i ∈ shown, i.widgetKind c.config.components = .checkbox) ∧
    state.segments =
      (((shown.filter (·.widgetKind c.config.components == .segmentedControl)).getLast?).map
        (·.node.segmentLabels)).getD [] ∧
    state.bindings = (Snapshot.askedBindings c.config {} shown).eraseDups ∧
    state.bindings.Nodup := by
  intro shown state
  have hstate : state = shown.foldl (Snapshot.effect c.config) {} := (c.composed s h).state_eq
  refine ⟨hstate, ?_, ?_, ?_, state.nodup⟩
  · rw [hstate, Snapshot.hasCheckbox_foldl]
    exact or_iff_right Bool.false_ne_true
  · rw [hstate, Snapshot.segments_foldl]
  · rw [hstate, Snapshot.bindings_foldl]
    exact congrArg List.eraseDups (List.filter_eq_self.2 fun _ _ => rfl)

/-- A pane with two text fields, of which one has no label, and a frame that is left out with the
checkbox in it. -/
private def labelledPane : Snapshot where
  node := { id := ⟨"0"⟩, kind := .group, name := "Pane" }
  children := [
    { node := {
        id := ⟨"1"⟩, kind := .componentInstance, name := "Mail"
        children := [{
          id := ⟨"2"⟩, kind := .text, name := "Text", text := { characters := "E-mail" } }] }
      component := some ⟨"125:1", "Input"⟩ },
    { node := { id := ⟨"3"⟩, kind := .frame, name := "Top App Bar" }
      children := [{
        node := { id := ⟨"4"⟩, kind := .componentInstance, name := "Agree" }
        component := some ⟨"153:1", "Checkbox"⟩ }] },
    { node := { id := ⟨"5"⟩, kind := .componentInstance, name := "Code" }
      component := some ⟨"125:1", "Input"⟩ }]

theorem Composer.compose_state_labelledPane :
    let c : Composer := { config := {}, state := { hasCheckbox := true, bindings := ["old"] } }
    (c.compose labelledPane).1.isOk ∧ (c.compose labelledPane).2.state.hasCheckbox = false ∧
    (c.compose labelledPane).2.state.bindings = ["eMail", "field2"] := by
  intro c
  have hok : (c.compose labelledPane).1.isOk := by decide +kernel
  obtain ⟨view, hview⟩ := exists_ok_of_isOk hok
  obtain ⟨-, hcheckbox, -, hbindings, -⟩ := c.compose_state_eq_foldl labelledPane view hview
  refine ⟨hok, ?_, ?_⟩
  · rw [Bool.eq_false_iff, Ne, hcheckbox]
    decide +kernel
  · rw [hbindings]
    decide +kernel

end Mockup
