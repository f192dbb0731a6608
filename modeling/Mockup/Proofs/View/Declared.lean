import Mockup.Proofs.Swift.Published
import Mockup.Proofs.View.Declaration
import Mockup.Proofs.View.Uses

/-!
# Uses and declarations

The state of a view publishes every property that the view uses, except when its last segmented
control is empty.
-/

namespace Mockup

open Swift

namespace ModelState

/-- The names of the segmented controls' properties. -/
def segmentNames : List String :=
  ["segmentData", "selectedSegment"]

/-- The names that a state declares. -/
def declaredNames (state : ModelState) : List String :=
  (if state.isSegmented then segmentNames else []) ++
    (if state.hasCheckbox then ["isChecked"] else []) ++ state.bindings

private theorem mem_declaredNames (state : ModelState) (name : String) :
    name ∈ state.declaredNames ↔
      (name ∈ segmentNames ∧ state.isSegmented = true) ∨
      (name = "isChecked" ∧ state.hasCheckbox = true) ∨ name ∈ state.bindings := by
  rw [declaredNames, List.mem_append, List.mem_append, or_assoc]
  cases state.isSegmented <;> cases state.hasCheckbox <;> simp

theorem published_declarationText {state : ModelState}
    (hnames : ∀ b ∈ state.bindings, ∀ c ∈ b.toList, isNameChar c = true) :
    published state.declarationText = state.declaredNames := by
  refine published_lines ?_
  rw [declarations, declaredNames]
  refine List.rel_append (List.rel_append ?segments ?checkbox) ?bindings
  case segments =>
    split
    · refine .cons ⟨?_, ?_⟩ (.cons (by decide) .nil)
      · apply Declaration.feed_notMem_text (d := .segmentData state.segments)
        intro name hname
        cases hname
      · have hsplit : "@Published var segmentData: [String] = [".toList =
            publishedMark ++ ("segmentData".toList ++ ": [String] = [".toList) := by decide
        have hname : ∀ c ∈ "segmentData".toList, isNameChar c = true :=
          List.all_eq_true.1 (by decide)
        rw [String.toList_append, String.toList_append, hsplit, List.append_assoc,
          List.append_assoc, List.append_assoc]
        exact publishedName?_mark hname rfl
    · exact .nil
  case checkbox =>
    split
    · exact .cons (by decide) .nil
    · exact .nil
  case bindings =>
    rw [List.forall₂_map_left_iff, List.forall₂_same]
    intro name hname
    have hchars := hnames name hname
    rw [String.toList_append, String.toList_append, List.append_assoc]
    refine ⟨?_, publishedName?_mark hchars rfl⟩
    rw [List.mem_append, List.mem_append]
    rintro (hmem | hmem | hmem)
    · revert hmem
      decide
    · exact absurd (hchars _ hmem) (by decide)
    · revert hmem
      decide

end ModelState

namespace Snapshot

variable {config : Config}

private theorem mem_mentions (kind : ComponentKind) (s : Snapshot) (state : ModelState)
    (name : String) :
    name ∈ Widget.mentions kind s state ↔
      (name ∈ ModelState.segmentNames ∧ kind = .segmentedControl) ∨
      (name = "isChecked" ∧ kind = .checkbox) ∨
      (name ≠ "" ∧ kind = .inputField ∧ name = Widget.fieldBinding s state) := by
  rw [Widget.mentions.eq_def]
  cases kind with
  | segmentedControl => simp [ModelState.segmentNames]
  | checkbox => simp
  | inputField =>
    simp only [reduceCtorEq, and_false, false_or, true_and]
    split
    · next hempty => simp [hempty]
    · next hname =>
      rw [List.mem_singleton]
      constructor
      · rintro rfl
        exact ⟨hname, rfl⟩
      · exact fun h => h.2
  | _ => simp

private theorem mem_mentionsInTurn (is : List Snapshot) (state : ModelState) (name : String) :
    name ∈ mentionsInTurn config state is ↔
      (name ∈ ModelState.segmentNames ∧
        ∃ i ∈ is, i.widgetKind config.components = .segmentedControl) ∨
      (name = "isChecked" ∧ ∃ i ∈ is, i.widgetKind config.components = .checkbox) ∨
      (name ≠ "" ∧ name ∈ askedBindings config state is) := by
  induction is generalizing state with
  | nil => simp [mentionsInTurn, askedBindings]
  | cons i is ih =>
    have hasked : name ∈ askedBindings config state (i :: is) ↔
        (i.widgetKind config.components = .inputField ∧ name = Widget.fieldBinding i state) ∨
          name ∈ askedBindings config (effect config state i) is := by
      rw [askedBindings]
      split
      · next h => simp [h]
      · next h => simp [h]
    rw [mentionsInTurn, List.mem_append, mem_mentions, ih, hasked]
    simp only [List.exists_mem_cons_iff]
    constructor
    · rintro ((⟨hn, hk⟩ | ⟨hn, hk⟩ | ⟨hn, hk⟩) | ⟨hn, hk⟩ | ⟨hn, hk⟩ | ⟨hn, hk⟩)
      · exact Or.inl ⟨hn, Or.inl hk⟩
      · exact Or.inr (Or.inl ⟨hn, Or.inl hk⟩)
      · exact Or.inr (Or.inr ⟨hn, Or.inl hk⟩)
      · exact Or.inl ⟨hn, Or.inr hk⟩
      · exact Or.inr (Or.inl ⟨hn, Or.inr hk⟩)
      · exact Or.inr (Or.inr ⟨hn, Or.inr hk⟩)
    · rintro (⟨hn, hk | hk⟩ | ⟨hn, hk | hk⟩ | ⟨hn, hk | hk⟩)
      · exact Or.inl (Or.inl ⟨hn, hk⟩)
      · exact Or.inr (Or.inl ⟨hn, hk⟩)
      · exact Or.inl (Or.inr (Or.inl ⟨hn, hk⟩))
      · exact Or.inr (Or.inr (Or.inl ⟨hn, hk⟩))
      · exact Or.inl (Or.inr (Or.inr ⟨hn, hk⟩))
      · exact Or.inr (Or.inr (Or.inr ⟨hn, hk⟩))

private theorem isNameChar_of_mem_askedBindings (is : List Snapshot) (state : ModelState) :
    ∀ b ∈ askedBindings config state is, ∀ c ∈ b.toList, isNameChar c = true :=
  (forall_askedBindings_iff (q := fun _ => True)
    (fun i state => iff_true_intro (Widget.isNameChar_of_mem_fieldBinding i state)) is state).2
    fun _ _ _ => trivial

/-- The segmented control whose labels a state keeps: the last of them. -/
def lastControl? (config : Config) (is : List Snapshot) : Option Snapshot :=
  (is.filter (·.widgetKind config.components == .segmentedControl)).getLast?

private theorem exists_lastControl_iff (is : List Snapshot) :
    (∃ control, lastControl? config is = some control) ↔
      ∃ i ∈ is, i.widgetKind config.components = .segmentedControl := by
  rw [← Option.isSome_iff_exists, lastControl?, List.getLast?_isSome]
  simp

/-- A state has labels when the last segmented control has children. -/
theorem isSegmented_foldl (is : List Snapshot) :
    (is.foldl (effect config) {}).isSegmented = true ↔
      ∃ control, lastControl? config is = some control ∧ control.node.children ≠ [] := by
  rw [ModelState.isSegmented, segments_foldl, ← lastControl?]
  cases lastControl? config is with
  | none => simp
  | some control => simp [Node.segmentLabels]

theorem mem_bindings_foldl (is : List Snapshot) (name : String) :
    name ∈ (is.foldl (effect config) {}).bindings ↔ name ∈ askedBindings config {} is := by
  rw [bindings_foldl]
  simp [List.removeAll]

theorem isNameChar_of_mem_bindings (is : List Snapshot) :
    ∀ b ∈ (is.foldl (effect config) {}).bindings, ∀ c ∈ b.toList, isNameChar c = true := by
  intro b hb
  rw [mem_bindings_foldl] at hb
  exact isNameChar_of_mem_askedBindings is {} b hb

end Snapshot

namespace Composer

variable {c : Composer} {s : Snapshot} {view : String}

/-- A view uses the names of its controls, its checkboxes and its text fields. -/
theorem mem_uses_iff (h : (c.compose s).1 = .ok view)
    (hs : ∀ v ∈ s.visible c.config, v.Contained c.config) (name : String) :
    name ∈ uses view ↔
      (name ∈ ModelState.segmentNames ∧
        ∃ control, Snapshot.lastControl? c.config (s.visibleInstances c.config) = some control) ∨
      (name = "isChecked" ∧ (c.compose s).2.state.hasCheckbox = true) ∨
      (name ≠ "" ∧ name ∈ (c.compose s).2.state.bindings) := by
  have hcheckbox : (c.compose s).2.state.hasCheckbox = true ↔
      ∃ i ∈ s.visibleInstances c.config, i.widgetKind c.config.components = .checkbox := by
    rw [(c.composed s h).state_eq, Snapshot.hasCheckbox_foldl]
    exact or_iff_right Bool.false_ne_true
  have hbindings : name ∈ (c.compose s).2.state.bindings ↔
      name ∈ Snapshot.askedBindings c.config {} (s.visibleInstances c.config) := by
    rw [(c.composed s h).state_eq, Snapshot.mem_bindings_foldl]
  rw [c.uses_compose s h hs, Snapshot.mem_mentionsInTurn, hbindings, hcheckbox,
    Snapshot.exists_lastControl_iff]

/-- The state publishes the names of a control only when the last one has children. -/
theorem mem_published_iff (h : (c.compose s).1 = .ok view) (name : String) :
    name ∈ published (c.compose s).2.state.declarationText ↔
      (name ∈ ModelState.segmentNames ∧
        ∃ control, Snapshot.lastControl? c.config (s.visibleInstances c.config) = some control ∧
          control.node.children ≠ []) ∨
      (name = "isChecked" ∧ (c.compose s).2.state.hasCheckbox = true) ∨
      name ∈ (c.compose s).2.state.bindings := by
  have hnames : ∀ b ∈ (c.compose s).2.state.bindings, ∀ c ∈ b.toList, isNameChar c = true := by
    rw [(c.composed s h).state_eq]
    exact Snapshot.isNameChar_of_mem_bindings _
  have hsegmented : (c.compose s).2.state.isSegmented = true ↔
      ∃ control, Snapshot.lastControl? c.config (s.visibleInstances c.config) = some control ∧
        control.node.children ≠ [] := by
    rw [(c.composed s h).state_eq]
    exact Snapshot.isSegmented_foldl _
  rw [ModelState.published_declarationText hnames, ModelState.mem_declaredNames, hsegmented]

end Composer

/-- Which names a view uses without a declaration: those of its segmented controls, when the last
one is empty and no text field happens to be bound to them. -/
theorem Composer.compose_undeclared_iff (c : Composer) (s : Snapshot) (view : String)
    (h : (c.compose s).1 = .ok view) (hs : ∀ v ∈ s.visible c.config, v.Contained c.config) :
    let state := (c.compose s).2.state
    let control? := Snapshot.lastControl? c.config (s.visibleInstances c.config)
    (∀ name, (name ∈ uses view ∧ name ∉ published state.declarationText) ↔
      name ∈ ModelState.segmentNames ∧ name ∉ state.bindings ∧
        ∃ control, control? = some control ∧ control.node.children = []) ∧
    ((∀ name ∈ uses view, name ∈ published state.declarationText) ↔
      ∀ control, control? = some control → control.node.children = [] →
        ∀ name ∈ ModelState.segmentNames, name ∈ state.bindings) := by
  intro state control?
  have hundeclared (name : String) :
      (name ∈ uses view ∧ name ∉ published state.declarationText) ↔
        name ∈ ModelState.segmentNames ∧ name ∉ state.bindings ∧
          ∃ control, control? = some control ∧ control.node.children = [] := by
    rw [mem_uses_iff h hs, mem_published_iff h]
    constructor
    · rintro ⟨hused, hfree⟩
      have hbound : name ∉ state.bindings := fun hb => hfree (Or.inr (Or.inr hb))
      rcases hused with ⟨hname, control, hcontrol⟩ | hchecked | ⟨-, hb⟩
      · refine ⟨hname, hbound, control, hcontrol, ?_⟩
        by_contra hchildren
        exact hfree (Or.inl ⟨hname, control, hcontrol, hchildren⟩)
      · exact absurd (Or.inr (Or.inl hchecked)) hfree
      · exact absurd hb hbound
    · rintro ⟨hname, hbound, control, hcontrol, hempty⟩
      refine ⟨Or.inl ⟨hname, control, hcontrol⟩, ?_⟩
      rintro (⟨-, other, hother, hchildren⟩ | ⟨hchecked, -⟩ | hb)
      · have hsame : some control = some other := hcontrol.symm.trans hother
        rw [Option.some.injEq] at hsame
        exact hchildren (hsame ▸ hempty)
      · rw [hchecked] at hname
        exact absurd hname (by decide)
      · exact hbound hb
  refine ⟨hundeclared, ?_⟩
  constructor
  · intro hall control hcontrol hempty name hname
    by_contra hbound
    obtain ⟨hused, hfree⟩ := (hundeclared name).2 ⟨hname, hbound, control, hcontrol, hempty⟩
    exact hfree (hall name hused)
  · intro hempty name hused
    by_contra hfree
    obtain ⟨hname, hbound, control, hcontrol, hchildren⟩ := (hundeclared name).1 ⟨hused, hfree⟩
    exact hbound (hempty control hcontrol hchildren name hname)

/-- A pane with a segmented control of two segments, a checkbox and a text field. -/
private def optionsPane : Snapshot where
  node := { id := ⟨"0"⟩, kind := .group, name := "Options" }
  children := [
    { node := {
        id := ⟨"1"⟩, kind := .componentInstance, name := "Period"
        children := [
          { id := ⟨"2"⟩, kind := .text, name := "Button", text := { characters := "Day" } },
          { id := ⟨"3"⟩, kind := .frame, name := "Week" }] }
      component := some ⟨"161:1", "Segments"⟩ },
    { node := { id := ⟨"4"⟩, kind := .componentInstance, name := "Agree" }
      component := some ⟨"153:1", "Checkbox"⟩ },
    { node := { id := ⟨"5"⟩, kind := .componentInstance, name := "Code" }
      component := some ⟨"125:1", "Input"⟩ }]

theorem Composer.compose_declared_optionsPane :
    let c : Composer := { config := {} }
    ∃ view, (c.compose optionsPane).1 = .ok view ∧
      "selectedSegment" ∈ uses view ∧ "field1" ∈ uses view ∧
      ∀ name ∈ uses view, name ∈ published (c.compose optionsPane).2.state.declarationText := by
  intro c
  have hok : (c.compose optionsPane).1.isOk := by decide +kernel
  obtain ⟨view, hview⟩ := exists_ok_of_isOk hok
  have hcontained : ∀ v ∈ optionsPane.visible c.config, v.Contained c.config := by
    simp only [Snapshot.Contained]
    decide +kernel
  have huses := c.uses_compose optionsPane hview hcontained
  refine ⟨view, hview, ?_, ?_, (c.compose_undeclared_iff optionsPane view hview hcontained).2.2 ?_⟩
  · rw [huses]
    decide +kernel
  · rw [huses]
    decide +kernel
  · intro control hcontrol hempty
    have hfilled : ∀ last ∈
        Snapshot.lastControl? c.config (optionsPane.visibleInstances c.config),
        last.node.children.isEmpty = false := by
      decide +kernel
    have hchildren := hfilled control hcontrol
    rw [hempty] at hchildren
    cases hchildren

/-- A pane with a segmented control that has no segments. -/
private def emptyPane : Snapshot where
  node := { id := ⟨"0"⟩, kind := .group, name := "Options" }
  children := [{
    node := { id := ⟨"1"⟩, kind := .componentInstance, name := "Period" }
    component := some ⟨"161:1", "Segments"⟩ }]

theorem Composer.compose_undeclared_emptyPane :
    let c : Composer := { config := {} }
    ∃ view, (c.compose emptyPane).1 = .ok view ∧
      "segmentData" ∈ uses view ∧ "selectedSegment" ∈ uses view ∧
      published (c.compose emptyPane).2.state.declarationText = [] := by
  intro c
  have hok : (c.compose emptyPane).1.isOk := by decide +kernel
  obtain ⟨view, hview⟩ := exists_ok_of_isOk hok
  have hcontained : ∀ v ∈ emptyPane.visible c.config, v.Contained c.config := by
    simp only [Snapshot.Contained]
    decide +kernel
  refine ⟨view, hview, ?_, ?_, ?_⟩
  · rw [c.uses_compose emptyPane hview hcontained]
    decide +kernel
  · rw [c.uses_compose emptyPane hview hcontained]
    decide +kernel
  · decide +kernel

end Mockup
