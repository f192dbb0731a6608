import Mathlib.Data.List.Nodup
import Mockup.Proofs.Generation.Balanced
import Mockup.Proofs.View.Declared

/-!
# Properties of a view model

Which properties the view model of a generation publishes, and which of them more than once: the
properties that it has of its own are not kept apart from the bindings of the text fields.
-/

namespace Mockup

open Swift

namespace ModelState

/-- The properties that a view model has besides the bindings of its text fields. -/
def ownNames (state : ModelState) : List String :=
  "title" :: (if state.isSegmented then segmentNames else []) ++
    if state.hasCheckbox then ["isChecked"] else []

private theorem ownNames_append_bindings (state : ModelState) :
    state.ownNames ++ state.bindings = "title" :: state.declaredNames := by
  rw [ownNames, declaredNames, List.cons_append, List.cons_append]

private theorem nodup_ownNames (state : ModelState) : state.ownNames.Nodup := by
  rw [ownNames]
  cases state.isSegmented <;> cases state.hasCheckbox <;> decide

private theorem empty_notMem_ownNames (state : ModelState) : "" ∉ state.ownNames := by
  rw [ownNames]
  cases state.isSegmented <;> cases state.hasCheckbox <;> decide

theorem freshBinding_notMem_ownNames (state other : ModelState) :
    state.freshBinding ∉ other.ownNames := by
  have hown : ∀ name ∈ other.ownNames, name.toList.head?.any (· != 'f') = true := by
    rw [ownNames]
    cases other.isSegmented <;> cases other.hasCheckbox <;> decide
  obtain ⟨n, hn⟩ := state.exists_freshBinding_eq
  intro hmem
  have hfirst := hown _ hmem
  rw [hn, numberedBinding, String.toList_append] at hfirst
  simp at hfirst

end ModelState

private theorem published_opener {typeName : String}
    (hname : ∀ c ∈ typeName.toList, c.isAlphanum = true) :
    published ("class " ++ typeName ++ "ViewModel: ObservableObject \x7b") = [] := by
  have hline : '\n' ∉ ("class " ++ typeName ++ "ViewModel: ObservableObject \x7b").toList := by
    rw [String.toList_append, String.toList_append, List.mem_append, List.mem_append]
    rintro ((hmem | hmem) | hmem)
    · revert hmem
      decide
    · exact absurd (hname _ hmem) (by decide)
    · revert hmem
      decide
  have hplain : publishedName?
      ("class " ++ typeName ++ "ViewModel: ObservableObject \x7b").toList = none := by
    rw [String.toList_append, String.toList_append]
    rfl
  rw [published_line hline, hplain]
  rfl

private theorem published_titled (title : String) :
    published ("    @Published var title: String = " ++ Text.Quoted.encode title) =
      ["title"] := by
  have hline : '\n' ∉ ("    @Published var title: String = " ++
      Text.Quoted.encode title).toList := by
    rw [String.toList_append, List.mem_append]
    rintro (hmem | hmem)
    · revert hmem
      decide
    · exact Text.Quoted.notMem_encode (by decide) title hmem
  have hmark : "    @Published var title: String = ".toList =
      Text.shift 4 (publishedMark ++ ("title".toList ++ ": String = ".toList)) := by
    decide
  have htitle : publishedName? ("    @Published var title: String = " ++
      Text.Quoted.encode title).toList = some "title".toList := by
    rw [String.toList_append, hmark, Text.shift, List.append_assoc, ← Text.shift,
      publishedName?_shift, List.append_assoc, List.append_assoc]
    exact publishedName?_mark (List.all_eq_true.1 (by decide)) rfl
  rw [published_line hline, htitle]
  rfl

/-- The view model publishes its own properties and the bindings of the text fields. -/
theorem published_modelFile {typeName title model : String} {state : ModelState}
    (hname : ∀ c ∈ typeName.toList, c.isAlphanum = true)
    (hnames : ∀ b ∈ state.bindings, ∀ c ∈ b.toList, isNameChar c = true)
    (h : modelFile typeName title state = .ok model) :
    published model = state.ownNames ++ state.bindings := by
  let opener := "class " ++ typeName ++ "ViewModel: ObservableObject \x7b"
  let titled := "    @Published var title: String = " ++ Text.Quoted.encode title
  let initializer := if state.isSegmented then String.join [
    "\n    init() \x7b\n        self.selectedSegment = segmentData.first\n    \x7d\n"] else ""
  let declared := if state.declarationText ≠ "" then
    String.join [Text.indent 4 state.declarationText, "\n"] else ""
  have hmodel : model = "import SwiftUI\n" ++ "\n" ++ opener ++ "\n" ++ titled ++ "\n" ++
      (declared ++ (initializer ++ "\x7d\n")) := by
    have hfront : "import SwiftUI\n\nclass " = "import SwiftUI\n" ++ "\n" ++ "class " := by decide
    have hmiddle : "ViewModel: ObservableObject \x7b\n    @Published var title: String = " =
        "ViewModel: ObservableObject \x7b" ++ "\n" ++ "    @Published var title: String = " := by
      decide
    rw [modelFile_eq, hfront, hmiddle] at h
    rw [← Except.ok.inj h]
    simp only [String.join_cons, String.join_nil, String.append_empty, String.append_assoc, opener,
      titled, initializer, declared]
  have hend : published (initializer ++ "\x7d\n") = [] := by
    cases hsegmented : state.isSegmented
    · simp only [initializer, hsegmented]
      decide
    · simp only [initializer, hsegmented]
      decide
  have hdeclared : published (declared ++ (initializer ++ "\x7d\n")) = state.declaredNames := by
    rw [← ModelState.published_declarationText hnames]
    by_cases hempty : state.declarationText = ""
    · have hnothing : declared = "" := if_neg (by simpa using hempty)
      rw [hnothing, String.empty_append, hend, hempty]
      rfl
    · have htidy := (ModelState.sheet_declarationText hempty hnames).tidy
      have hlines : declared = Text.indent 4 state.declarationText ++ "\n" := by
        simp [declared, hempty, String.join_cons]
      rw [hlines, published_under, published_indent htidy, hend, List.append_nil]
  rw [hmodel, published_under, published_under, published_under, published_opener hname,
    published_titled title, hdeclared, ModelState.ownNames_append_bindings]
  rfl

theorem ModelState.count_names_gt_one_iff (state : ModelState) (name : String) :
    1 < (state.ownNames ++ state.bindings).count name ↔
      name ∈ state.ownNames ∧ name ∈ state.bindings := by
  have hown := List.nodup_iff_count_le_one.1 state.nodup_ownNames name
  have hbound := List.nodup_iff_count_le_one.1 state.nodup name
  rw [List.count_append, ← List.count_pos_iff, ← List.count_pos_iff]
  omega

namespace Snapshot

/-- The names that the labels of the text fields among instances stand for. -/
def labelNames (config : Config) (is : List Snapshot) : List String :=
  (is.filter (·.widgetKind config.components == .inputField)).map fun i =>
    Text.camelCase (i.node.slot "Text")

/-- A field asks for the name of its label, unless that is made up. -/
theorem mem_askedBindings_iff (config : Config) (is : List Snapshot) (state : ModelState)
    {name : String} (hempty : name ≠ "")
    (hfresh : ∀ other : ModelState, name ≠ other.freshBinding) :
    name ∈ askedBindings config state is ↔ name ∈ labelNames config is := by
  have hfield (i : Snapshot) (state : ModelState) :
      name = Widget.fieldBinding i state ↔ name = Text.camelCase (i.node.slot "Text") := by
    rw [Widget.fieldBinding]
    split
    · next hlabel => simp [hlabel, hempty, hfresh state]
    · rfl
  induction is generalizing state with
  | nil => simp [askedBindings, labelNames]
  | cons i is ih =>
    rw [askedBindings, labelNames]
    by_cases hk : i.widgetKind config.components = .inputField
    · rw [if_pos hk, List.filter_cons_of_pos (by simpa using hk), List.mem_cons, List.map_cons,
        List.mem_cons, hfield]
      exact or_congr_right (ih _)
    · rw [if_neg hk, List.filter_cons_of_neg (by simpa using hk)]
      exact ih _

end Snapshot

theorem Generation.exists_of_run_generated {source : Source} {root : Option Node}
    {config : Config} {view model : Artifact} {state : ModelState}
    (h : run source root config = .generated view model state) :
    ∃ n s body, root = some n ∧ (n.resolve source).result = .ok s ∧
      (Composer.compose { config } s).1 = .ok body ∧
      state = (Composer.compose { config } s).2.state ∧
      viewFile (Text.compactName n.name) n.name body config = .ok view.code ∧
      modelFile (Text.compactName n.name) n.name state = .ok model.code := by
  cases root with
  | none => cases h
  | some n =>
    rcases run_some_cases source n config with ⟨-, hfailed⟩ | ⟨-, s, body, hs, hbody, hrun⟩
    · rw [h] at hfailed
      cases hfailed
    · obtain ⟨viewText, modelText, hview, hmodel, hgenerated⟩ := hrun
      rw [h] at hgenerated
      cases hgenerated
      exact ⟨n, s, body, rfl, hs, hbody, rfl, hview, hmodel⟩

theorem Generation.bindings_of_run_generated {source : Source} {root : Option Node}
    {config : Config} {view model : Artifact} {state : ModelState}
    (h : run source root config = .generated view model state) :
    ∃ n s, root = some n ∧ (n.resolve source).result = .ok s ∧
      state = (s.visibleInstances config).foldl (Snapshot.effect config) {} ∧
      published model.code = state.ownNames ++ state.bindings := by
  obtain ⟨n, s, body, hroot, hs, hbody, hstate, -, hmodel⟩ := exists_of_run_generated h
  rw [(Composer.composed { config } s hbody).state_eq] at hstate
  refine ⟨n, s, hroot, hs, hstate, ?_⟩
  refine published_modelFile (Text.isAlphanum_of_mem_compactName n.name) ?_ hmodel
  rw [hstate]
  exact Snapshot.isNameChar_of_mem_bindings _

/-- A generation publishes its own properties and the bindings of its text fields. A name is
published twice when it is one of its own and the label of a visible text field stands for it. -/
theorem Generation.published_run_count_iff {source : Source} {root : Option Node} {config : Config}
    {view model : Artifact} {state : ModelState}
    (h : run source root config = .generated view model state) :
    ∃ n s, root = some n ∧ (n.resolve source).result = .ok s ∧
      let labelNames := Snapshot.labelNames config (s.visibleInstances config)
      published model.code = state.ownNames ++ state.bindings ∧
      (∀ name, 1 < (published model.code).count name ↔
        name ∈ state.ownNames ∧ name ∈ labelNames) ∧
      ((published model.code).Nodup ↔ ∀ name ∈ labelNames, name ∉ state.ownNames) := by
  obtain ⟨n, s, hroot, hs, hstate, hpublished⟩ := bindings_of_run_generated h
  refine ⟨n, s, hroot, hs, ?_⟩
  intro labelNames
  have hbound (name : String) (hown : name ∈ state.ownNames) :
      name ∈ state.bindings ↔ name ∈ labelNames := by
    rw [hstate, Snapshot.mem_bindings_foldl]
    apply Snapshot.mem_askedBindings_iff
    · rintro rfl
      exact state.empty_notMem_ownNames hown
    · rintro other rfl
      exact other.freshBinding_notMem_ownNames state hown
  refine ⟨hpublished, ?_, ?_⟩
  · intro name
    rw [hpublished, state.count_names_gt_one_iff]
    exact and_congr_right (hbound name)
  · rw [hpublished, List.nodup_append']
    constructor
    · rintro ⟨-, -, hdisjoint⟩ name hlabel hown
      exact hdisjoint hown ((hbound name hown).2 hlabel)
    · intro hfree
      refine ⟨state.nodup_ownNames, state.nodup, ?_⟩
      intro name hown hmem
      exact hfree name ((hbound name hown).1 hmem) hown

/-- A form with a checkbox and a text field with a label. -/
private def labelledForm (label : String) : Node where
  id := ⟨"0"⟩
  kind := .group
  name := "Form"
  children := [
    { id := ⟨"1"⟩, kind := .componentInstance, name := "Agree" },
    { id := ⟨"2"⟩, kind := .componentInstance, name := "Field", children := [
      { id := ⟨"3"⟩, kind := .text, name := "Text", text := { characters := label } }] }]

private def formLibrary : Library where
  instances := .ofList [(⟨"1"⟩, "153:1"), (⟨"2"⟩, "125:1")]
  components := .ofList [("153:1", "Checkbox"), ("125:1", "Input")]

theorem Generation.published_run_mailForm :
    ∃ view model state,
      run formLibrary.source (some (labelledForm "E-mail")) {} = .generated view model state ∧
      published model.code = state.ownNames ++ state.bindings ∧
      (published model.code).Nodup := by
  have hsucceeds :
      (run formLibrary.source (some (labelledForm "E-mail")) {}).hasFailed = false := by
    decide +kernel
  cases hrun : run formLibrary.source (some (labelledForm "E-mail")) {} with
  | failed diagnostic =>
    rw [hrun] at hsucceeds
    cases hsucceeds
  | generated view model state =>
    obtain ⟨n, s, hn, hs, hpublished, -, hnodup⟩ := published_run_count_iff hrun
    have hlabels : ∀ s ∈ ((labelledForm "E-mail").resolve formLibrary.source).result.toOption,
        Snapshot.labelNames {} (s.visibleInstances {}) = ["eMail"] := by
      decide +kernel
    refine ⟨view, model, state, rfl, hpublished, hnodup.2 ?_⟩
    cases hn
    rw [hlabels s (by rw [hs]; rfl), List.forall_mem_singleton]
    rw [ModelState.ownNames]
    cases state.isSegmented <;> cases state.hasCheckbox <;> decide

/-- The binding of a field with the label "Title" is published besides the title itself. -/
theorem Generation.published_run_titleForm :
    ∃ view model state,
      run formLibrary.source (some (labelledForm "Title")) {} = .generated view model state ∧
      published model.code = ["title", "isChecked", "title"] := by
  have hsucceeds :
      (run formLibrary.source (some (labelledForm "Title")) {}).hasFailed = false := by
    decide +kernel
  cases hrun : run formLibrary.source (some (labelledForm "Title")) {} with
  | failed diagnostic =>
    rw [hrun] at hsucceeds
    cases hsucceeds
  | generated view model state =>
    have hstates : ∀ s ∈ ((labelledForm "Title").resolve formLibrary.source).result.toOption,
        let state := (s.visibleInstances {}).foldl (Snapshot.effect {}) {}
        state.ownNames ++ state.bindings = ["title", "isChecked", "title"] := by
      decide +kernel
    obtain ⟨n, s, hn, hs, hstate, hpublished⟩ := bindings_of_run_generated hrun
    cases hn
    refine ⟨view, model, state, rfl, ?_⟩
    rw [hpublished, hstate]
    exact hstates s (by rw [hs]; rfl)

end Mockup
