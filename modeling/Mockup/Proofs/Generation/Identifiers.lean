import Mockup.Proofs.Generation.Published
import Mockup.Proofs.View.Binding

/-!
# Names that a generation declares

The types of both files and the bindings of the text fields have names that are made of free text.
They are identifiers unless the first letter or digit of that text is a digit.
-/

namespace Mockup.Generation

open Text (IsIdentifier LeadsWithDigit)

variable {source : Source} {root : Option Node} {config : Config} {view model : Artifact}
  {state : ModelState}

private theorem exists_viewFile_eq {typeName title body text : String}
    (h : viewFile typeName title body config = .ok text) :
    ∃ rest, text = "import SwiftUI\n\nstruct " ++ (typeName ++ "View") ++ ": View \x7b\n" ++
      rest := by
  have hopening : "View: View \x7b\n" = "View" ++ ": View \x7b\n" := by decide
  rw [viewFile_eq, Except.ok.injEq, String.join_cons, String.join_cons, String.join_cons] at h
  obtain ⟨rest, hrest⟩ : ∃ rest, "import SwiftUI\n\nstruct " ++
      (typeName ++ ("View: View \x7b\n" ++ rest)) = text := ⟨_, h⟩
  refine ⟨rest, ?_⟩
  rw [← hrest, hopening]
  simp only [String.append_assoc]

private theorem exists_modelFile_eq {typeName title text : String}
    (h : modelFile typeName title state = .ok text) :
    ∃ rest, text = "import SwiftUI\n\nclass " ++ (typeName ++ "ViewModel") ++
      ": ObservableObject \x7b\n" ++ rest := by
  have hopening : "ViewModel: ObservableObject \x7b\n    @Published var title: String = " =
      "ViewModel" ++ ": ObservableObject \x7b\n" ++ "    @Published var title: String = " := by
    decide
  rw [modelFile_eq, Except.ok.injEq, String.join_cons, String.join_cons, String.join_cons] at h
  obtain ⟨rest, hrest⟩ : ∃ rest, "import SwiftUI\n\nclass " ++ (typeName ++
      ("ViewModel: ObservableObject \x7b\n    @Published var title: String = " ++ rest)) = text :=
    ⟨_, h⟩
  refine ⟨"    @Published var title: String = " ++ rest, ?_⟩
  rw [← hrest, hopening]
  simp only [String.append_assoc]

/-- All names that a generation declares consist of letters and digits. The types are named by
identifiers exactly if the name of the root does not lead with a digit, and the bindings exactly if
no label of a visible text field does. -/
theorem identifiers_run_iff (h : run source root config = .generated view model state) :
    ∃ n s viewRest modelRest, root = some n ∧ (n.resolve source).result = .ok s ∧
      let viewName := Text.compactName n.name ++ "View"
      let modelName := Text.compactName n.name ++ "ViewModel"
      view.code = "import SwiftUI\n\nstruct " ++ viewName ++ ": View \x7b\n" ++ viewRest ∧
      model.code = "import SwiftUI\n\nclass " ++ modelName ++ ": ObservableObject \x7b\n" ++
        modelRest ∧
      (∀ name ∈ viewName :: modelName :: state.bindings,
        name ≠ "" ∧ ∀ c ∈ name.toList, c.isAlphanum = true) ∧
      (IsIdentifier viewName ↔ ¬ LeadsWithDigit n.name) ∧
      (IsIdentifier modelName ↔ ¬ LeadsWithDigit n.name) ∧
      ((∀ name ∈ state.bindings, IsIdentifier name) ↔
        ∀ i ∈ s.visibleInstances config, i.widgetKind config.components = .inputField →
          ¬ LeadsWithDigit (i.node.slot "Text")) := by
  obtain ⟨n, s, body, hroot, hs, hbody, hstate, hview, hmodel⟩ := exists_of_run_generated h
  obtain ⟨viewRest, hviewCode⟩ := exists_viewFile_eq hview
  obtain ⟨modelRest, hmodelCode⟩ := exists_modelFile_eq hmodel
  have hendings : IsIdentifier "View" ∧ IsIdentifier "ViewModel" := by decide
  have hbindings (name : String) :
      name ∈ state.bindings ↔
        name ∈ Snapshot.askedBindings config {} (s.visibleInstances config) := by
    rw [hstate, (Composer.composed { config } s hbody).state_eq, Snapshot.mem_bindings_foldl]
  refine ⟨n, s, viewRest, modelRest, hroot, hs, hviewCode, hmodelCode, ?alphanumeric,
    Text.isIdentifier_compactName_append_iff n.name hendings.1,
    Text.isIdentifier_compactName_append_iff n.name hendings.2, ?bound⟩
  case alphanumeric =>
    have htyped {ending : String} (hending : IsIdentifier ending) :
        Text.compactName n.name ++ ending ≠ "" ∧
          ∀ c ∈ (Text.compactName n.name ++ ending).toList, c.isAlphanum = true := by
      constructor
      · simpa using fun _ => hending.ne_empty
      · rw [String.toList_append, List.forall_mem_append]
        exact ⟨Text.isAlphanum_of_mem_compactName n.name, hending.1⟩
    rw [List.forall_mem_cons, List.forall_mem_cons]
    refine ⟨htyped hendings.1, htyped hendings.2, ?_⟩
    simp only [hbindings]
    exact (Snapshot.forall_askedBindings_iff (q := fun _ => True)
      (fun i state => iff_true_intro (Widget.fieldBinding_alphanumeric i state)) _ _).2
      fun _ _ _ => trivial
  case bound =>
    simp only [hbindings]
    exact Snapshot.forall_askedBindings_iff Widget.isIdentifier_fieldBinding_iff _ _

/-- A form with a labelled text field and one whose label has no letters. -/
private def fieldForm (name label : String) : Node where
  id := ⟨"0"⟩
  kind := .group
  name := name
  children := [
    { id := ⟨"1"⟩, kind := .componentInstance, name := "Field", children := [
      { id := ⟨"2"⟩, kind := .text, name := "Text", text := { characters := label } }] },
    { id := ⟨"3"⟩, kind := .componentInstance, name := "Field", children := [
      { id := ⟨"4"⟩, kind := .text, name := "Text", text := { characters := "*" } }] }]

private def fieldLibrary : Library where
  instances := .ofList [(⟨"1"⟩, "125:1"), (⟨"3"⟩, "125:1")]
  components := .ofList [("125:1", "Input")]

private def signInForm : Node :=
  fieldForm "Sign-In" "E-mail"

theorem identifiers_run_signInForm :
    ∃ view model state,
      run fieldLibrary.source (some signInForm) {} = .generated view model state ∧
      IsIdentifier "SignInView" ∧ IsIdentifier "SignInViewModel" ∧
      state.bindings = ["eMail", "field2"] ∧ ∀ name ∈ state.bindings, IsIdentifier name := by
  have hsucceeds : (run fieldLibrary.source (some signInForm) {}).hasFailed = false := by
    decide +kernel
  have hfields : ∀ s ∈ (signInForm.resolve fieldLibrary.source).result.toOption,
      ((s.visibleInstances {}).foldl (Snapshot.effect {}) {}).bindings = ["eMail", "field2"] ∧
      ∀ i ∈ s.visibleInstances {}, i.widgetKind .standard = .inputField →
        ¬ LeadsWithDigit (i.node.slot "Text") := by
    decide +kernel
  obtain ⟨view, model, state, hrun⟩ := exists_generated hsucceeds
  obtain ⟨n, s, _, _, ⟨⟩, hs, -, -, -, hview, hmodel, hbindings⟩ := identifiers_run_iff hrun
  obtain ⟨_, _, ⟨⟩, hsame, hstate, -⟩ := bindings_of_run_generated hrun
  cases hs.symm.trans hsame
  obtain ⟨hnames, hlabels⟩ := hfields s (by rw [hs]; rfl)
  refine ⟨view, model, state, hrun, hview.2 (by decide), hmodel.2 (by decide), ?_,
    hbindings.2 hlabels⟩
  rw [hstate]
  exact hnames

private def secondStepForm : Node :=
  fieldForm "2nd Step" "2FA code"

/-- The name of the root leads with a digit, and so does a label. -/
theorem identifiers_run_secondStepForm :
    ∃ view model state rest,
      run fieldLibrary.source (some secondStepForm) {} = .generated view model state ∧
      view.code = "import SwiftUI\n\nstruct 2ndStepView: View \x7b\n" ++ rest ∧
      state.bindings = ["2faCode", "field2"] ∧
      ¬ IsIdentifier "2ndStepView" ∧ ¬ IsIdentifier "2faCode" := by
  have hsucceeds : (run fieldLibrary.source (some secondStepForm) {}).hasFailed = false := by
    decide +kernel
  have hfields : ∀ s ∈ (secondStepForm.resolve fieldLibrary.source).result.toOption,
      ((s.visibleInstances {}).foldl (Snapshot.effect {}) {}).bindings = ["2faCode", "field2"] := by
    decide +kernel
  have hname : "import SwiftUI\n\nstruct " ++
      (Text.compactName secondStepForm.name ++ "View") ++ ": View \x7b\n" =
        "import SwiftUI\n\nstruct 2ndStepView: View \x7b\n" := by
    decide +kernel
  obtain ⟨view, model, state, hrun⟩ := exists_generated hsucceeds
  obtain ⟨_, _, _, ⟨⟩, -, -, -, hview, -⟩ := exists_of_run_generated hrun
  obtain ⟨_, s, ⟨⟩, hs, hstate, -⟩ := bindings_of_run_generated hrun
  obtain ⟨rest, hcode⟩ := exists_viewFile_eq hview
  rw [hname] at hcode
  refine ⟨view, model, state, rest, hrun, hcode, ?_, by decide, by decide⟩
  rw [hstate]
  exact hfields s (by rw [hs]; rfl)

end Mockup.Generation
