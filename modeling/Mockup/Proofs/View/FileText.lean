import Mockup.Proofs.OrderedMap
import Mockup.Proofs.Template.Likeness
import Mockup.Proofs.View.File

/-!
# Lines of the two files

The templates of the two files as they are written, and the files that they give: the lines of the
template with the data in their places, where a section that does not hold leaves no line behind.
-/

namespace Mockup

/-- Lines, each with its line feed. -/
def fedLines (lines : List String) : String :=
  String.join (lines.map (· ++ "\n"))

private theorem toList_fedLines (lines : List String) :
    (fedLines lines).toList = lines.flatMap fun line => line.toList ++ ['\n'] := by
  induction lines with
  | nil => rfl
  | cons line lines ih =>
    rw [fedLines] at ih ⊢
    rw [List.map_cons, String.join_cons, String.toList_append, ih, String.toList_append]
    rfl

def viewFileText : String := fedLines [
  "import SwiftUI",
  "",
  "struct \x7b\x7bname\x7d\x7dView: View \x7b",
  "\x7b\x7b#if navigation_shell\x7d\x7d",
  "    @StateObject private var navigationState = VeloNavigationState(" ++
    "title: \x7b\x7btitle\x7d\x7d, hasSearchBar: false)",
  "\x7b\x7b/if\x7d\x7d",
  "    @StateObject private var viewModel = \x7b\x7bname\x7d\x7dViewModel()",
  "\x7b\x7b#if register_fonts\x7d\x7d",
  "",
  "    init() \x7b",
  "        VeloFont.registerFonts()",
  "    \x7d",
  "\x7b\x7b/if\x7d\x7d",
  "",
  "    var body: some View \x7b",
  "\x7b\x7bindent body 8\x7d\x7d",
  "        .padding(.sm)",
  "        .ignoresSafeArea(edges: .bottom)",
  "\x7b\x7b#if max_width\x7d\x7d",
  "        .frame(maxWidth: \x7b\x7bmax_width\x7d\x7d)",
  "\x7b\x7b/if\x7d\x7d",
  "\x7b\x7b#if navigation_shell\x7d\x7d",
  "        .environmentObject(navigationState)",
  "\x7b\x7b/if\x7d\x7d",
  "    \x7d",
  "\x7d",
  "",
  "#Preview \x7b",
  "    \x7b\x7bname\x7d\x7dView()",
  "\x7d"]

def modelFileText : String := fedLines [
  "import SwiftUI",
  "",
  "class \x7b\x7bname\x7d\x7dViewModel: ObservableObject \x7b",
  "    @Published var title: String = \x7b\x7btitle\x7d\x7d",
  "\x7b\x7b#if state\x7d\x7d",
  "\x7b\x7bindent state 4\x7d\x7d",
  "\x7b\x7b/if\x7d\x7d",
  "\x7b\x7b#if has_segments\x7d\x7d",
  "",
  "    init() \x7b",
  "        self.selectedSegment = segmentData.first",
  "    \x7d",
  "\x7b\x7b/if\x7d\x7d",
  "\x7d"]

namespace Template

/-- Reading a template from its characters. -/
def ofChars? (cs : List Char) : Option Template := do
  let scanned ← scan [] cs.length cs
  let tidied := tidy true {} scanned.tags scanned.rest
  assemble [] [] tidied.rest tidied.tags

private theorem ofText?_eq (s : String) : ofText? s = ofChars? s.toList := by
  rw [ofText?, ofChars?, String.length_toList]

private theorem register_of_ofText? {store : Store} {name text : String} {template : Template}
    (h : ofText? text = some template) :
    store.register name text = .ok ⟨store.templates.insert name template⟩ := by
  rw [Store.register, h]

private theorem ofText?_modelFileText :
    (ofText? modelFileText).any (areLike · modelFileTemplate) = true := by
  rw [ofText?_eq, modelFileText, toList_fedLines]
  decide +kernel

private theorem ofText?_viewFileText :
    (ofText? viewFileText).any (areLike · viewFileTemplate) = true := by
  rw [ofText?_eq, viewFileText, toList_fedLines]
  decide +kernel

end Template

def viewFileLines (typeName title body : String) (config : Config) : List String :=
  ["import SwiftUI", "", "struct " ++ typeName ++ "View: View \x7b"] ++
  (if config.navigationShell then [
      "    @StateObject private var navigationState = VeloNavigationState(title: " ++
        Text.Quoted.encode title ++ ", hasSearchBar: false)"]
    else []) ++
  ["    @StateObject private var viewModel = " ++ typeName ++ "ViewModel()"] ++
  (if config.registerFonts then [
      "", "    init() \x7b", "        VeloFont.registerFonts()", "    \x7d"]
    else []) ++
  ["", "    var body: some View \x7b", Text.indent 8 body, "        .padding(.sm)",
    "        .ignoresSafeArea(edges: .bottom)"] ++
  ((config.maxWidth.filter (· ≠ 0)).toList.map fun width =>
    "        .frame(maxWidth: " ++ toString width ++ ")") ++
  (if config.navigationShell then ["        .environmentObject(navigationState)"] else []) ++
  ["    \x7d", "\x7d", "", "#Preview \x7b", "    " ++ typeName ++ "View()", "\x7d"]

def modelFileLines (typeName title : String) (state : ModelState) : List String :=
  ["import SwiftUI", "", "class " ++ typeName ++ "ViewModel: ObservableObject \x7b",
    "    @Published var title: String = " ++ Text.Quoted.encode title] ++
  (if state.declarationText ≠ "" then [Text.indent 4 state.declarationText] else []) ++
  (if state.segments ≠ [] then [
      "", "    init() \x7b", "        self.selectedSegment = segmentData.first", "    \x7d"]
    else []) ++
  ["\x7d"]

private theorem fedLines_append (lines rest : List String) :
    fedLines (lines ++ rest) = fedLines lines ++ fedLines rest := by
  rw [fedLines, List.map_append, String.join_append, fedLines, fedLines]

private theorem fedLines_when (p : Prop) [Decidable p] (lines : List String) :
    fedLines (if p then lines else []) = if p then fedLines lines else "" := by
  split
  · rfl
  · rfl

private theorem fedLines_eq_join {lines pieces : List String}
    (h : lines.flatMap (fun line => line.toList ++ ['\n']) = pieces.flatMap String.toList) :
    fedLines lines = String.join pieces := by
  rw [← String.toList_inj, toList_fedLines, String.toList_join, h]

private theorem fedLines_around (start text finish : String) :
    fedLines [start ++ text ++ finish] = String.join [start, text, finish ++ "\n"] := by
  simp [fedLines, String.append_assoc]

private theorem fedLines_width (config : Config) :
    fedLines ((config.maxWidth.filter (· ≠ 0)).toList.map fun width =>
        "        .frame(maxWidth: " ++ toString width ++ ")") =
      if config.widthLimit ≠ 0 then
        String.join ["        .frame(maxWidth: ", toString config.widthLimit, ")\n"] else "" := by
  rw [Config.widthLimit]
  cases config.maxWidth with
  | none => rfl
  | some width =>
    by_cases hwidth : width = 0
    · rw [hwidth]
      rfl
    · have hpos : width.toNat ≠ 0 := fun hzero => hwidth (UInt32.toNat_inj.1 hzero)
      have hkept : (some width).filter (· ≠ 0) = some width := by simp [hwidth]
      have hlimit : ((some width).map UInt32.toNat).getD 0 = width.toNat := rfl
      have htext : toString width = toString width.toNat := rfl
      rw [hkept, hlimit, if_pos hpos, Option.toList_some, List.map_singleton, htext]
      apply fedLines_eq_join
      simp

private theorem viewFile_eq_lines (typeName title body : String) (config : Config) :
    viewFile typeName title body config =
      .ok (fedLines (viewFileLines typeName title body config)) := by
  have hopening : fedLines ["import SwiftUI", "", "struct " ++ typeName ++ "View: View \x7b"] =
      String.join ["import SwiftUI\n\nstruct ", typeName, "View: View \x7b\n"] := by
    apply fedLines_eq_join
    simp
  have hnavigation : fedLines [
      "    @StateObject private var navigationState = VeloNavigationState(title: " ++
        Text.Quoted.encode title ++ ", hasSearchBar: false)"] = String.join [
      "    @StateObject private var navigationState = VeloNavigationState(title: ",
        Text.Quoted.encode title, ", hasSearchBar: false)\n"] :=
    fedLines_around _ _ _
  have hmodel : fedLines [
      "    @StateObject private var viewModel = " ++ typeName ++ "ViewModel()"] = String.join [
      "    @StateObject private var viewModel = ", typeName, "ViewModel()\n"] :=
    fedLines_around _ _ _
  have hfonts : fedLines ["", "    init() \x7b", "        VeloFont.registerFonts()", "    \x7d"] =
      String.join ["\n    init() \x7b\n        VeloFont.registerFonts()\n    \x7d\n"] := by
    apply fedLines_eq_join
    simp
  have hbody : fedLines ["", "    var body: some View \x7b", Text.indent 8 body,
      "        .padding(.sm)", "        .ignoresSafeArea(edges: .bottom)"] = String.join [
      "\n    var body: some View \x7b\n", Text.indent 8 body,
      "\n        .padding(.sm)\n        .ignoresSafeArea(edges: .bottom)\n"] := by
    apply fedLines_eq_join
    simp
  have hending : fedLines [
      "    \x7d", "\x7d", "", "#Preview \x7b", "    " ++ typeName ++ "View()", "\x7d"] =
      String.join ["    \x7d\n\x7d\n\n#Preview \x7b\n    ", typeName, "View()\n\x7d\n"] := by
    apply fedLines_eq_join
    simp
  rw [viewFile_eq, viewFileLines]
  apply congrArg Except.ok
  simp only [fedLines_append, fedLines_when, fedLines_width]
  rw [hopening, hnavigation, hmodel, hfonts, hbody, hending]
  simp only [String.join_cons, String.join_nil, String.append_assoc, String.append_empty]
  rfl

private theorem modelFile_eq_lines (typeName title : String) (state : ModelState) :
    modelFile typeName title state = .ok (fedLines (modelFileLines typeName title state)) := by
  have hopening : fedLines [
      "import SwiftUI", "", "class " ++ typeName ++ "ViewModel: ObservableObject \x7b",
      "    @Published var title: String = " ++ Text.Quoted.encode title] = String.join [
      "import SwiftUI\n\nclass ", typeName,
      "ViewModel: ObservableObject \x7b\n    @Published var title: String = ",
      Text.Quoted.encode title, "\n"] := by
    apply fedLines_eq_join
    simp
  have hstate : fedLines [Text.indent 4 state.declarationText] =
      String.join [Text.indent 4 state.declarationText, "\n"] := by
    apply fedLines_eq_join
    simp
  have hsegments : fedLines [
      "", "    init() \x7b", "        self.selectedSegment = segmentData.first", "    \x7d"] =
      String.join [
      "\n    init() \x7b\n        self.selectedSegment = segmentData.first\n    \x7d\n"] := by
    apply fedLines_eq_join
    simp
  have hsegmented : state.isSegmented = true ↔ state.segments ≠ [] := by
    rw [ModelState.isSegmented, decide_eq_true_eq]
  rw [modelFile_eq, modelFileLines]
  apply congrArg Except.ok
  simp only [fedLines_append, fedLines_when, hsegmented]
  rw [hopening, hstate, hsegments]
  simp only [String.join_cons, String.join_nil, String.append_assoc, String.append_empty]
  rfl

/-- The two templates are read from their texts, and with any data in them they give the lines of
the template: names as they are, the title quoted, the body and the state indented as they are, and
each section whole or not at all. So do the trees that stand for them. -/
theorem exists_store_render_lines :
    ∃ store, (({} : Template.Store).register "view" viewFileText).bind
        (·.register "view_model" modelFileText) = .ok store ∧
      (∀ typeName title body config,
        let text := fedLines (viewFileLines typeName title body config)
        store.render "view" (viewFileData typeName title body config) = .ok text ∧
          viewFile typeName title body config = .ok text) ∧
      ∀ typeName title state,
        let text := fedLines (modelFileLines typeName title state)
        store.render "view_model" (modelFileData typeName title state) = .ok text ∧
          modelFile typeName title state = .ok text := by
  obtain ⟨view, hview, hviewLike⟩ := (Option.any_eq_true _ _).1 Template.ofText?_viewFileText
  obtain ⟨model, hmodel, hmodelLike⟩ := (Option.any_eq_true _ _).1 Template.ofText?_modelFileText
  let store : Template.Store :=
    ⟨(OrderedMap.empty.insert "view" view).insert "view_model" model⟩
  refine ⟨store, ?registered, ?view, ?model⟩
  case registered =>
    rw [Template.register_of_ofText? hview, Except.bind, Template.register_of_ofText? hmodel]
  case view =>
    intro typeName title body config text
    have hfound : store.templates.get? "view" = some view := by
      simp [store, OrderedMap.get?_insert]
    have hlines := viewFile_eq_lines typeName title body config
    refine ⟨?_, hlines⟩
    have hrender : viewFile typeName title body config =
        Template.renderParts (viewFileData typeName title body config) viewFileTemplate := rfl
    rw [Template.Store.render, hfound, ← hlines, hrender]
    exact Template.renderParts_of_areLike _ _ _ hviewLike
  case model =>
    intro typeName title state text
    have hfound : store.templates.get? "view_model" = some model := by
      simp [store, OrderedMap.get?_insert]
    have hlines := modelFile_eq_lines typeName title state
    refine ⟨?_, hlines⟩
    have hrender : modelFile typeName title state =
        Template.renderParts (modelFileData typeName title state) modelFileTemplate := rfl
    rw [Template.Store.render, hfound, ← hlines, hrender]
    exact Template.renderParts_of_areLike _ _ _ hmodelLike

end Mockup
