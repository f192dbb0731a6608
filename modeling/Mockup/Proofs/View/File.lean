import Mathlib.Tactic.Common
import Mockup.View.File

/-!
# Texts of the two files

A template whose parts have texts has their concatenation as its text. Both files are such
templates, for whatever data they are filled in with.
-/

namespace Mockup

open Json (Value)

namespace Template

/-- The parts have these texts, one by one. -/
def Renders (data : Value) (parts : List Part) (texts : List String) : Prop :=
  List.Forall₂ (fun part text => renderPart data part = .ok text) parts texts

private theorem Renders.join {data : Value} {parts : List Part} {texts : List String}
    (h : Renders data parts texts) : renderParts data parts = .ok (String.join texts) := by
  induction h with
  | nil => rfl
  | cons hpart _ ih =>
    rw [renderParts, hpart, ih, String.join_cons]
    rfl

private theorem renderPart_text (data : Value) (text : String) :
    renderPart data (.text text) = .ok text := by
  rw [renderPart]

section

variable {members : List (String × Value)} {name text : String} {v : Value}

private theorem value_member (h : members.lookup name = some v) :
    Operand.value (.object members) (.member name) = .ok v := by
  simp only [Operand.member, Operand.value, List.foldlM_cons, List.foldlM_nil, step, h]
  rfl

private theorem renderPart_insertMember (h : members.lookup name = some v) (hv : shown v = text) :
    renderPart (.object members) (insertMember name) = .ok text := by
  rw [insertMember, renderPart, value_member h, ← hv]
  rfl

private theorem renderPart_indentMember (h : members.lookup name = some (.string text))
    (width : Nat) :
    renderPart (.object members) (indentMember name width) = .ok (Text.indent width text) := by
  have heffect : Call.effect (.object members)
      ⟨"indent", [.member name, .literal (.number (.int width))], []⟩ =
        .ok (.text (Text.indent width text)) := by
    simp only [Call.effect, List.mapM_cons, List.mapM_nil, value_member h]
    rfl
  rw [indentMember, renderPart, heffect]
  rfl

private theorem renderPart_whenMember {body : List Part} {texts : List String} {keeps : Bool}
    (h : members.lookup name = some v) (hv : holds false v = keeps)
    (hbody : Renders (.object members) body texts) :
    renderPart (.object members) (whenMember name body) =
      .ok (if keeps then String.join texts else "") := by
  have heffect : Call.effect (.object members) ⟨"if", [.member name], []⟩ =
      .ok (.decision keeps) := by
    rw [← hv]
    simp only [Call.effect, List.mapM_cons, List.mapM_nil, value_member h]
    rfl
  rw [whenMember, renderPart, heffect]
  cases keeps with
  | false => rfl
  | true => exact hbody.join

end
end Template

open Template

/-- The width that a view is limited to, 0 when it is not. -/
def Config.widthLimit (config : Config) : Nat :=
  (config.maxWidth.map UInt32.toNat).getD 0

theorem renderPart_widthLimit {members : List (String × Value)} (config : Config)
    (h : members.lookup "max_width" = some (match config.maxWidth with
      | some width => .number (.int width.toNat)
      | none => .null)) :
    renderPart (.object members) (whenMember "max_width" [
        .text "        .frame(maxWidth: ", insertMember "max_width", .text ")\n"]) =
      .ok (if config.widthLimit ≠ 0 then String.join [
        "        .frame(maxWidth: ", toString config.widthLimit, ")\n"] else "") := by
  have hbody {v : Value} {text : String} (hv : members.lookup "max_width" = some v)
      (ht : shown v = text) : Renders (.object members) [
        .text "        .frame(maxWidth: ", insertMember "max_width", .text ")\n"] [
        "        .frame(maxWidth: ", text, ")\n"] :=
    .cons (renderPart_text _ _)
      (.cons (renderPart_insertMember hv ht) (.cons (renderPart_text _ _) .nil))
  rw [Config.widthLimit]
  cases hwidth : config.maxWidth with
  | none =>
    rw [hwidth] at h
    rw [renderPart_whenMember h rfl (hbody h rfl)]
    rfl
  | some width =>
    rw [hwidth] at h
    have htext : (Json.Number.int width.toNat).text = toString width.toNat := rfl
    rw [renderPart_whenMember h rfl (hbody h rfl)]
    simp [holds, shown, htext]

theorem viewFile_eq (typeName title body : String) (config : Config) :
    viewFile typeName title body config = .ok (String.join [
      "import SwiftUI\n\nstruct ", typeName, "View: View \x7b\n",
      if config.navigationShell then String.join [
        "    @StateObject private var navigationState = VeloNavigationState(title: ",
        Text.Quoted.encode title, ", hasSearchBar: false)\n"] else "",
      "    @StateObject private var viewModel = ", typeName, "ViewModel()\n",
      if config.registerFonts then String.join [
        "\n    init() \x7b\n        VeloFont.registerFonts()\n    \x7d\n"] else "",
      "\n    var body: some View \x7b\n", Text.indent 8 body,
      "\n        .padding(.sm)\n        .ignoresSafeArea(edges: .bottom)\n",
      if config.widthLimit ≠ 0 then String.join [
        "        .frame(maxWidth: ", toString config.widthLimit, ")\n"] else "",
      if config.navigationShell then String.join [
        "        .environmentObject(navigationState)\n"] else "",
      "    \x7d\n\x7d\n\n#Preview \x7b\n    ", typeName, "View()\n\x7d\n"]) := by
  rw [viewFile, Template.Store.render, Template.Store.standard]
  change Template.renderParts (viewFileData typeName title body config) viewFileTemplate = _
  rw [viewFileData, viewFileTemplate]
  refine Renders.join ?_
  refine .cons (renderPart_text _ _) (.cons (renderPart_insertMember rfl rfl) ?_)
  refine .cons (renderPart_text _ _) (.cons (renderPart_whenMember rfl rfl ?navigation) ?_)
  case navigation =>
    exact .cons (renderPart_text _ _)
      (.cons (renderPart_insertMember rfl rfl) (.cons (renderPart_text _ _) .nil))
  refine .cons (renderPart_text _ _) (.cons (renderPart_insertMember rfl rfl) ?_)
  refine .cons (renderPart_text _ _) (.cons (renderPart_whenMember rfl rfl ?fonts) ?_)
  case fonts => exact .cons (renderPart_text _ _) .nil
  refine .cons (renderPart_text _ _) (.cons (renderPart_indentMember rfl 8) ?_)
  refine .cons (renderPart_text _ _) (.cons (renderPart_widthLimit config rfl) ?_)
  refine .cons (renderPart_whenMember rfl rfl ?environment) ?_
  case environment => exact .cons (renderPart_text _ _) .nil
  exact .cons (renderPart_text _ _)
    (.cons (renderPart_insertMember rfl rfl) (.cons (renderPart_text _ _) .nil))

/-- The text of the view-model file. -/
theorem modelFile_eq (typeName title : String) (state : ModelState) :
    modelFile typeName title state = .ok (String.join [
      "import SwiftUI\n\nclass ", typeName,
      "ViewModel: ObservableObject \x7b\n    @Published var title: String = ",
      Text.Quoted.encode title, "\n",
      if state.declarationText ≠ "" then
        String.join [Text.indent 4 state.declarationText, "\n"] else "",
      if state.isSegmented then String.join [
        "\n    init() \x7b\n        self.selectedSegment = segmentData.first\n    \x7d\n"] else "",
      "\x7d\n"]) := by
  rw [modelFile, Template.Store.render, Template.Store.standard]
  change Template.renderParts (modelFileData typeName title state) modelFileTemplate = _
  rw [modelFileData, modelFileTemplate]
  refine Renders.join ?_
  refine .cons (renderPart_text _ _) (.cons (renderPart_insertMember rfl rfl) ?_)
  refine .cons (renderPart_text _ _) (.cons (renderPart_insertMember rfl rfl) ?_)
  refine .cons (renderPart_text _ _) (.cons ?declared (.cons ?segments ?_))
  case declared =>
    rw [renderPart_whenMember rfl rfl
      (.cons (renderPart_indentMember rfl 4) (.cons (renderPart_text _ _) .nil))]
    simp [holds]
  case segments => exact renderPart_whenMember rfl rfl (.cons (renderPart_text _ _) .nil)
  exact .cons (renderPart_text _ _) .nil

end Mockup
