import Mockup.Config
import Mockup.Template.Render
import Mockup.Text.Quoted
import Mockup.View.Model

/-!
# Files of a view

The templates of the view file and of the view-model file.
-/

namespace Mockup

open Json (Value)
open Template (Part)

def insertMember (name : String) : Part :=
  .insert (.member name)

/-- Parts that stand only when a member holds. -/
def whenMember (name : String) (body : List Part) : Part :=
  .block ⟨"if", [.member name], []⟩ body []

def indentMember (name : String) (width : Nat) : Part :=
  .call ⟨"indent", [.member name, .literal (.number (.int width))], []⟩

def viewFileTemplate : Template := [
  .text "import SwiftUI\n\nstruct ",
  insertMember "name",
  .text "View: View \x7b\n",
  whenMember "navigation_shell" [
    .text "    @StateObject private var navigationState = VeloNavigationState(title: ",
    insertMember "title",
    .text ", hasSearchBar: false)\n"],
  .text "    @StateObject private var viewModel = ",
  insertMember "name",
  .text "ViewModel()\n",
  whenMember "register_fonts" [
    .text "\n    init() \x7b\n        VeloFont.registerFonts()\n    \x7d\n"],
  .text "\n    var body: some View \x7b\n",
  indentMember "body" 8,
  .text "\n        .padding(.sm)\n        .ignoresSafeArea(edges: .bottom)\n",
  whenMember "max_width" [
    .text "        .frame(maxWidth: ",
    insertMember "max_width",
    .text ")\n"],
  whenMember "navigation_shell" [
    .text "        .environmentObject(navigationState)\n"],
  .text "    \x7d\n\x7d\n\n#Preview \x7b\n    ",
  insertMember "name",
  .text "View()\n\x7d\n"]

def modelFileTemplate : Template := [
  .text "import SwiftUI\n\nclass ",
  insertMember "name",
  .text "ViewModel: ObservableObject \x7b\n    @Published var title: String = ",
  insertMember "title",
  .text "\n",
  whenMember "state" [
    indentMember "state" 4,
    .text "\n"],
  whenMember "has_segments" [
    .text "\n    init() \x7b\n        self.selectedSegment = segmentData.first\n    \x7d\n"],
  .text "\x7d\n"]

def Template.Store.standard : Template.Store where
  templates := .ofList [("view", viewFileTemplate), ("view_model", modelFileTemplate)]

def viewFileData (typeName title body : String) (config : Config) : Value :=
  .object [
    ("name", .string typeName),
    ("title", .string (Text.Quoted.encode title)),
    ("body", .string body),
    ("navigation_shell", .bool config.navigationShell),
    ("register_fonts", .bool config.registerFonts),
    ("max_width", match config.maxWidth with
      | some width => .number (.int width.toNat)
      | none => .null)]

def modelFileData (typeName title : String) (state : ModelState) : Value :=
  .object [
    ("name", .string typeName),
    ("title", .string (Text.Quoted.encode title)),
    ("state", .string state.declarationText),
    ("has_segments", .bool state.isSegmented)]

def viewFile (typeName title body : String) (config : Config) : Except Template.Fault String :=
  Template.Store.standard.render "view" (viewFileData typeName title body config)

def modelFile (typeName title : String) (state : ModelState) : Except Template.Fault String :=
  Template.Store.standard.render "view_model" (modelFileData typeName title state)

end Mockup
