import Mockup.Proofs.Swift.Sheet
import Mockup.Proofs.Style.Token
import Mockup.Proofs.View.Uses

/-!
# Sheets of a view

Each value is a piece of a line, and each widget a sheet that leaves the awaited brackets as they
were, as long as the names in it do.
-/

namespace Mockup

open Swift
open Text (OneLine)

section

variable {safe : Prop} {a : List Char}

/-- What consists of characters that are no brackets, quotes, slashes and line breaks. -/
theorem piece_of_class {text : String} {p : Char → Bool} (h : ∀ c ∈ text.toList, p c = true)
    (hp : ['"', '/', '\n', '\r', '(', '[', '\x7b', ')', ']', '\x7d'].all (!p ·) = true) :
    Piece safe a text a := by
  have hother : ∀ d ∈ ['"', '/', '\n', '\r', '(', '[', '\x7b', ')', ']', '\x7d'],
      d ∉ text.toList := by
    intro d hd hmem
    have hnot := List.all_eq_true.1 hp d hd
    rw [h d hmem] at hnot
    cases hnot
  refine piece_plain (fun c hc => ⟨?_, ?_, isNeutral_of_notMem fun hbracket => ?_⟩) ⟨?_, ?_⟩
  · rintro rfl
    exact hother '"' (by decide) hc
  · rintro rfl
    exact hother '/' (by decide) hc
  · exact hother c (by simp_all) hc
  · exact hother '\n' (by decide)
  · exact hother '\r' (by decide)

theorem piece_quoted (s : String) : Piece safe a (Text.Quoted.encode s) a :=
  ⟨⟨Text.Quoted.notMem_encode (by decide) s, Text.Quoted.notMem_encode (by decide) s⟩,
    fun _ => scans_quoted s⟩

private theorem line_quoted (s : String) : Line safe a (Text.Quoted.encode s) a where
  toPiece := piece_quoted s
  shows := by
    rw [Text.Quoted.encode, String.toList_ofList]
    exact ⟨'"', List.mem_cons_self, by decide⟩

private theorem Text.piece_camelCase (name : String) : Piece safe a (Text.camelCase name) a :=
  piece_of_class (Text.isAlphanum_of_mem_camelCase name) (by decide)

private theorem Decimal.piece_designValue (x : Float) : Piece safe a (Decimal.designValue x) a :=
  piece_of_class (Decimal.numeric_designValue x) (by decide)

private theorem Spacing.piece_ofLength (value : Float) :
    Piece safe [] (Spacing.ofLength value).display [] := by
  rw [ofLength]
  split
  · next name hname =>
    obtain ⟨entry, hentry, rfl⟩ := Option.map_eq_some_iff.1 hname
    have hall : ∀ name ∈ tokens.map Prod.snd, Fixed [] ("." ++ name).toList [] := by
      unfold tokens
      simp only [List.map_cons, List.map_nil]
      decide
    exact (hall _ (List.mem_map_of_mem (List.mem_of_find?_eq_some hentry))).line.toPiece
  · exact Decimal.piece_designValue value

private theorem Spacing.piece_ofGap (value : Float) :
    Piece safe [] (Spacing.ofGap value).display [] := by
  rw [ofGap]
  split
  · exact Decimal.piece_designValue overlapValue
  · exact piece_ofLength value

private theorem Rgb.piece_hex (color : Rgb) :
    Piece safe [] ("Color(hex: \"" ++ color.hex ++ "\")") [] := by
  have hfront : Fixed [] "Color(hex: ".toList [')'] := by decide
  have hrear : Fixed [')'] ")".toList [] := by decide
  have hquoted : "Color(hex: \"" ++ color.hex ++ "\")" =
      "Color(hex: " ++ Text.Quoted.encode color.hex ++ ")" := by
    rw [Text.Quoted.encode_eq (escapeChar_of_mem_hex color), ← String.toList_inj]
    simp
  rw [hquoted]
  exact (line_between hfront (piece_quoted _) hrear).toPiece

namespace Snapshot

private theorem piece_fillColor {s : Snapshot}
    (h : ∀ token ∈ s.fillToken?, Piece safe [] token []) :
    Piece safe [] s.fillColor [] := by
  have hclear : Fixed [] clearColor.toList [] := by decide
  rw [fillColor]
  split
  · exact hclear.line.toPiece
  · split
    · split
      · next style _ hstyle => exact h _ (by rw [fillToken?, hstyle]; rfl)
      · exact Rgb.piece_hex _
      · exact hclear.line.toPiece
    · exact hclear.line.toPiece

end Snapshot

namespace Widget

private theorem line_picture (name : String) : Line safe [] (picture name) [] :=
  line_between (by decide : Fixed [] "Image(veloAsset: .".toList [')']) (Text.piece_camelCase name)
    (by decide)

private theorem line_namedIcon (name : String) : Line safe [] (namedIcon name) [] :=
  line_between (by decide : Fixed [] "Icon(imageName: .".toList [')']) (Text.piece_camelCase name)
    (by decide)

private theorem line_rowTexts (s : Snapshot) : ∀ t ∈ rowTexts s, Line safe [] t [] := by
  intro t ht
  have hslots : ∀ slot ∈ rowSlots, Fixed [] (slot.2 ++ ": ").toList [] := by decide
  obtain ⟨slot, hslot, rfl⟩ := List.mem_map.1 ht
  exact line_behind (hslots slot (List.mem_filter.1 hslot).1) (piece_quoted _)

private theorem line_rowItem {s : Snapshot} {item : List String} (h : rowItem s = .ok item) :
    ∀ t ∈ item, Line safe [] t [] := by
  rw [rowItem] at h
  split at h
  · cases h
    simp
  · next leading _ =>
    obtain ⟨name, -, rfl⟩ := map_eq_ok_iff.1 h
    intro t ht
    rw [List.mem_singleton.1 ht]
    have hfront : Fixed [] "leadingItem: .icon(imageName: .".toList [')'] := by
      rw [String.toList_ofList]
      decide
    exact line_between hfront (Text.piece_camelCase name) (by decide)

private theorem sheet_listRow {s : Snapshot} {text : String} (h : listRow s = .ok text) :
    Sheet safe [] text [] := by
  obtain ⟨item, hitem, rfl⟩ := map_eq_ok_iff.1 h
  have hdivider : Fixed [] "divider: true".toList [] := by decide
  have harguments : ∀ t ∈ rowTexts s ++ item ++ ["divider: true"], Line safe [] t [] := by
    simp only [List.forall_mem_append, List.forall_mem_singleton]
    exact ⟨⟨line_rowTexts s, line_rowItem hitem⟩, hdivider.line⟩
  have hcallee : Fixed [] ("ListRow(itemViewModel: " ++ "RowViewModel" ++ "(").toList
      [')', ')'] := by
    decide
  have htail : Fixed [')', ')'] (")" ++ ")").toList [] := by decide
  rw [Fragment.append_call]
  exact sheet_call (by simp) hcallee harguments htail.line.sheet

private theorem line_buttonIcon (s : Snapshot) (switch swap : String) {argument : String}
    (ha : Fixed [] (argument ++ ": .").toList []) :
    ∀ t ∈ buttonIcon s switch swap argument, Line safe [] t [] := by
  intro t ht
  rw [buttonIcon] at ht
  split at ht
  · split at ht
    · next icon _ =>
      rw [List.mem_singleton.1 ht]
      exact line_behind ha (Text.piece_camelCase icon)
    · cases ht
  · cases ht

private theorem piece_buttonStyle (s : Snapshot) : Piece safe [] (buttonStyle s) [] := by
  rw [buttonStyle]
  split
  · exact Text.piece_camelCase _
  · exact (by decide : Fixed [] "filledA".toList []).line.toPiece

private theorem sheet_button {s : Snapshot} (parent : Option Node)
    (hfill : ∀ token ∈ s.fillToken?, Piece safe [] token []) :
    Sheet safe [] (button s parent) [] := by
  rw [button]
  split
  · exact (by decide : Fixed [] "Image(veloAsset: .arrowRightLong)".toList []).line.sheet
  · have hbackground : Fixed [] "background: ".toList [] := by decide
    have hstyle : Fixed [] "style: .".toList [] := by decide
    have hcallee : Fixed [] ("VeloButton" ++ "(").toList [')'] := by decide
    have hclose : Fixed [')'] ")".toList [] := by decide
    have hwidths : ∀ width ∈ [".infinity", ".none"],
        (∀ t ∈ ["isDisabled: false", "maxWidth: " ++ width, "action: \x7b\x7d"],
          Fixed [] t.toList []) ∧
        Fixed [] (".frame(maxWidth: " ++ width ++ ", alignment: .leading)").toList [] := by
      simp only [List.forall_mem_cons, String.toList_append]
      decide
    have hwidth : (if s.node.spansWidth parent then ".infinity" else ".none") ∈
        [".infinity", ".none"] := by
      split <;> decide
    generalize (if s.node.spansWidth parent then ".infinity" else ".none") = width at hwidth ⊢
    obtain ⟨hlast, hframe⟩ := hwidths width hwidth
    have htail : Sheet safe [')']
        (")" ++ ("\n.frame(maxWidth: " ++ (width ++ ", alignment: .leading)"))) [] := by
      have hsplit : ")" ++ ("\n.frame(maxWidth: " ++ (width ++ ", alignment: .leading)")) =
          ")" ++ "\n" ++ (".frame(maxWidth: " ++ width ++ ", alignment: .leading)") := by
        rw [← String.toList_inj]
        simp
      rw [hsplit]
      exact hclose.line.sheet.under hframe.line.sheet
    dsimp only
    rw [String.append_assoc, String.append_assoc]
    refine sheet_call (by simp) hcallee ?_ htail
    simp only [List.forall_mem_append]
    refine ⟨⟨⟨⟨?label, ?_⟩, line_buttonIcon s _ _ (by decide)⟩, line_buttonIcon s _ _ (by decide)⟩,
      fun t ht => (hlast t ht).line⟩
    case label =>
      intro t ht
      split at ht
      · cases ht
      · rw [List.mem_singleton.1 ht]
        exact line_quoted _
    simp only [List.forall_mem_cons]
    exact ⟨line_behind hbackground (Snapshot.piece_fillColor hfill),
      line_behind hstyle (piece_buttonStyle s), List.forall_mem_nil _⟩

private theorem line_badge (s : Snapshot) : Line safe [] (badge s) [] := by
  have hrear : Fixed [')'] ", backgroundColor: .infoFocus)".toList [] := by
    rw [String.toList_ofList]
    decide
  exact line_between (by decide : Fixed [] "BadgeView(text: ".toList [')']) (piece_quoted _) hrear

private theorem line_checkbox (s : Snapshot) : Line safe [] (checkbox s) [] := by
  have hfront : Fixed [] "CheckboxView(isChecked: $viewModel.isChecked, text: ".toList [')'] := by
    rw [String.toList_ofList]
    decide
  exact line_between hfront (piece_quoted _) (by decide)

private theorem sheet_segmentedControl {s : Snapshot}
    (hfill : ∀ token ∈ s.fillToken?, Piece safe [] token []) :
    Sheet safe [] (segmentedControl s) [] := by
  have hdata : Fixed [] "viewModel.segmentData".toList [] := by decide
  have hitem : Fixed [] "selectedItem: $viewModel.selectedSegment".toList [] := by
    rw [String.toList_ofList]
    decide
  have hbackground : Fixed [] "backgroundColor: ".toList [] := by decide
  have harguments : ∀ t ∈ ["viewModel.segmentData", "selectedItem: $viewModel.selectedSegment",
      "backgroundColor: " ++ s.fillColor], Line safe [] t [] := by
    simp only [List.forall_mem_cons]
    exact ⟨hdata.line, hitem.line, line_behind hbackground (Snapshot.piece_fillColor hfill),
      List.forall_mem_nil _⟩
  have hlabels : ∀ t ∈ segmentLines, Fixed [] t.toList [] := by
    have hcolor : Fixed [] ("    .foregroundColor(viewModel.selectedSegment == item " ++
        "? .textNeutral05 : .textNeutral9)").toList [] := by
      rw [String.toList_append, String.toList_ofList, String.toList_ofList]
      decide
    unfold segmentLines
    simp only [List.forall_mem_cons]
    refine ⟨by decide, ?_, ?_, hcolor, by decide, List.forall_mem_nil _⟩
    · rw [String.toList_ofList]
      decide
    · rw [String.toList_ofList]
      decide
  have hlabel : Sheet safe [] ("\n".intercalate segmentLines) [] :=
    sheet_intercalate (by decide) fun t ht => (hlabels t ht).line.sheet
  have hopen : Fixed [')'] ") \x7b item in".toList ['\x7d'] := by decide
  have hclose : Fixed ['\x7d'] "\x7d".toList [] := by decide
  have hchange : Fixed []
      ".onChange(of: viewModel.selectedSegment) \x7b _, _ in \x7d".toList [] := by
    rw [String.toList_ofList]
    decide
  have htail (inner : String) : ")" ++ (" \x7b item in\n" ++ (inner ++
      "\n\x7d\n.onChange(of: viewModel.selectedSegment) \x7b _, _ in \x7d")) =
      ") \x7b item in" ++ "\n" ++ inner ++ "\n" ++
        ("\x7d" ++ "\n" ++ ".onChange(of: viewModel.selectedSegment) \x7b _, _ in \x7d") := by
    rw [← String.toList_inj]
    simp
  have hcallee : Fixed [] ("SegmentedPicker" ++ "(").toList [')'] := by decide
  rw [segmentedControl, String.append_assoc, String.append_assoc]
  refine sheet_call (by simp) hcallee harguments ?_
  rw [htail]
  exact sheet_enclosed hopen.line.sheet hlabel (hclose.line.sheet.under hchange.line.sheet)

private theorem line_fieldIcon (s : Snapshot) (start : String) :
    Line safe [] (fieldIcon s start) [] := by
  rw [fieldIcon]
  split
  · exact line_picture _
  · exact (by decide : Fixed [] "nil".toList []).line

private theorem sheet_inputField (s : Snapshot) {binding : String} (hb : Piece safe [] binding []) :
    Sheet safe [] (inputField s binding) [] := by
  have htext : Fixed [] "text: $viewModel.".toList [] := by decide
  have hlabel : Fixed [] "label: ".toList [] := by decide
  have hplaceholder : Fixed [] "placeholder: ".toList [] := by decide
  have hemail : Fixed [] "isEmail: false".toList [] := by decide
  have hright : Fixed [] "iconRight: ".toList [] := by decide
  have hleft : Fixed [] "iconLeft: ".toList [] := by decide
  have hnil : Fixed [] "nil".toList [] := by decide
  have hicon : Line safe [] (if s.node.isOn "Icon Left" then fieldIcon s "Icon Left" else "nil")
      [] := by
    split
    · exact line_fieldIcon s _
    · exact hnil.line
  have hcallee : Fixed [] ("CustomTextField" ++ "(").toList [')'] := by decide
  have hclose : Fixed [')'] (")" ++ "").toList [] := by decide
  rw [inputField, ← String.append_empty (s := Fragment.call _ _)]
  refine sheet_call (by simp) hcallee ?_ hclose.line.sheet
  simp only [List.forall_mem_cons]
  exact ⟨line_behind htext hb, line_behind hlabel (piece_quoted _),
    line_behind hplaceholder (piece_quoted _), hemail.line,
    line_behind hright (line_fieldIcon s _).toPiece, line_behind hleft hicon.toPiece,
    List.forall_mem_nil _⟩

private theorem line_icon {s : Snapshot} {text : String} (h : icon s = .ok text) :
    Line safe [] text [] := by
  rw [icon] at h
  split at h
  · cases h
    exact line_namedIcon _
  · cases h

private theorem line_itemIcon {s : Snapshot} {text : String} (h : itemIcon s = .ok text) :
    Line safe [] text [] := by
  obtain ⟨name, -, rfl⟩ := map_eq_ok_iff.1 h
  exact line_namedIcon name

private theorem piece_fieldBinding (s : Snapshot) (state : ModelState) :
    Piece safe a (fieldBinding s state) a :=
  piece_of_class (isNameChar_of_mem_fieldBinding s state) (by decide)

private theorem sheet_fragment {kind : ComponentKind} {s : Snapshot} {parent : Option Node}
    {state : ModelState} {text : String} (h : fragment kind s parent state = .ok text)
    (hfill : kind = .button ∨ kind = .segmentedControl →
      ∀ token ∈ s.fillToken?, Piece safe [] token []) : Sheet safe [] text [] := by
  rw [fragment.eq_def] at h
  cases kind with
  | listRow => exact sheet_listRow h
  | button =>
    cases h
    exact sheet_button parent (hfill (Or.inl rfl))
  | badge =>
    cases h
    exact (line_badge s).sheet
  | segmentedControl =>
    cases h
    exact sheet_segmentedControl (hfill (Or.inr rfl))
  | inputField =>
    cases h
    exact sheet_inputField s (piece_fieldBinding s state)
  | checkbox =>
    cases h
    exact (line_checkbox s).sheet
  | icon => exact (line_icon h).sheet
  | image =>
    cases h
    exact (line_picture s.name).sheet
  | divider =>
    cases h
    have hdivider : Fixed [] "Separator().padding(.vertical, .xs)".toList [] := by
      rw [String.toList_ofList]
      decide
    exact hdivider.line.sheet
  | leadingItem => exact (line_itemIcon h).sheet
  | trailingItem => exact (line_itemIcon h).sheet
  | container =>
    cases h
    have hfront : Fixed [] "Text(".toList [')'] := by decide
    exact (line_between hfront (piece_quoted s.name) (by decide)).sheet

end Widget

namespace Snapshot

variable {s : Snapshot}

private theorem piece_radius {radius : String} (h : s.radius? = some radius)
    (hcorner : ∀ token ∈ s.cornerToken?, Piece safe [] token []) : Piece safe [] radius [] := by
  rw [radius?] at h
  split at h
  · cases h
  · split at h
    · cases h
    · cases h
      split
      · next style hstyle => exact hcorner _ (by rw [cornerToken?, hstyle]; rfl)
      · exact Spacing.piece_ofLength _

private theorem line_cornerModifier {parent : Option Node} {modifier : String}
    (h : s.cornerModifier? parent = some modifier)
    (hcorner : ∀ token ∈ s.cornerToken?, Piece safe [] token []) : Line safe [] modifier [] := by
  rw [cornerModifier?.eq_def] at h
  split at h
  · cases h
  · obtain ⟨radius, hradius, rfl⟩ := Option.map_eq_some_iff.1 h
    have hfront : Fixed [] ".cornerRadius(".toList [')'] := by decide
    exact line_between hfront (piece_radius hradius hcorner) (by decide)

private theorem line_padding (p : Padding) : ∀ m ∈ p.modifiers, Line safe [] m.text [] := by
  have hedges (edges : EdgeSet) : Fixed [] (".padding(" ++ edges.argument).toList [')'] := by
    cases edges <;> decide
  intro m hm
  obtain ⟨edges, value, rfl⟩ := Padding.exists_of_mem_modifiers hm
  exact line_between (hedges edges) (Spacing.piece_ofLength value) (by decide)

theorem line_frameModifiers (parent : Option Node)
    (hfill : ∀ token ∈ s.fillToken?, Piece safe [] token [])
    (hcorner : ∀ token ∈ s.cornerToken?, Piece safe [] token []) :
    ∀ t ∈ s.frameModifiers parent, Line safe [] t [] := by
  have hfront : Fixed [] ".background(".toList [')'] := by decide
  rw [frameModifiers]
  simp only [List.forall_mem_append, List.forall_mem_singleton]
  refine ⟨⟨?padding, line_between hfront (piece_fillColor hfill) (by decide)⟩, ?corner⟩
  case padding =>
    intro t ht
    split at ht
    · cases ht
    · obtain ⟨m, hm, rfl⟩ := List.mem_map.1 ht
      exact line_padding _ m hm
  case corner =>
    intro t ht
    exact line_cornerModifier (Option.mem_toList.1 ht) hcorner

theorem line_stackOpener (axis : Axis) {spacing : String} (h : Piece safe [] spacing []) :
    Line safe [] (stackOpener axis spacing ++ " \x7b") ['\x7d'] := by
  have hfront : Fixed [] (axis.container ++ "(spacing: ").toList [')'] := by
    cases axis <;> decide
  have hbrace : Fixed [] " \x7b".toList ['\x7d'] := by decide
  exact (line_between hfront h (by decide : Fixed [')'] ")".toList [])).append hbrace.line.toPiece

private theorem sheet_scrolled (parent : Option Node) {stack : String}
    (h : Sheet safe [] stack []) :
    Sheet safe [] (if parent.isNone then Fragment.block "ScrollView" [stack] else stack) [] := by
  have hscroll : Fixed [] ("ScrollView" ++ " \x7b").toList ['\x7d'] := by decide
  split
  · exact sheet_block hscroll.line.sheet (List.forall_mem_singleton.2 fun _ => h)
  · exact h

theorem mem_of_mem_intersperse {α : Type} {x between : α} {xs : List α}
    (h : x ∈ xs.intersperse between) : x = between ∨ x ∈ xs := by
  induction xs with
  | nil => cases h
  | cons y ys ih =>
    cases ys with
    | nil => exact Or.inr h
    | cons z zs =>
      rw [List.intersperse_cons_cons, List.mem_cons, List.mem_cons] at h
      rcases h with rfl | rfl | h
      · exact Or.inr List.mem_cons_self
      · exact Or.inl rfl
      · exact (ih h).imp_right (List.mem_cons_of_mem y)

theorem piece_gap (n : Node) (parent : Option Node) :
    Piece safe [] (Arrangement.of n parent).spacing.display [] :=
  Spacing.piece_ofGap _

theorem piece_rowGap (n : Node) (parent : Option Node) :
    Piece safe [] (if (Arrangement.of n parent).axis = .horizontal ∧
      (Arrangement.of n parent).spansWidth then ".zero"
      else (Arrangement.of n parent).spacing.display) [] := by
  split
  · exact (by decide : Fixed [] ".zero".toList []).line.toPiece
  · exact piece_gap n parent

private theorem sheet_frameModifiers (parent : Option Node)
    (hfill : ∀ token ∈ s.fillToken?, Piece safe [] token [])
    (hcorner : ∀ token ∈ s.cornerToken?, Piece safe [] token []) :
    Sheet safe [] ("\n".intercalate (s.frameModifiers parent)) [] := by
  refine sheet_intercalate (by simp [frameModifiers]) fun t ht => ?_
  exact (line_frameModifiers parent hfill hcorner t ht).sheet

private theorem sheet_frameFragment {parent : Option Node} {parts : List String}
    (hparts : ∀ t ∈ parts, t ≠ "" → Sheet safe [] t [])
    (hfill : ∀ token ∈ s.fillToken?, Piece safe [] token [])
    (hcorner : ∀ token ∈ s.cornerToken?, Piece safe [] token []) :
    Sheet safe [] (s.frameFragment parent parts) [] := by
  have hspacer : Fixed [] "Spacer()".toList [] := by decide
  have hspread : ∀ t ∈ (if s.node.spreadsChildren parent then parts.intersperse "Spacer()"
      else parts), t ≠ "" → Sheet safe [] t [] := by
    split
    · intro t ht hne
      rcases mem_of_mem_intersperse ht with rfl | ht
      · exact hspacer.line.sheet
      · exact hparts t ht hne
    · exact hparts
  rw [frameFragment]
  dsimp only
  split
  · exact sheet_block (line_stackOpener _ (piece_gap s.node parent)).sheet hspread
  · have hstack := sheet_block
      (line_stackOpener (Arrangement.of s.node parent).axis (piece_rowGap s.node parent)).sheet
      hspread
    exact (sheet_scrolled parent hstack).under (sheet_frameModifiers parent hfill hcorner)

theorem line_groupOpener {name : String} (hname : Piece safe [] ("/* " ++ name ++ " */") []) :
    Line safe [] ("VStack(spacing: .md) /* " ++ name ++ " */" ++ " \x7b") ['\x7d'] := by
  have hfront : Fixed [] "VStack(spacing: .md) ".toList [] := by decide
  have hsplit : "VStack(spacing: .md) /* " ++ name ++ " */" ++ " \x7b" =
      "VStack(spacing: .md) " ++ ("/* " ++ name ++ " */") ++ " \x7b" := by
    rw [← String.toList_inj]
    simp
  rw [hsplit]
  exact line_between hfront hname (by decide)

private theorem sheet_groupFragment {parts : List String}
    (hparts : ∀ t ∈ parts, t ≠ "" → Sheet safe [] t [])
    (hname : Piece safe [] ("/* " ++ s.name ++ " */") []) :
    Sheet safe [] (groupFragment s.name parts) [] :=
  sheet_block (line_groupOpener hname).sheet hparts

private theorem sheet_textFragment {parent : Option Node} (hfont : Piece safe [] s.fontName [])
    (hcolor : Piece safe [] s.boundColor []) : Sheet safe [] (s.textFragment parent) [] := by
  have htext : Fixed [] "Text(".toList [')'] := by decide
  have hfontFront : Fixed [] ".font(.".toList [')'] := by decide
  have hcolorFront : Fixed [] ".foregroundColor(.".toList [')'] := by decide
  have hopacity : Fixed [] ".opacity(".toList [')'] := by decide
  have hclose : Fixed [')'] ")".toList [] := by decide
  have hframe (position : RowPosition) :
      Fixed [] (".frame(maxWidth: .infinity, alignment: ." ++ position.name ++ ")").toList [] := by
    rw [String.toList_append, String.toList_append, String.toList_ofList]
    cases position <;> decide
  refine sheet_intercalate (by simp) ?_
  simp only [List.forall_mem_append, List.forall_mem_cons]
  refine ⟨⟨⟨⟨?characters, List.forall_mem_nil _⟩, ?font⟩, ?color⟩, ?opacity, (hframe _).line.sheet,
    List.forall_mem_nil _⟩
  case characters => exact (line_between htext (piece_quoted _) hclose).sheet
  case font =>
    intro t ht
    split at ht
    · cases ht
    · rw [List.mem_singleton.1 ht]
      exact (line_between hfontFront hfont hclose).sheet
  case color =>
    intro t ht
    split at ht
    · cases ht
    · rw [List.mem_singleton.1 ht]
      exact (line_between hcolorFront hcolor hclose).sheet
  case opacity => exact (line_between hopacity (Decimal.piece_designValue _) hclose).sheet

private theorem sheet_shapeFragment {shape : String} (hshape : shape ∈ ["Rectangle", "Circle"])
    (hfill : ∀ token ∈ s.fillToken?, Piece safe [] token []) :
    Sheet safe [] (s.shapeFragment shape) [] := by
  have hfront : ∀ shape ∈ ["Rectangle", "Circle"], Fixed [] (shape ++ "().fill(").toList [')'] := by
    decide
  exact (line_between (hfront shape hshape) (piece_fillColor hfill) (by decide)).sheet

/-- The name that is written into a comment. -/
def remark? (s : Snapshot) : Option String :=
  match s.node.kind with
  | .group => some s.name
  | .other kind => some kind
  | _ => none

/-- A name that is written into a comment has no line break. -/
def NamedOnOneLine (s : Snapshot) : Prop :=
  ∀ remark ∈ s.remark?, OneLine remark.toList

instance (s : Snapshot) : Decidable s.NamedOnOneLine :=
  inferInstanceAs (Decidable (∀ remark ∈ s.remark?, OneLine remark.toList))

private theorem oneLine_fontName : OneLine s.fontName.toList := by
  rw [fontName]
  split
  · exact Style.oneLine_typographyName _
  · decide

private theorem oneLine_boundColor : OneLine s.boundColor.toList := by
  rw [boundColor]
  split
  · exact Style.oneLine_variableToken _
  · decide

/-- The names of a node fit into its text: where they are safe, the text that holds them is scanned
past them with the same brackets awaited. -/
def NamesFit (safe : Prop) (config : Config) (s : Snapshot) : Prop :=
  s.NamedOnOneLine ∧ (safe → ∀ text ∈ s.nameTexts config, Scans [] text.toList [])

section

variable {config : Config} (h : s.NamesFit safe config)

include h

private theorem piece_fillToken (hmem : ∀ token ∈ s.fillToken?, token ∈ s.nameTexts config) :
    ∀ token ∈ s.fillToken?, Piece safe [] token [] := by
  intro token htoken
  refine ⟨?_, fun hsafe => h.2 hsafe token (hmem token htoken)⟩
  obtain ⟨style, -, rfl⟩ := Option.map_eq_some_iff.1 htoken
  exact Style.oneLine_styleToken style (by decide)

private theorem piece_cornerToken (hmem : ∀ token ∈ s.cornerToken?, token ∈ s.nameTexts config) :
    ∀ token ∈ s.cornerToken?, Piece safe [] token [] := by
  intro token htoken
  refine ⟨?_, fun hsafe => h.2 hsafe token (hmem token htoken)⟩
  obtain ⟨style, -, rfl⟩ := Option.map_eq_some_iff.1 htoken
  exact Style.oneLine_styleToken style (by decide)

theorem pieces_of_frame (hk : s.node.kind = .frame) :
    (∀ token ∈ s.fillToken?, Piece safe [] token []) ∧
      ∀ token ∈ s.cornerToken?, Piece safe [] token [] := by
  constructor
  · refine piece_fillToken h fun token ht => ?_
    rw [nameTexts, hk]
    exact List.mem_append_left _ (Option.mem_toList.2 ht)
  · refine piece_cornerToken h fun token ht => ?_
    rw [nameTexts, hk]
    exact List.mem_append_right _ (Option.mem_toList.2 ht)

theorem piece_groupName (hk : s.node.kind = .group) :
    Piece safe [] ("/* " ++ s.name ++ " */") [] := by
  have hline := h.1 s.name (by rw [remark?, hk]; rfl)
  have hmarks : OneLine "/* ".toList ∧ OneLine " */".toList := by decide
  refine ⟨?_, fun hsafe => h.2 hsafe _ (by rw [nameTexts, hk]; exact List.mem_singleton_self _)⟩
  rw [String.toList_append, String.toList_append]
  exact Text.oneLine_append.2 ⟨Text.oneLine_append.2 ⟨hmarks.1, hline⟩, hmarks.2⟩

private theorem sheet_leafFragment {parent : Option Node} {text : String}
    (hleaf : s.leafFragment? parent = some text) : Sheet safe [] text [] := by
  rw [leafFragment?.eq_def] at hleaf
  cases hk : s.node.kind with
  | frame => simp [hk] at hleaf
  | group => simp [hk] at hleaf
  | componentInstance => simp [hk] at hleaf
  | text =>
    simp only [hk, Option.some.injEq] at hleaf
    rw [← hleaf]
    exact sheet_textFragment
      ⟨oneLine_fontName, fun hsafe => h.2 hsafe _ (by simp [nameTexts, hk])⟩
      ⟨oneLine_boundColor, fun hsafe => h.2 hsafe _ (by simp [nameTexts, hk])⟩
  | rectangle =>
    simp only [hk, Option.some.injEq] at hleaf
    rw [← hleaf]
    exact sheet_shapeFragment (by simp)
      (piece_fillToken h fun token ht => by simpa [nameTexts, hk] using ht)
  | ellipse =>
    simp only [hk, Option.some.injEq] at hleaf
    rw [← hleaf]
    exact sheet_shapeFragment (by simp)
      (piece_fillToken h fun token ht => by simpa [nameTexts, hk] using ht)
  | vector =>
    simp only [hk, Option.some.injEq] at hleaf
    rw [← hleaf]
    exact sheet_shapeFragment (by simp)
      (piece_fillToken h fun token ht => by simpa [nameTexts, hk] using ht)
  | line =>
    simp only [hk, Option.some.injEq] at hleaf
    rw [← hleaf]
    exact (by decide : Fixed [] "Separator()".toList []).line.sheet
  | other kind =>
    simp only [hk, Option.some.injEq] at hleaf
    have hline := h.1 kind (by rw [remark?, hk]; rfl)
    have hremark : OneLine "// Unhandled node type: ".toList ∧
        Text.Shows "// Unhandled node type: ".toList := by decide
    rw [← hleaf]
    constructor
    · refine Text.tidy_of_oneLine ?_ ?_
      · rw [String.toList_append]
        exact Text.oneLine_append.2 ⟨hremark.1, hline⟩
      · rw [String.toList_append]
        exact hremark.2.append _
    · intro hsafe
      have hscans := h.2 hsafe _ (by rw [nameTexts, hk]; exact List.mem_singleton_self _)
      rw [String.toList_append] at hscans
      exact hscans

end

end Snapshot

open Mockup.Composition (Composed)

/-- A composed node is a sheet, unless it is omitted and leaves no text. -/
theorem Composition.Composed.sheet {config : Config} {parent : Option Node} {s : Snapshot}
    {before after : ModelState} {text : String} (h : Composed config parent s before text after)
    (hnames : ∀ v ∈ s.visible config, v.NamesFit safe config) :
    (s.visible config = [] ∧ text = "") ∨ Sheet safe [] text [] := by
  revert hnames
  refine Composed.induct (motive := fun _ s _ text _ =>
    (∀ v ∈ s.visible config, v.NamesFit safe config) →
      (s.visible config = [] ∧ text = "") ∨ Sheet safe [] text [])
    ?omitted ?frame ?group ?widget ?leaf h
  case omitted =>
    intro parent s state hk ho _
    exact Or.inl ⟨Snapshot.visible_omitted hk ho, rfl⟩
  case frame =>
    intro parent s before parts after hk ho hparts hnames
    obtain ⟨hself, hbelow⟩ := Snapshot.forall_visible_frame hk ho hnames
    obtain ⟨hfill, hcorner⟩ := Snapshot.pieces_of_frame hself hk
    refine Or.inr (Snapshot.sheet_frameFragment (hparts.forall_mem ?_) hfill hcorner)
    intro c hc b t a hcomposed hne
    exact (hcomposed.2 (hbelow c hc)).resolve_left fun hempty => hne hempty.2
  case group =>
    intro parent s before parts after hk hparts hnames
    obtain ⟨hself, hbelow⟩ := Snapshot.forall_visible_group hk hnames
    refine Or.inr (Snapshot.sheet_groupFragment (hparts.forall_mem ?_)
      (Snapshot.piece_groupName hself hk))
    intro c hc b t a hcomposed hne
    exact (hcomposed.2 (hbelow c hc)).resolve_left fun hempty => hne hempty.2
  case widget =>
    intro parent s state text hk hfragment hnames
    rw [Snapshot.visible_instance hk] at hnames
    have hself := hnames s List.mem_cons_self
    refine Or.inr (Widget.sheet_fragment hfragment ?_)
    rintro (hkind | hkind)
    · exact Snapshot.piece_fillToken hself fun token ht => by
        simpa [Snapshot.nameTexts, hk, hkind] using ht
    · exact Snapshot.piece_fillToken hself fun token ht => by
        simpa [Snapshot.nameTexts, hk, hkind] using ht
  case leaf =>
    intro parent s state text hleaf hnames
    rw [Snapshot.visible_leaf hleaf] at hnames
    exact Or.inr (Snapshot.sheet_leafFragment (hnames s List.mem_cons_self) hleaf)

end

end Mockup
