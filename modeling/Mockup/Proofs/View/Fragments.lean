import Mockup.Proofs.View.Binding
import Mockup.Proofs.View.Phrases

/-!
# Uses of a fragment

A block and a call use what their parts use, and a widget uses what it is bound to.
-/

namespace Mockup

open Swift

theorem passage_under {a b : String} {xs ys : List (List Char)} (ha : Passage a.toList xs)
    (hb : Passage b.toList ys) : Passage (a ++ "\n" ++ b).toList (xs ++ ys) := by
  rw [String.append_assoc, String.toList_append, String.toList_append]
  exact ha.append_feed hb

/-- Texts that are whole lines, with all that they use one after the other. -/
inductive Passages : List String → List (List Char) → Prop where
  | nil : Passages [] []
  | cons {text : String} {texts : List String} {xs ys : List (List Char)}
    (head : Passage text.toList xs) (tail : Passages texts ys) :
    Passages (text :: texts) (xs ++ ys)

namespace Passages

theorem of_phrases {texts : List String} (h : ∀ t ∈ texts, Phrase t.toList []) :
    Passages texts [] := by
  induction texts with
  | nil => exact .nil
  | cons t texts ih =>
    exact .cons (h t List.mem_cons_self).passage (ih fun u hu => h u (List.mem_cons_of_mem t hu))

theorem intersperse {texts : List String} {names : List (List Char)} (h : Passages texts names)
    {between : String} (hb : Passage between.toList []) :
    Passages (texts.intersperse between) names := by
  induction h with
  | nil => exact .nil
  | @cons text texts xs ys head tail ih =>
    cases tail with
    | nil => exact .cons head .nil
    | cons second rest =>
      have hrest := Passages.cons hb ih
      rw [List.nil_append] at hrest
      exact .cons head hrest

private theorem eq_nil_of_empty {names : List (List Char)} (h : Passage "".toList names) :
    names = [] :=
  h.2.symm

private theorem filled {texts : List String} {names : List (List Char)} (h : Passages texts names) :
    Passages (texts.filter (· ≠ "")) names := by
  induction h with
  | nil => exact .nil
  | @cons text texts xs ys head _ ih =>
    by_cases hempty : text = ""
    · rw [List.filter_cons_of_neg (by simp [hempty])]
      rw [hempty] at head
      rw [eq_nil_of_empty head]
      exact ih
    · rw [List.filter_cons_of_pos (by simpa using hempty)]
      exact .cons head ih

theorem joined {texts : List String} {names : List (List Char)} (h : Passages texts names)
    {ending separator : String} (hs : separator = ending ++ "\n")
    (he : ∀ text xs, Passage text xs → Passage (text ++ ending.toList) xs) :
    Passage (separator.intercalate texts).toList names := by
  induction h with
  | nil => exact ⟨rfl, rfl⟩
  | @cons text texts xs ys head tail ih =>
    cases tail with
    | nil =>
      rw [String.intercalate_singleton, List.append_nil]
      exact head
    | cons second rest =>
      have hhead := he _ _ head
      rw [← String.toList_append] at hhead
      have hall := passage_under hhead ih
      rw [String.intercalate_cons_cons]
      simp only [hs, String.append_assoc] at hall ⊢
      exact hall

theorem lines {texts : List String} {names : List (List Char)} (h : Passages texts names) :
    Passage ("\n".intercalate texts).toList names := by
  refine h.joined (String.empty_append).symm fun text xs htext => ?_
  rw [String.toList_empty, List.append_nil]
  exact htext

theorem arguments {texts : List String} {names : List (List Char)} (h : Passages texts names) :
    Passage (",\n".intercalate texts).toList names := by
  have hcomma : ",".toList = [','] := rfl
  have hseparator : ",\n" = "," ++ "\n" := rfl
  refine h.joined hseparator fun text xs htext => ?_
  rw [hcomma]
  exact htext.concat_comma

end Passages

namespace Fragment

theorem passage_block {opener : String} {parts : List String} {names : List (List Char)}
    (hopener : Passage (opener ++ " \x7b").toList []) (hparts : Passages parts names) :
    Passage (block opener parts).toList names := by
  have hclose : Passage "\x7d".toList [] := by decide
  have hinner := hparts.filled.lines
  rw [block]
  split
  · next hempty =>
    have hsplit : opener ++ " \x7b\n\x7d" = opener ++ " \x7b" ++ "\n" ++ "\x7d" := by
      rw [← String.toList_inj]
      simp
    rw [hempty, String.intercalate_nil] at hinner
    rw [Passages.eq_nil_of_empty hinner, hsplit]
    exact passage_under hopener hclose
  · have hsplit (inner : String) : opener ++ " \x7b\n" ++ inner ++ "\n\x7d" =
        opener ++ " \x7b" ++ "\n" ++ (inner ++ "\n" ++ "\x7d") := by
      rw [← String.toList_inj]
      simp
    have hbody := passage_under (hinner.indent indentWidth) hclose
    rw [List.append_nil] at hbody
    rw [hsplit]
    exact passage_under hopener hbody

theorem passage_call {callee tail : String} {arguments : List String}
    {xs ys : List (List Char)} (hcallee : Passage (callee ++ "(").toList [])
    (harguments : Passages arguments xs) (htail : Passage (")" ++ tail).toList ys) :
    Passage (call callee arguments ++ tail).toList (xs ++ ys) := by
  have hsplit (inner : String) : callee ++ "(\n" ++ inner ++ "\n)" ++ tail =
      callee ++ "(" ++ "\n" ++ (inner ++ "\n" ++ (")" ++ tail)) := by
    rw [← String.toList_inj]
    simp
  have hbody := passage_under (harguments.arguments.indent indentWidth) htail
  have hall := passage_under hcallee hbody
  rw [List.nil_append] at hall
  rw [call, hsplit]
  exact hall

theorem append_call (front callee : String) (arguments : List String) :
    front ++ call callee arguments = call (front ++ callee) arguments := by
  simp only [call, String.append_assoc]

end Fragment

theorem phrase_line {front inner rear : String} {xs ys zs : List (List Char)}
    (hf : Leads front.toList xs) (hi : Phrase inner.toList ys) (hr : Follows ' ' rear.toList zs) :
    Phrase (front ++ inner ++ rear).toList (xs ++ (ys ++ zs)) := by
  rw [String.append_assoc, String.toList_append, String.toList_append]
  exact hf.append (hi.append hr)

theorem phrase_argument {front inner : String} {xs ys : List (List Char)}
    (hf : Leads front.toList xs) (hi : Phrase inner.toList ys) :
    Phrase (front ++ inner ++ ")").toList (xs ++ ys) := by
  have hrear : Follows ' ' ")".toList [] := by decide
  have hline := phrase_line hf hi hrear
  rw [List.append_nil] at hline
  exact hline

private theorem phrase_tail {front inner : String} {xs ys : List (List Char)}
    (hf : Leads front.toList xs) (hi : Phrase inner.toList ys) :
    Phrase (front ++ inner).toList (xs ++ ys) := by
  rw [String.toList_append]
  exact hf.append hi

namespace Snapshot

/-- The token of the shared style that a node may be filled with. -/
def fillToken? (s : Snapshot) : Option String :=
  s.fillStyle.map (Style.styleToken · "Color")

theorem phrase_fillColor {s : Snapshot} (h : ∀ token ∈ s.fillToken?, Phrase token.toList []) :
    Phrase s.fillColor.toList [] := by
  have hclear : Phrase clearColor.toList [] := by decide
  rw [fillColor]
  split
  · exact hclear
  · split
    · split
      · next style _ hstyle => exact h _ (by rw [fillToken?, hstyle]; rfl)
      · exact Rgb.phrase_hex _
      · exact hclear
    · exact hclear

end Snapshot

namespace Widget

private theorem phrase_picture (name : String) : Phrase (picture name).toList [] := by
  have hfront : Leads "Image(veloAsset: .".toList [] := by decide
  exact phrase_argument hfront (Text.phrase_camelCase name)

private theorem phrase_namedIcon (name : String) : Phrase (namedIcon name).toList [] := by
  have hfront : Leads "Icon(imageName: .".toList [] := by decide
  exact phrase_argument hfront (Text.phrase_camelCase name)

private theorem phrase_rowTexts (s : Snapshot) : ∀ t ∈ rowTexts s, Phrase t.toList [] := by
  intro t ht
  have hslots : ∀ slot ∈ rowSlots, Leads (slot.2 ++ ": ").toList [] := by decide
  obtain ⟨slot, hslot, rfl⟩ := List.mem_map.1 ht
  exact phrase_tail (hslots slot (List.mem_filter.1 hslot).1) (phrase_quoted _)

private theorem phrase_rowItem {s : Snapshot} {item : List String} (h : rowItem s = .ok item) :
    ∀ t ∈ item, Phrase t.toList [] := by
  rw [rowItem] at h
  split at h
  · cases h
    simp
  · next leading _ =>
    cases hname : leading.itemName with
    | error fault => rw [hname] at h; cases h
    | ok name =>
      rw [hname] at h
      cases h
      intro t ht
      rw [List.mem_singleton.1 ht]
      have hfront : Leads "leadingItem: .icon(imageName: .".toList [] := by
        rw [String.toList_ofList]
        decide
      exact phrase_argument hfront (Text.phrase_camelCase name)

private theorem passage_listRow {s : Snapshot} {text : String} (h : listRow s = .ok text) :
    Passage text.toList [] := by
  rw [listRow] at h
  cases hitem : rowItem s with
  | error fault => rw [hitem] at h; cases h
  | ok item =>
    rw [hitem] at h
    cases h
    have harguments : Passages (rowTexts s ++ item ++ ["divider: true"]) [] := by
      refine Passages.of_phrases fun t ht => ?_
      rw [List.mem_append, List.mem_append, List.mem_singleton] at ht
      rcases ht with (ht | ht) | rfl
      · exact phrase_rowTexts s t ht
      · exact phrase_rowItem hitem t ht
      · decide
    have hcallee : Passage ("ListRow(itemViewModel: " ++ "RowViewModel" ++ "(").toList [] := by
      decide
    have htail : Passage (")" ++ ")").toList [] := by decide
    dsimp only
    rw [Fragment.append_call]
    exact Fragment.passage_call hcallee harguments htail

private theorem phrase_buttonIcon (s : Snapshot) (switch swap : String) {argument : String}
    (ha : Leads (argument ++ ": .").toList []) :
    ∀ t ∈ buttonIcon s switch swap argument, Phrase t.toList [] := by
  intro t ht
  rw [buttonIcon] at ht
  split at ht
  · split at ht
    · next icon _ =>
      rw [List.mem_singleton.1 ht]
      exact phrase_tail ha (Text.phrase_camelCase icon)
    · cases ht
  · cases ht

private theorem phrase_buttonStyle (s : Snapshot) : Phrase (buttonStyle s).toList [] := by
  rw [buttonStyle]
  split
  · exact Text.phrase_camelCase _
  · decide

private theorem passage_button {s : Snapshot} (parent : Option Node)
    (hfill : ∀ token ∈ s.fillToken?, Phrase token.toList []) :
    Passage (button s parent).toList [] := by
  rw [button]
  split
  · decide
  · have hbackground : Leads "background: ".toList [] := by decide
    have hstyle : Leads "style: .".toList [] := by decide
    have hleft := phrase_buttonIcon s "Content Left" "Icon-Left"
      (by decide : Leads ("iconLeft" ++ ": .").toList [])
    have hright := phrase_buttonIcon s "Icon Right" "Icon-Right"
      (by decide : Leads ("iconRight" ++ ": .").toList [])
    have hcallee : Passage ("VeloButton" ++ "(").toList [] := by decide
    have hwidths : ∀ width ∈ [".infinity", ".none"],
        (∀ t ∈ ["isDisabled: false", "maxWidth: " ++ width, "action: \x7b\x7d"],
          Phrase t.toList []) ∧
        Passage (")" ++ ("\n.frame(maxWidth: " ++ (width ++ ", alignment: .leading)"))).toList
          [] := by
      decide
    have hwidth : (if s.node.spansWidth parent then ".infinity" else ".none") ∈
        [".infinity", ".none"] := by
      split <;> decide
    generalize (if s.node.spansWidth parent then ".infinity" else ".none") = width at hwidth ⊢
    obtain ⟨hlast, htail⟩ := hwidths width hwidth
    dsimp only
    rw [String.append_assoc, String.append_assoc]
    refine Fragment.passage_call hcallee (Passages.of_phrases ?_) htail
    simp only [List.forall_mem_append]
    refine ⟨⟨⟨⟨?label, ?_⟩, hleft⟩, hright⟩, hlast⟩
    case label =>
      intro t ht
      split at ht
      · cases ht
      · rw [List.mem_singleton.1 ht]
        exact phrase_quoted _
    intro t ht
    rcases List.mem_cons.1 ht with rfl | ht
    · exact phrase_tail hbackground (Snapshot.phrase_fillColor hfill)
    · rw [List.mem_singleton.1 ht]
      exact phrase_tail hstyle (phrase_buttonStyle s)

private theorem phrase_badge (s : Snapshot) : Phrase (badge s).toList [] := by
  have hfront : Leads "BadgeView(text: ".toList [] := by decide
  have hrear : Follows ' ' ", backgroundColor: .infoFocus)".toList [] := by
    rw [String.toList_ofList]
    decide
  exact phrase_line hfront (phrase_quoted _) hrear

private theorem phrase_checkbox (s : Snapshot) :
    Phrase (checkbox s).toList ["isChecked".toList] := by
  have hfront : Leads "CheckboxView(isChecked: $viewModel.isChecked, text: ".toList
      ["isChecked".toList] := by
    rw [String.toList_ofList]
    decide
  exact phrase_argument hfront (phrase_quoted _)

private theorem passage_segmentedControl {s : Snapshot}
    (hfill : ∀ token ∈ s.fillToken?, Phrase token.toList []) :
    Passage (segmentedControl s).toList
      ["segmentData".toList, "selectedSegment".toList, "selectedSegment".toList,
        "selectedSegment".toList] := by
  have hdata : Passage "viewModel.segmentData".toList ["segmentData".toList] := by decide
  have hitem : Passage "selectedItem: $viewModel.selectedSegment".toList
      ["selectedSegment".toList] := by
    rw [String.toList_ofList]
    decide
  have hbackground : Leads "backgroundColor: ".toList [] := by decide
  have hfilled := phrase_tail hbackground (Snapshot.phrase_fillColor hfill)
  have harguments := Passages.cons hdata (.cons hitem (.cons hfilled.passage .nil))
  have hcallee : Passage ("SegmentedPicker" ++ "(").toList [] := by decide
  have hopen : Passage ") \x7b item in".toList [] := by decide
  have hlabel : Passages segmentLines ["selectedSegment".toList] := by
    have htext : Passage "Text(item)".toList [] := by decide
    have hfont : Passage "    .font(.textRegularSemiBold)".toList [] := by
      rw [String.toList_ofList]
      decide
    have hframe : Passage "    .frame(maxWidth: .infinity, alignment: .center)".toList [] := by
      rw [String.toList_ofList]
      decide
    have hcolor : Passage ("    .foregroundColor(viewModel.selectedSegment == item " ++
        "? .textNeutral05 : .textNeutral9)").toList ["selectedSegment".toList] := by
      rw [String.toList_append, String.toList_ofList, String.toList_ofList]
      decide
    have hpadding : Passage "    .padding(.vertical, 10)".toList [] := by
      rw [String.toList_ofList]
      decide
    exact .cons htext (.cons hfont (.cons hframe (.cons hcolor (.cons hpadding .nil))))
  have hchange : Passage
      "\x7d\n.onChange(of: viewModel.selectedSegment) \x7b _, _ in \x7d".toList
      ["selectedSegment".toList] := by
    rw [String.toList_ofList]
    decide
  have htail (inner : String) (h : Passage inner.toList ["selectedSegment".toList]) :
      Passage (")" ++ (" \x7b item in\n" ++ (inner ++
        "\n\x7d\n.onChange(of: viewModel.selectedSegment) \x7b _, _ in \x7d"))).toList
        ["selectedSegment".toList, "selectedSegment".toList] := by
    have hsplit : ")" ++ (" \x7b item in\n" ++ (inner ++
        "\n\x7d\n.onChange(of: viewModel.selectedSegment) \x7b _, _ in \x7d")) =
        ") \x7b item in" ++ "\n" ++ (inner ++ "\n" ++
          "\x7d\n.onChange(of: viewModel.selectedSegment) \x7b _, _ in \x7d") := by
      rw [← String.toList_inj]
      simp
    rw [hsplit]
    exact passage_under hopen (passage_under h hchange)
  rw [segmentedControl, String.append_assoc, String.append_assoc]
  exact Fragment.passage_call hcallee harguments
    (htail _ (hlabel.lines.indent Fragment.indentWidth))

private theorem phrase_fieldIcon (s : Snapshot) (start : String) :
    Phrase (fieldIcon s start).toList [] := by
  rw [fieldIcon]
  split
  · exact phrase_picture _
  · decide

private theorem passage_inputField (s : Snapshot) {binding : String}
    (hb : ∀ c ∈ binding.toList, isNameChar c = true) :
    Passage (inputField s binding).toList
      (if binding.toList = [] then [] else [binding.toList]) := by
  have hsplit : "text: $viewModel.".toList = "text: $".toList ++ (modelName ++ ['.']) := by decide
  have htext : Leads "text: $".toList [] := by decide
  have hfield : Phrase ("text: $viewModel." ++ binding).toList
      (if binding.toList = [] then [] else [binding.toList]) := by
    rw [String.toList_append, hsplit, List.append_assoc, List.append_assoc]
    exact htext.append (phrase_member hb)
  have hlabel : Leads "label: ".toList [] := by decide
  have hplaceholder : Leads "placeholder: ".toList [] := by decide
  have hemail : Phrase "isEmail: false".toList [] := by decide
  have hright : Leads "iconRight: ".toList [] := by decide
  have hleft : Leads "iconLeft: ".toList [] := by decide
  have hicon : Phrase (if s.node.isOn "Icon Left" then fieldIcon s "Icon Left" else "nil").toList
      [] := by
    split
    · exact phrase_fieldIcon s _
    · decide
  have hquoted := phrase_quoted (s.node.slot "Text")
  have harguments := Passages.cons hfield.passage
    (.cons (phrase_tail hlabel hquoted).passage
      (.cons (phrase_tail hplaceholder hquoted).passage
        (.cons hemail.passage
          (.cons (phrase_tail hright (phrase_fieldIcon s "Icon Right")).passage
            (.cons (phrase_tail hleft hicon).passage .nil)))))
  have hcallee : Passage ("CustomTextField" ++ "(").toList [] := by decide
  have htail : Passage (")" ++ "").toList [] := by decide
  have hcall := Fragment.passage_call hcallee harguments htail
  rw [String.append_empty, List.append_nil] at hcall
  simp only [List.append_nil] at hcall
  exact hcall

theorem isNameChar_of_mem_fieldBinding (s : Snapshot) (state : ModelState) :
    ∀ c ∈ (fieldBinding s state).toList, isNameChar c = true := by
  intro c hc
  rw [isNameChar, (fieldBinding_alphanumeric s state).2 c hc]
  rfl

/-- What a widget uses of the view model. The state is that before the widget. -/
def mentions (kind : ComponentKind) (s : Snapshot) (state : ModelState) : List String :=
  match kind with
  | .segmentedControl => ["segmentData", "selectedSegment", "selectedSegment", "selectedSegment"]
  | .inputField => if fieldBinding s state = "" then [] else [fieldBinding s state]
  | .checkbox => ["isChecked"]
  | _ => []

private theorem passage_itemIcon {s : Snapshot} {text : String} (h : itemIcon s = .ok text) :
    Passage text.toList [] := by
  rw [itemIcon] at h
  cases hname : s.node.itemName with
  | error fault => rw [hname] at h; cases h
  | ok name =>
    rw [hname] at h
    cases h
    exact (phrase_namedIcon name).passage

private theorem passage_icon {s : Snapshot} {text : String} (h : icon s = .ok text) :
    Passage text.toList [] := by
  rw [icon] at h
  split at h
  · cases h
    exact (phrase_namedIcon _).passage
  · cases h

/-- A widget uses what it mentions, when the style that may fill it stays in its place. -/
theorem passage_fragment {kind : ComponentKind} {s : Snapshot} {parent : Option Node}
    {state : ModelState} {text : String} (h : fragment kind s parent state = .ok text)
    (hfill : kind = .button ∨ kind = .segmentedControl →
      ∀ token ∈ s.fillToken?, Phrase token.toList []) :
    Passage text.toList ((mentions kind s state).map String.toList) := by
  rw [fragment.eq_def] at h
  cases kind with
  | listRow => exact passage_listRow h
  | button =>
    cases h
    exact passage_button parent (hfill (Or.inl rfl))
  | badge =>
    cases h
    exact (phrase_badge s).passage
  | segmentedControl =>
    cases h
    exact passage_segmentedControl (hfill (Or.inr rfl))
  | inputField =>
    cases h
    have hfield := passage_inputField s (isNameChar_of_mem_fieldBinding s state)
    rw [mentions]
    by_cases hempty : fieldBinding s state = ""
    · rw [if_pos hempty]
      rw [if_pos (String.toList_eq_nil_iff.2 hempty)] at hfield
      exact hfield
    · rw [if_neg hempty]
      rw [if_neg fun hnil => hempty (String.toList_eq_nil_iff.1 hnil)] at hfield
      exact hfield
  | checkbox =>
    cases h
    exact (phrase_checkbox s).passage
  | icon => exact passage_icon h
  | image =>
    cases h
    exact (phrase_picture s.name).passage
  | divider =>
    cases h
    have hdivider : Passage "Separator().padding(.vertical, .xs)".toList [] := by
      rw [String.toList_ofList]
      decide
    exact hdivider
  | leadingItem => exact passage_itemIcon h
  | trailingItem => exact passage_itemIcon h
  | container =>
    cases h
    have hfront : Leads "Text(".toList [] := by decide
    exact (phrase_argument hfront (phrase_quoted s.name)).passage

end Widget

end Mockup
