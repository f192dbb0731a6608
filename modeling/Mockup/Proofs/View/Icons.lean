import Mockup.Proofs.OrderedMap
import Mockup.Proofs.Text.Exchange
import Mockup.Proofs.Text.Rows
import Mockup.View.Widget

/-!
# Icons of text fields

The icons on both sides of a text field follow one rule, except that the left one must be switched
on besides. Exchanging the sides in all keys exchanges the icons just when no side has an icon
without being switched on.
-/

namespace Mockup

namespace Side

/-- What the keys of the properties for an icon start with. -/
def key : Side → String
  | left => "Icon Left"
  | right => "Icon Right"

def keyTail : Side → List Char
  | left => "con Left".toList
  | right => "con Right".toList

end Side

def iconMarks : Text.Marks where
  mark side := side.key.toList
  initial := 'I'
  tail := Side.keyTail
  mark_eq side := by cases side <;> decide
  initial_notMem side := by cases side <;> decide
  apart side := by cases side <;> decide

/-- A key with both sides exchanged in it. -/
def exchangeKey (key : String) : String :=
  String.ofList (iconMarks.exchange key.toList)

private theorem exchangeKey_exchangeKey (key : String) : exchangeKey (exchangeKey key) = key := by
  simp [exchangeKey]

private theorem exchangeKey_injective : exchangeKey.Injective :=
  Function.LeftInverse.injective exchangeKey_exchangeKey

private theorem startsWith_exchangeKey (side : Side) (key : String) :
    Text.startsWith side.key (exchangeKey key) = Text.startsWith side.other.key key := by
  rw [Bool.eq_iff_iff, Text.startsWith, Text.startsWith, List.isPrefixOf_iff_prefix,
    List.isPrefixOf_iff_prefix, exchangeKey, String.toList_ofList]
  exact Text.Marks.isPrefix_exchange_iff (m := iconMarks)

private theorem contains_exchangeKey (side : Side) (key : String) :
    Text.contains side.key (exchangeKey key) = Text.contains side.other.key key := by
  rw [Bool.eq_iff_iff, Text.contains, Text.contains, Text.occursIn_iff, Text.occursIn_iff,
    exchangeKey, String.toList_ofList]
  exact Text.Marks.isInfix_exchange_iff (m := iconMarks)

/-- A map with both sides exchanged in all its keys. -/
def OrderedMap.exchangeSides {α : Type} (m : OrderedMap String α) : OrderedMap String α :=
  m.mapKeys exchangeKey exchangeKey_injective

private theorem OrderedMap.findKey?_exchangeSides {α : Type} (m : OrderedMap String α)
    {p q : String → Bool} (h : ∀ key, p (exchangeKey key) = q key) :
    m.exchangeSides.findKey? p =
      (m.findKey? q).map fun entry => (exchangeKey entry.1, entry.2) := by
  rw [findKey?, exchangeSides, mapKeys, List.find?_map, findKey?]
  congr 2
  funext entry
  exact h entry.1

/-- The instance with both sides exchanged in the keys of its properties and swaps. -/
def Snapshot.exchangeIcons (s : Snapshot) : Snapshot :=
  { s with
    node := { s.node with properties := s.node.properties.exchangeSides }
    swaps := s.swaps.exchangeSides }

namespace Widget

variable (s : Snapshot) (side : Side)

private theorem slot_exchangeIcons (slotName : String) :
    s.exchangeIcons.node.slot slotName = s.node.slot slotName := by
  rcases s with ⟨⟨⟩⟩
  rfl

private theorem isOn_exchangeIcons :
    s.exchangeIcons.node.isOn side.key = s.node.isOn side.other.key := by
  rw [Node.isOn, Node.propertyMentioning?, Snapshot.exchangeIcons,
    OrderedMap.findKey?_exchangeSides _ (contains_exchangeKey side), Option.bind_map]
  rfl

private theorem swapStarting?_exchangeIcons :
    s.exchangeIcons.swapStarting? side.key = s.swapStarting? side.other.key := by
  rw [Snapshot.swapStarting?, Snapshot.exchangeIcons,
    OrderedMap.findKey?_exchangeSides _ (startsWith_exchangeKey side), Option.map_map]
  rfl

/-- Both sides have their icons by the same rule. -/
theorem fieldIcon?_exchangeIcons :
    fieldIcon? s.exchangeIcons side.key = fieldIcon? s side.other.key := by
  have hproperty : s.exchangeIcons.node.propertyStarting? side.key =
      (s.node.propertyStarting? side.other.key).map fun entry => (exchangeKey entry.1, entry.2) :=
    OrderedMap.findKey?_exchangeSides _ (startsWith_exchangeKey side)
  rw [fieldIcon?, hproperty, Option.bind_map, fieldIcon?]
  refine congrArg _ (funext fun entry => ?_)
  obtain ⟨key, kind, value⟩ := entry
  cases kind with
  | boolean => simp only [Function.comp_apply, swapStarting?_exchangeIcons]
  | instanceSwap => exact OrderedMap.get?_mapKeys exchangeKey_injective s.swaps key
  | text => rfl
  | variant => rfl

/-- The icon that a text field has as an argument for each side. -/
def shownIcon : Side → String
  | .right => fieldIcon s "Icon Right"
  | .left => if s.node.isOn "Icon Left" then fieldIcon s "Icon Left" else "nil"

/-- The text of a text field with these icons. -/
def fieldText (binding : String) (icon : Side → String) : String :=
  let label := Text.Quoted.encode (s.node.slot "Text")
  Fragment.call "CustomTextField" [
    "text: $viewModel." ++ binding,
    "label: " ++ label,
    "placeholder: " ++ label,
    "isEmail: false",
    "iconRight: " ++ icon .right,
    "iconLeft: " ++ icon .left]

private theorem fragment_inputField (parent : Option Node) (state : ModelState) :
    fragment .inputField s parent state =
      .ok (fieldText s (fieldBinding s state) (shownIcon s)) :=
  rfl

private theorem fieldBinding_exchangeIcons (state : ModelState) :
    fieldBinding s.exchangeIcons state = fieldBinding s state := by
  rw [fieldBinding, slot_exchangeIcons, fieldBinding]

private theorem fieldText_exchangeIcons (binding : String) (icon : Side → String) :
    fieldText s.exchangeIcons binding icon = fieldText s binding icon := by
  rw [fieldText, slot_exchangeIcons, fieldText]

private theorem fieldIcon_exchangeIcons :
    fieldIcon s.exchangeIcons side.key = fieldIcon s side.other.key := by
  rw [fieldIcon, fieldIcon?_exchangeIcons, fieldIcon]

/-- The side's icon, if it has one, is switched on. -/
def IconIsOn : Prop :=
  s.node.isOn side.key = true ∨ fieldIcon? s side.key = none

instance : Decidable (IconIsOn s side) :=
  inferInstanceAs (Decidable (_ ∨ _))

private theorem head?_picture (name : String) : (picture name).toList.head? = some 'I' := by
  have hfront : "Image(veloAsset: .".toList.head? = some 'I' := by decide
  unfold picture
  rw [String.toList_append, String.toList_append, List.head?_append, List.head?_append, hfront]
  rfl

private theorem guarded_eq_iff :
    (if s.node.isOn side.key then fieldIcon s side.key else "nil") = fieldIcon s side.key ↔
      IconIsOn s side := by
  rw [IconIsOn]
  by_cases hon : s.node.isOn side.key = true
  · rw [if_pos hon]
    exact iff_of_true rfl (Or.inl hon)
  · rw [if_neg hon, fieldIcon]
    cases fieldIcon? s side.key with
    | none => exact iff_of_true rfl (Or.inr rfl)
    | some icon =>
      have hne : "nil" ≠ picture icon := by
        intro h
        have hhead := head?_picture icon
        rw [← h] at hhead
        exact absurd hhead (by decide)
      exact iff_of_false hne (by simp [hon])

private theorem shownIcon_exchangeIcons_right :
    shownIcon s.exchangeIcons .right = fieldIcon s "Icon Left" :=
  fieldIcon_exchangeIcons s .right

private theorem shownIcon_exchangeIcons_left : shownIcon s.exchangeIcons .left =
    if s.node.isOn "Icon Right" then fieldIcon s "Icon Right" else "nil" := by
  have hon := isOn_exchangeIcons s .left
  have hicon := fieldIcon_exchangeIcons s .left
  simp only [Side.key, Side.other] at hon hicon
  rw [shownIcon, hon, hicon]

private theorem shownIcon_exchangeIcons_iff :
    shownIcon s.exchangeIcons side = shownIcon s side.other ↔ IconIsOn s side.other := by
  rw [← guarded_eq_iff]
  cases side with
  | left => rw [shownIcon_exchangeIcons_left]; rfl
  | right => rw [shownIcon_exchangeIcons_right, eq_comm]; rfl

private theorem oneLine_fieldIcon (start : String) : Text.OneLine (fieldIcon s start).toList := by
  rw [fieldIcon]
  split
  · next icon _ =>
    have hname : Text.OneLine (Text.camelCase icon).toList := by
      constructor
      · exact fun h => absurd (Text.isAlphanum_of_mem_camelCase icon _ h) (by decide)
      · exact fun h => absurd (Text.isAlphanum_of_mem_camelCase icon _ h) (by decide)
    have hfront : Text.OneLine "Image(veloAsset: .".toList := by decide
    have hrear : Text.OneLine ")".toList := by decide
    unfold picture
    rw [String.toList_append, String.toList_append]
    exact Text.oneLine_append.2 ⟨Text.oneLine_append.2 ⟨hfront, hname⟩, hrear⟩
  · decide

private theorem oneLine_shownIcon : Text.OneLine (shownIcon s side).toList := by
  cases side with
  | right => exact oneLine_fieldIcon s _
  | left =>
    rw [shownIcon]
    split
    · exact oneLine_fieldIcon s _
    · decide

/-- The arguments before the icons. -/
def plainArguments (binding : String) : String :=
  let label := Text.Quoted.encode (s.node.slot "Text")
  ",\n".intercalate
    ["text: $viewModel." ++ binding, "label: " ++ label, "placeholder: " ++ label,
      "isEmail: false"]

private theorem fieldText_eq (binding : String) (icon : Side → String) :
    fieldText s binding icon = "CustomTextField(" ++ "\n" ++
      Text.indent Fragment.indentWidth ((plainArguments s binding ++ ",") ++ "\n" ++
        ("iconRight: " ++ (icon .right ++ ",") ++ "\n" ++ ("iconLeft: " ++ icon .left))) ++
      "\n" ++ ")" := by
  have hsep : ",\n" = "," ++ "\n" := rfl
  have hopen : "(\n" = "(" ++ "\n" := rfl
  have hcall : "CustomTextField(" = "CustomTextField" ++ "(" := rfl
  have hclose : "\n)" = "\n" ++ ")" := rfl
  rw [fieldText, Fragment.call, plainArguments, hsep, hopen, hclose, hcall]
  simp only [String.intercalate_cons_cons, String.intercalate_singleton, String.append_assoc]

private theorem oneLine_argument {name value : String} (hname : Text.OneLine name.toList)
    (hshows : Text.Shows name.toList) (hvalue : Text.OneLine value.toList) :
    Text.OneLine (name ++ value).toList ∧ Text.Shows (name ++ value).toList := by
  rw [String.toList_append]
  exact ⟨Text.oneLine_append.2 ⟨hname, hvalue⟩, hshows.append _⟩

theorem rows_fieldText (binding : String) {icon : Side → String}
    (hicon : ∀ side, Text.OneLine (icon side).toList) :
    Text.rows (fieldText s binding icon) = Text.rows "CustomTextField(" ++
      (((Text.rows (plainArguments s binding ++ ",")).map Text.dropReturn).map
          (Text.indentLine Fragment.indentWidth) ++
        [Text.shift Fragment.indentWidth ("iconRight: " ++ (icon .right ++ ",")).toList,
          Text.shift Fragment.indentWidth ("iconLeft: " ++ icon .left).toList]) ++
      Text.rows ")" := by
  have hcomma : Text.OneLine (icon .right ++ ",").toList := by
    rw [String.toList_append]
    exact Text.oneLine_append.2 ⟨hicon .right, by decide⟩
  have hright := oneLine_argument (by decide : Text.OneLine "iconRight: ".toList) (by decide) hcomma
  have hleft :=
    oneLine_argument (by decide : Text.OneLine "iconLeft: ".toList) (by decide) (hicon .left)
  have hlines := Text.lines_under (Text.tidy_of_oneLine hright.1 hright.2)
    (Text.tidy_of_oneLine hleft.1 hleft.2)
  rw [Text.lines_of_oneLine hright.1 hright.2, Text.lines_of_oneLine hleft.1 hleft.2] at hlines
  have hbody := Text.lines_under_any (plainArguments s binding ++ ",")
    ("iconRight: " ++ (icon .right ++ ",") ++ "\n" ++ ("iconLeft: " ++ icon .left))
  rw [hlines, List.singleton_append] at hbody
  have hne := List.append_ne_nil_of_right_ne_nil
    ((Text.rows (plainArguments s binding ++ ",")).map Text.dropReturn)
    (List.cons_ne_nil ("iconRight: " ++ (icon .right ++ ",")).toList
      [("iconLeft: " ++ icon .left).toList])
  rw [← hbody] at hne
  rw [fieldText_eq, Text.rows_under, Text.rows_under, Text.rows_indent hne, hbody,
    List.map_append, List.map_cons, List.map_cons, List.map_nil,
    Text.indentLine_of_shows hright.2, Text.indentLine_of_shows hleft.2]

private theorem fieldText_injective {binding : String} {icon other : Side → String}
    (hicon : ∀ side, Text.OneLine (icon side).toList)
    (hother : ∀ side, Text.OneLine (other side).toList)
    (h : fieldText s binding icon = fieldText s binding other) : icon = other := by
  have hrows := congrArg Text.rows h
  rw [rows_fieldText s binding hicon, rows_fieldText s binding hother, List.append_left_inj,
    List.append_right_inj, List.append_right_inj, List.cons.injEq, List.cons.injEq, Text.shift,
    Text.shift, Text.shift, Text.shift, List.append_right_inj, List.append_right_inj,
    String.toList_inj, String.toList_inj, String.append_right_inj, String.append_right_inj,
    String.append_left_inj] at hrows
  funext side
  cases side with
  | left => exact hrows.2.1
  | right => exact hrows.1

private theorem fragment_exchangeIcons (parent : Option Node) (state : ModelState) :
    fragment .inputField s.exchangeIcons parent state =
      .ok (fieldText s (fieldBinding s state) (shownIcon s.exchangeIcons)) := by
  rw [fragment_inputField, fieldBinding_exchangeIcons, fieldText_exchangeIcons]

private theorem fragment_exchanged_iff (parent : Option Node) (state : ModelState) :
    fragment .inputField s.exchangeIcons parent state =
        .ok (fieldText s (fieldBinding s state) fun side => shownIcon s side.other) ↔
      ∀ side, IconIsOn s side := by
  rw [fragment_exchangeIcons, Except.ok.injEq]
  constructor
  · intro h side
    have hicons := fieldText_injective s (oneLine_shownIcon s.exchangeIcons)
      (fun side => oneLine_shownIcon s side.other) h
    have hside := (shownIcon_exchangeIcons_iff s side.other).1 (congrFun hicons side.other)
    rwa [Side.other_other] at hside
  · intro h
    refine congrArg _ (funext fun side => ?_)
    exact (shownIcon_exchangeIcons_iff s side).2 (h side.other)

/-- The icons of a text field once the sides are exchanged in all keys of its properties and swaps:
the right one is what the property for the left one says, but the left one is what the property for
the right one says only where that one is switched on. Nothing else changes. So the icons change
places just when no side has an icon without being switched on. -/
theorem fragment_exchangeIcons_iff (s : Snapshot) (parent : Option Node) (state : ModelState) :
    let field := fieldText s (fieldBinding s state)
    fragment .inputField s parent state = .ok (field (shownIcon s)) ∧
    fragment .inputField s.exchangeIcons parent state = .ok (field (shownIcon s.exchangeIcons)) ∧
    record .inputField s.exchangeIcons state = record .inputField s state ∧
    shownIcon s.exchangeIcons .right = fieldIcon s "Icon Left" ∧
    shownIcon s.exchangeIcons .left =
      (if s.node.isOn "Icon Right" then fieldIcon s "Icon Right" else "nil") ∧
    (fragment .inputField s.exchangeIcons parent state =
        .ok (field fun side => shownIcon s side.other) ↔ ∀ side, IconIsOn s side) := by
  intro field
  refine ⟨fragment_inputField s parent state, fragment_exchangeIcons s parent state, ?record,
    shownIcon_exchangeIcons_right s, shownIcon_exchangeIcons_left s,
    fragment_exchanged_iff s parent state⟩
  case record => rw [record, record, fieldBinding_exchangeIcons]

/-- A text field with an icon swapped in on one side, and no switch. -/
private def swappedField (side : Side) : Snapshot where
  node := {
    id := ⟨"1"⟩
    kind := .componentInstance
    name := "Search"
    properties := .ofList [(side.key ++ "#3:0", ⟨.instanceSwap, .string "104:2"⟩)] }
  swaps := .ofList [(side.key ++ "#3:0", "Magnifier")]

/-- An icon swapped in on the left is not shown, though it is on the right. -/
theorem fragment_exchangeIcons_swappedField :
    (swappedField .left).exchangeIcons.node.properties.entries =
      (swappedField .right).node.properties.entries ∧
    shownIcon (swappedField .left) .left = "nil" ∧
    shownIcon (swappedField .left) .right = "nil" ∧
    shownIcon (swappedField .left).exchangeIcons .right = "Image(veloAsset: .magnifier)" ∧
    fragment .inputField (swappedField .left).exchangeIcons none {} ≠
      .ok (fieldText (swappedField .left) (fieldBinding (swappedField .left) {})
        fun side => shownIcon (swappedField .left) side.other) := by
  refine ⟨by decide +kernel, by decide +kernel, by decide +kernel, by decide +kernel, ?_⟩
  have hoff : ¬ IconIsOn (swappedField .left) .left := by decide +kernel
  exact fun h => hoff ((fragment_exchanged_iff _ _ _).1 h .left)

end Widget

end Mockup
