import Mockup.Proofs.Swift.Literal
import Mockup.View.Model

/-!
# Declarations of a state

The text of a declaration tells it from every other one, and the text of a state tells the state,
as long as no name breaks its line. Names of letters and digits never do, whatever became of the
state before.
-/

namespace Mockup.ModelState

/-- A property that a view model publishes for its view. -/
inductive Declaration where
  | segmentData (labels : List String)
  | selectedSegment
  | isChecked
  | binding (name : String)

namespace Declaration

def text : Declaration → String
  | segmentData labels => "@Published var segmentData: [String] = [" ++
      ", ".intercalate (labels.map Text.Quoted.encode) ++ "]"
  | selectedSegment => "@Published var selectedSegment: String?"
  | isChecked => "@Published var isChecked: Bool = false"
  | binding name => "@Published var " ++ name ++ ": String = \"\""

/-- The character that ends a declaration. No two kinds of them end alike. -/
def lastChar : Declaration → Char
  | segmentData _ => ']'
  | selectedSegment => '?'
  | isChecked => 'e'
  | binding _ => '"'

private theorem getLast?_text (d : Declaration) : d.text.toList.getLast? = some d.lastChar := by
  unfold text
  cases d with
  | segmentData labels =>
    rw [String.toList_append, List.getLast?_append]
    rfl
  | selectedSegment => rfl
  | isChecked => rfl
  | binding name =>
    rw [String.toList_append, List.getLast?_append]
    rfl

/-- The end of a list of labels, from behind the first. -/
def labelsEnd : List String → String
  | [] => "]"
  | label :: rest => ", " ++ (Text.Quoted.encode label ++ labelsEnd rest)

private theorem labels_cons (label : String) (rest : List String) :
    ", ".intercalate ((label :: rest).map Text.Quoted.encode) ++ "]" =
      Text.Quoted.encode label ++ labelsEnd rest := by
  induction rest generalizing label with
  | nil => rfl
  | cons next rest ih =>
    rw [List.map_cons, List.map_cons, String.intercalate_cons_cons, ← List.map_cons,
      String.append_assoc, ih, labelsEnd, String.append_assoc]

private theorem labelsEnd_injective : Function.Injective labelsEnd := by
  intro first
  induction first with
  | nil =>
    intro second h
    cases second with
    | nil => rfl
    | cons label rest =>
      have hhead := congrArg (·.toList.head?) h
      simp [labelsEnd] at hhead
  | cons label rest ih =>
    intro second h
    cases second with
    | nil =>
      have hhead := congrArg (·.toList.head?) h
      simp [labelsEnd] at hhead
    | cons other others =>
      rw [labelsEnd, labelsEnd, String.append_right_inj] at h
      obtain ⟨hlabel, hrest⟩ := Swift.encode_append_inj h
      rw [hlabel, ih hrest]

/-- Labels are read off one by one, since quoted texts form a prefix code. -/
theorem eq_of_labels_eq {first second : List String}
    (h : ", ".intercalate (first.map Text.Quoted.encode) ++ "]" =
      ", ".intercalate (second.map Text.Quoted.encode) ++ "]") : first = second := by
  have hread := congrArg (Swift.readLiteral ·.toList) h
  cases first with
  | nil =>
    cases second with
    | nil => rfl
    | cons other others =>
      simp only [labels_cons, String.toList_append, Swift.readLiteral_encode] at hread
      cases hread
  | cons label rest =>
    cases second with
    | nil =>
      simp only [labels_cons, String.toList_append, Swift.readLiteral_encode] at hread
      cases hread
    | cons other others =>
      rw [labels_cons, labels_cons] at h
      obtain ⟨hlabel, hrest⟩ := Swift.encode_append_inj h
      rw [hlabel, labelsEnd_injective hrest]

private theorem feed_notMem_labels (labels : List String) :
    '\n' ∉ (", ".intercalate (labels.map Text.Quoted.encode)).toList := by
  induction labels with
  | nil => decide
  | cons label labels ih =>
    cases labels with
    | nil =>
      rw [List.map_cons, List.map_nil, String.intercalate_singleton]
      exact Text.Quoted.notMem_encode (by decide) label
    | cons second rest =>
      rw [List.map_cons, List.map_cons, String.intercalate_cons_cons, String.toList_append,
        String.toList_append, List.mem_append, List.mem_append]
      rintro ((hlabel | hcomma) | hrest)
      · exact Text.Quoted.notMem_encode (by decide) label hlabel
      · revert hcomma
        decide
      · exact ih hrest

private theorem text_injective : Function.Injective text := by
  intro d e h
  have hlast : some d.lastChar = some e.lastChar := by
    rw [← d.getLast?_text, ← e.getLast?_text, h]
  unfold text at h
  cases d <;> cases e
  case segmentData.segmentData first second =>
    dsimp only at h
    rw [String.append_assoc, String.append_assoc, String.append_right_inj] at h
    rw [eq_of_labels_eq h]
  case selectedSegment.selectedSegment => rfl
  case isChecked.isChecked => rfl
  case binding.binding first second =>
    dsimp only at h
    rw [String.append_left_inj, String.append_right_inj] at h
    rw [h]
  all_goals cases hlast

/-- The name that a declaration takes from a text field. -/
def name? : Declaration → Option String
  | binding name => some name
  | _ => none

theorem feed_notMem_text {d : Declaration} (h : ∀ name ∈ d.name?, '\n' ∉ name.toList) :
    '\n' ∉ d.text.toList := by
  unfold text
  cases d with
  | segmentData labels =>
    have hfront : '\n' ∉ "@Published var segmentData: [String] = [".toList := by decide
    have hrear : '\n' ∉ "]".toList := by decide
    rw [String.toList_append, String.toList_append, List.mem_append, List.mem_append]
    rintro ((hmem | hmem) | hmem)
    · exact hfront hmem
    · exact feed_notMem_labels labels hmem
    · exact hrear hmem
  | selectedSegment => decide
  | isChecked => decide
  | binding name =>
    have hfront : '\n' ∉ "@Published var ".toList := by decide
    have hrear : '\n' ∉ ": String = \"\"".toList := by decide
    rw [String.toList_append, String.toList_append, List.mem_append, List.mem_append]
    rintro ((hmem | hmem) | hmem)
    · exact hfront hmem
    · exact h name rfl hmem
    · exact hrear hmem

private theorem text_ne_empty (d : Declaration) : d.text ≠ "" := by
  intro hempty
  have hlast := d.getLast?_text
  rw [hempty] at hlast
  cases hlast

end Declaration

def declared (s : ModelState) : List Declaration :=
  (if s.isSegmented then [.segmentData s.segments, .selectedSegment] else []) ++
    (if s.hasCheckbox then [.isChecked] else []) ++ s.bindings.map .binding

private theorem declarations_eq (s : ModelState) :
    s.declarations = s.declared.map Declaration.text := by
  rw [declarations, declared, List.map_append, List.map_append, List.map_map]
  congr 1
  congr 1
  · split <;> rfl
  · split <;> rfl

def Declaration.labels : Declaration → List String
  | segmentData labels => labels
  | _ => []

private theorem labels_declared (s : ModelState) :
    s.declared.flatMap Declaration.labels = s.segments := by
  have hbound : (s.bindings.map Declaration.binding).flatMap Declaration.labels = [] := by
    simp [Declaration.labels]
  rw [declared, List.flatMap_append, List.flatMap_append, hbound, List.append_nil]
  by_cases hsegments : s.segments = []
  · cases s.hasCheckbox <;> simp [isSegmented, hsegments, Declaration.labels]
  · cases s.hasCheckbox <;> simp [isSegmented, hsegments, Declaration.labels]

private theorem names_declared (s : ModelState) :
    s.declared.filterMap Declaration.name? = s.bindings := by
  have hbound : (s.bindings.map Declaration.binding).filterMap Declaration.name? = s.bindings := by
    simp [Function.comp_def, Declaration.name?]
  rw [declared, List.filterMap_append, List.filterMap_append, hbound]
  cases s.isSegmented <;> cases s.hasCheckbox <;> rfl

private theorem isChecked_mem_declared (s : ModelState) :
    .isChecked ∈ s.declared ↔ s.hasCheckbox = true := by
  rw [declared]
  cases s.isSegmented <;> cases s.hasCheckbox <;> simp

private theorem declared_injective : Function.Injective declared := by
  intro s t h
  have hsegments : s.segments = t.segments := by
    rw [← labels_declared, ← labels_declared, h]
  have hcheckbox : s.hasCheckbox = t.hasCheckbox := by
    rw [Bool.eq_iff_iff, ← isChecked_mem_declared, ← isChecked_mem_declared, h]
  have hbindings : s.bindings = t.bindings := by
    rw [← names_declared, ← names_declared, h]
  cases s
  cases t
  simp_all

private theorem feed_notMem_declarations {s : ModelState} (h : ∀ b ∈ s.bindings, '\n' ∉ b.toList) :
    ∀ line ∈ s.declarations.map String.toList, '\n' ∉ line := by
  rw [declarations_eq, List.map_map, List.forall_mem_map]
  intro d hd
  apply Declaration.feed_notMem_text
  intro name hname
  apply h
  rw [← names_declared, List.mem_filterMap]
  exact ⟨d, hd, hname⟩

theorem rows_declarationText {s : ModelState} (h : ∀ b ∈ s.bindings, '\n' ∉ b.toList) :
    (s.declarationText.toList.splitOn '\n').filter (· ≠ []) =
      s.declarations.map String.toList := by
  have hfeed : "\n".toList = ['\n'] := rfl
  rw [declarationText, String.toList_intercalate, hfeed]
  by_cases hempty : s.declarations = []
  · rw [hempty]
    rfl
  · rw [List.splitOn_intercalate '\n' (feed_notMem_declarations h) (by simpa using hempty),
      List.filter_eq_self, List.forall_mem_map, declarations_eq, List.forall_mem_map]
    intro d _
    simpa using d.text_ne_empty

/-- The text of a state tells the state. -/
theorem eq_of_declarationText_eq {s t : ModelState} (hs : ∀ b ∈ s.bindings, '\n' ∉ b.toList)
    (ht : ∀ b ∈ t.bindings, '\n' ∉ b.toList) (h : s.declarationText = t.declarationText) :
    s = t := by
  have hrows : s.declarations.map String.toList = t.declarations.map String.toList := by
    rw [← rows_declarationText hs, ← rows_declarationText ht, h]
  have hlines : s.declarations = t.declarations :=
    List.map_injective_iff.2 (fun _ _ => String.toList_injective) hrows
  have htexts : s.declared.map Declaration.text = t.declared.map Declaration.text := by
    rw [← declarations_eq, ← declarations_eq, hlines]
  apply declared_injective
  exact List.map_injective_iff.2 Declaration.text_injective htexts

/-- What a composition does to the state of its view. -/
inductive Change where
  | reset
  | withSegments (labels : List String)
  | withCheckbox
  | addBinding (name : String)

/-- The name that a change adds, if any, has letters and digits only. -/
def Change.isPlain : Change → Bool
  | addBinding name => name.toList.all Char.isAlphanum
  | _ => true

def Change.apply (s : ModelState) : Change → ModelState
  | reset => s.reset
  | withSegments labels => s.withSegments labels
  | withCheckbox => s.withCheckbox
  | addBinding name => s.addBinding name

/-- The state that changes leave, one after the other. -/
def after (changes : List Change) : ModelState :=
  changes.foldl Change.apply default

/-- Every name of a state has letters and digits only. -/
def IsPlain (s : ModelState) : Prop :=
  ∀ b ∈ s.bindings, ∀ c ∈ b.toList, c.isAlphanum = true

private theorem IsPlain.apply {s : ModelState} (hs : s.IsPlain) {change : Change}
    (h : change.isPlain) :
    (change.apply s).IsPlain := by
  cases change with
  | reset =>
    intro b hb
    cases hb
  | withSegments labels => exact hs
  | withCheckbox => exact hs
  | addBinding name =>
    intro b hb
    change b ∈ (s.addBinding name).bindings at hb
    rw [addBinding] at hb
    split at hb
    · exact hs b hb
    · rcases List.mem_append.1 hb with hold | hnew
      · exact hs b hold
      · rw [List.mem_singleton.1 hnew]
        exact List.all_eq_true.1 h

private theorem IsPlain.foldl {s : ModelState} (hs : s.IsPlain) {changes : List Change}
    (h : ∀ change ∈ changes, change.isPlain) : (changes.foldl Change.apply s).IsPlain := by
  induction changes generalizing s with
  | nil => exact hs
  | cons change changes ih =>
    rw [List.forall_mem_cons] at h
    exact ih (hs.apply h.1) h.2

private theorem isPlain_after {changes : List Change} (h : ∀ change ∈ changes, change.isPlain) :
    (after changes).IsPlain := by
  have hempty : IsPlain default := by
    intro b hb
    cases hb
  exact hempty.foldl h

private theorem IsPlain.feed_notMem {s : ModelState} (h : s.IsPlain) :
    ∀ b ∈ s.bindings, '\n' ∉ b.toList := by
  intro b hb hfeed
  exact absurd (h b hb _ hfeed) (by decide)

/-- Two runs of changes that leave one text leave one state: the same labels, the same mark of a
checkbox and the same names, all in the same order. -/
theorem after_eq_of_declarationText_eq (first second : List Change)
    (hfirst : ∀ change ∈ first, change.isPlain) (hsecond : ∀ change ∈ second, change.isPlain)
    (h : (after first).declarationText = (after second).declarationText) :
    after first = after second :=
  eq_of_declarationText_eq (isPlain_after hfirst).feed_notMem (isPlain_after hsecond).feed_notMem h

/-- Labels that hold what stands around labels, for a state that was used before. -/
private def surveyChanges : List Change := [
  .addBinding "old", .withSegments ["No"], .reset, .addBinding "email", .withCheckbox,
  .withSegments ["", "a\", \"b", "a\", \"b", "]\n"], .addBinding "email"]

private def plainSurveyChanges : List Change := [
  .withSegments ["", "a\", \"b", "a\", \"b", "]\n"], .addBinding "email", .withCheckbox]

theorem after_eq_survey :
    (after surveyChanges).declarationText = (after plainSurveyChanges).declarationText ∧
      after surveyChanges = after plainSurveyChanges := by
  have htext : (after surveyChanges).declarationText = (after plainSurveyChanges).declarationText :=
    rfl
  exact ⟨htext,
    after_eq_of_declarationText_eq surveyChanges plainSurveyChanges (by decide) (by decide) htext⟩

end Mockup.ModelState
