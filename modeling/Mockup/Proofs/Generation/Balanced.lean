import Mathlib.Data.List.Infix
import Mockup.Proofs.Generation.Outcome
import Mockup.Proofs.View.Declared
import Mockup.Proofs.View.Sheets

/-!
# Balanced files

Both files of a generation are scanned to their end as code with every bracket met by its partner,
as long as the names that are written as they are keep to what such names hold.
-/

namespace Mockup

open Swift
open Text (OneLine)

/-- What names of styles and variables consist of. -/
def isTokenChar (c : Char) : Bool :=
  c.isAlphanum || c ∈ [' ', '-', '/']

namespace Snapshot

/-- The names of shared styles and variables that a node refers to. -/
def sharedNames (s : Snapshot) : List String :=
  s.fillStyle.toList ++ s.cornerStyle.toList ++ s.textStyle.toList ++ s.fillVariable.toList

/-- No name of a node leaves the place where it is written: that of a group its comment, that of an
unknown kind its line, and those of styles and variables the token made of them. -/
structure PlainNames (s : Snapshot) : Prop where
  remark : s.NamedOnOneLine
  group : s.node.kind = .group →
    ¬ ['/', '*'] <:+: s.name.toList ∧ ¬ ['*', '/'] <:+: s.name.toList
  shared : ∀ name ∈ s.sharedNames, name.toList.all isTokenChar = true

instance (s : Snapshot) : Decidable s.PlainNames :=
  decidable_of_iff (s.NamedOnOneLine ∧
    (s.node.kind = .group →
      ¬ ['/', '*'] <:+: s.name.toList ∧ ¬ ['*', '/'] <:+: s.name.toList) ∧
    ∀ name ∈ s.sharedNames, name.toList.all isTokenChar = true)
    ⟨fun h => ⟨h.1, h.2.1, h.2.2⟩, fun h => ⟨h.remark, h.group, h.shared⟩⟩

end Snapshot

private theorem toNat_lt_of_isTokenChar {c : Char} (h : isTokenChar c = true) : c.toNat < 128 := by
  rw [isTokenChar, Bool.or_eq_true] at h
  rcases h with h | h
  · exact Text.toNat_lt_of_isAlphanum h
  · have hmarks : [' ', '-', '/'].all (·.toNat < 128) = true := by decide
    simpa using List.all_eq_true.1 hmarks c (by simpa using h)

private theorem keptByCase_isTokenChar : Text.KeptByCase fun c => isTokenChar c = true :=
  Text.keptByCase_ascii (fun _ => toNat_lt_of_isTokenChar) (by decide)

/-- The characters of tokens: no blanks and slashes. -/
def isPlainToken (c : Char) : Bool :=
  c.isAlphanum || c ∈ ['-', '.']

private theorem scans_of_class {a : List Char} {text : String} {p : Char → Bool}
    (h : ∀ c ∈ text.toList, p c = true)
    (hp : ['"', '/', '\n', '\r', '(', '[', '\x7b', ')', ']', '\x7d'].all (!p ·) = true) :
    Scans a text.toList a :=
  (piece_of_class h hp : Piece True a text a).scans trivial

private theorem scans_token {a : List Char} {token : String}
    (h : ∀ c ∈ token.toList, isPlainToken c = true) : Scans a token.toList a :=
  scans_of_class h (by decide)

private theorem isPlainToken_of_isTokenChar {c : Char} (h : isTokenChar c = true)
    (hblank : Text.isBlank c = false) (hslash : c ≠ '/') : isPlainToken c = true := by
  have hspace : c ≠ ' ' := by
    rintro rfl
    revert hblank
    decide
  simp only [isTokenChar, isPlainToken, Bool.or_eq_true, decide_eq_true_eq, List.mem_cons,
    List.not_mem_nil, or_false] at h ⊢
  rcases h with h | h | h | h
  · exact Or.inl h
  · contradiction
  · exact Or.inr (Or.inl h)
  · contradiction

private theorem scans_styleToken {a : List Char} {name family : String}
    (hfamily : ∀ c ∈ (family ++ ".token.").toList, isPlainToken c = true)
    (h : ∀ c ∈ name.toList, isTokenChar c = true) :
    Scans a (Style.styleToken name family).toList a :=
  scans_token (Style.forall_styleToken (by decide) hfamily fun c hc hblank _ hslash =>
    isPlainToken_of_isTokenChar (keptByCase_isTokenChar.lowerFrom h [] c hc) hblank hslash)

private theorem keptByCase_isPlainToken : Text.KeptByCase fun c => isPlainToken c = true := by
  refine Text.keptByCase_ascii (fun c hc => ?_) (by decide)
  rw [isPlainToken, Bool.or_eq_true] at hc
  rcases hc with hc | hc
  · exact Text.toNat_lt_of_isAlphanum hc
  · have hmarks : ['-', '.'].all (·.toNat < 128) = true := by decide
    simpa using List.all_eq_true.1 hmarks c (by simpa using hc)

namespace Snapshot

variable {s : Snapshot}

private theorem PlainNames.isTokenChar_of_mem (h : s.PlainNames) {name : String}
    (hname : name ∈ s.sharedNames) : ∀ c ∈ name.toList, isTokenChar c = true :=
  List.all_eq_true.1 (h.shared name hname)

private theorem scans_fillToken (h : s.PlainNames) :
    ∀ token ∈ s.fillToken?.toList, Scans [] token.toList [] := by
  intro token htoken
  obtain ⟨style, hstyle, rfl⟩ := Option.map_eq_some_iff.1 (Option.mem_toList.1 htoken)
  exact scans_styleToken (List.all_eq_true.1 (by decide))
    (h.isTokenChar_of_mem (by simp [sharedNames, hstyle]))

private theorem scans_cornerToken (h : s.PlainNames) :
    ∀ token ∈ s.cornerToken?.toList, Scans [] token.toList [] := by
  intro token htoken
  obtain ⟨style, hstyle, rfl⟩ := Option.map_eq_some_iff.1 (Option.mem_toList.1 htoken)
  exact scans_styleToken (List.all_eq_true.1 (by decide))
    (h.isTokenChar_of_mem (by simp [sharedNames, hstyle]))

private theorem scans_fontName (h : s.PlainNames) : Scans [] s.fontName.toList [] := by
  rw [fontName]
  split
  · next style hstyle =>
    have hmem : style ∈ s.sharedNames := by simp [sharedNames, hstyle]
    have hchars := h.isTokenChar_of_mem hmem
    exact scans_token (Style.forall_typographyName keptByCase_isPlainToken
      fun c hc hblank hslash => isPlainToken_of_isTokenChar (hchars c hc) hblank hslash)
  · decide

private theorem scans_boundColor (h : s.PlainNames) : Scans [] s.boundColor.toList [] := by
  rw [boundColor]
  split
  · next variableName hname =>
    have hmem : variableName ∈ s.sharedNames := by simp [sharedNames, hname]
    have hchars := h.isTokenChar_of_mem hmem
    refine scans_token (Style.forall_variableToken keptByCase_isPlainToken ?_)
    intro c hc hbreak hslash
    rw [Style.isWordBreak, Bool.or_eq_false_iff] at hbreak
    exact isPlainToken_of_isTokenChar (hchars c hc) hbreak.2 hslash
  · decide

private theorem scans_nameTexts (config : Config) (h : s.PlainNames) :
    ∀ text ∈ s.nameTexts config, Scans [] text.toList [] := by
  rw [nameTexts]
  split
  · exact List.forall_mem_append.2 ⟨scans_fillToken h, scans_cornerToken h⟩
  · next hk =>
    have hline := h.remark s.name (by rw [remark?, hk]; rfl)
    obtain ⟨hopen, hclose⟩ := h.group hk
    rw [List.forall_mem_singleton, String.toList_append, String.toList_append]
    exact scans_blockComment hline.1 hopen hclose
  · split
    · exact scans_fillToken h
    · exact scans_fillToken h
    · exact List.forall_mem_nil _
  · simp only [List.forall_mem_cons]
    exact ⟨scans_fontName h, scans_boundColor h, List.forall_mem_nil _⟩
  · exact scans_fillToken h
  · exact scans_fillToken h
  · exact scans_fillToken h
  · exact List.forall_mem_nil _
  · next kind hk =>
    have hremark : OneLine " Unhandled node type: ".toList := by decide
    have hkind := Text.oneLine_append.2 ⟨hremark, h.remark kind (by rw [remark?, hk]; rfl)⟩
    rw [List.forall_mem_singleton, String.toList_append, String.toList_append]
    exact scans_lineComment hkind

private theorem PlainNames.namesFit (h : s.PlainNames) (config : Config) : s.NamesFit True config :=
  ⟨h.remark, fun _ => scans_nameTexts config h⟩

end Snapshot

private theorem scans_join_cons {a b c : List Char} {text : String} {texts : List String}
    (h : Scans a text.toList b) (hrest : Scans b (String.join texts).toList c) :
    Scans a (String.join (text :: texts)).toList c := by
  rw [String.join_cons, String.toList_append]
  exact h.append hrest

private theorem scans_join_nil {a : List Char} : Scans a (String.join []).toList a :=
  ⟨rfl, rfl⟩

private theorem scans_join_when {a b : List Char} {p : Prop} [Decidable p] {text : String}
    {texts : List String} (h : p → Scans a text.toList a)
    (hrest : Scans a (String.join texts).toList b) :
    Scans a (String.join ((if p then text else "") :: texts)).toList b := by
  refine scans_join_cons ?_ hrest
  split
  · next hp => exact h hp
  · exact ⟨rfl, rfl⟩

theorem scans_join_feed {a b c : List Char} {text : String} (next : String) {texts : List String}
    (h : Scans a (text.toList ++ ['\n']) b)
    (hrest : Scans b (String.join (next :: texts)).toList c) :
    Scans a (String.join (text :: ("\n" ++ next) :: texts)).toList c := by
  have hsplit : (String.join (text :: ("\n" ++ next) :: texts)).toList =
      (text.toList ++ ['\n']) ++ (String.join (next :: texts)).toList := by
    simp [String.join_cons]
  rw [hsplit]
  exact h.append hrest

private theorem piece_labels (labels : List String) :
    Piece True [] (", ".intercalate (labels.map Text.Quoted.encode)) [] := by
  have hcomma : Fixed [] ", ".toList [] := by decide
  induction labels with
  | nil => exact ⟨by decide, fun _ => ⟨rfl, rfl⟩⟩
  | cons label labels ih =>
    cases labels with
    | nil =>
      rw [List.map_cons, List.map_nil, String.intercalate_singleton]
      exact piece_quoted label
    | cons second rest =>
      rw [List.map_cons, List.map_cons, String.intercalate_cons_cons]
      exact ((piece_quoted label).append hcomma.line.toPiece).append ih

theorem ModelState.sheet_declarationText {state : ModelState} (hne : state.declarationText ≠ "")
    (hnames : ∀ b ∈ state.bindings, ∀ c ∈ b.toList, isNameChar c = true) :
    Sheet True [] state.declarationText [] := by
  have hdeclarations : state.declarations ≠ [] := by
    intro hnil
    rw [declarationText, hnil] at hne
    exact hne rfl
  have hsegments : Fixed [] "@Published var segmentData: [String] = [".toList [']'] := by decide
  have hselected : Fixed [] "@Published var selectedSegment: String?".toList [] := by
    rw [String.toList_ofList]
    decide
  have hchecked : Fixed [] "@Published var isChecked: Bool = false".toList [] := by
    rw [String.toList_ofList]
    decide
  have hfront : Fixed [] "@Published var ".toList [] := by decide
  have hrear : Fixed [] ": String = \"\"".toList [] := by decide
  refine sheet_intercalate hdeclarations ?_
  rw [declarations]
  simp only [List.forall_mem_append]
  refine ⟨⟨?segments, ?checkbox⟩, ?bindings⟩
  case segments =>
    split
    · simp only [List.forall_mem_cons]
      exact ⟨(line_between hsegments (piece_labels state.segments) (by decide)).sheet,
        hselected.line.sheet, List.forall_mem_nil _⟩
    · exact List.forall_mem_nil _
  case checkbox =>
    split
    · exact List.forall_mem_singleton.2 hchecked.line.sheet
    · exact List.forall_mem_nil _
  case bindings =>
    intro text htext
    obtain ⟨name, hname, rfl⟩ := List.mem_map.1 htext
    exact (line_between hfront (piece_of_class (hnames name hname) (by decide)) hrear).sheet

private theorem balanced_viewFile {typeName title body view : String} {config : Config}
    (hname : ∀ c ∈ typeName.toList, c.isAlphanum = true)
    (hbody : Scans [] (body.toList ++ ['\n']) [])
    (h : viewFile typeName title body config = .ok view) : Swift.Balanced view := by
  have hname {a : List Char} : Scans a typeName.toList a :=
    scans_of_class hname (by decide)
  have hwidth {a : List Char} (n : Nat) : Scans a (toString n).toList a :=
    scans_of_class (Decimal.numeric_toString n) (by decide)
  have hinner : Scans ['\x7d', '\x7d'] ((Text.indent 8 body).toList ++ ['\n']) ['\x7d', '\x7d'] :=
    (hbody.indent 8).outer ['\x7d', '\x7d']
  have hmodifiers : "\n        .padding(.sm)\n        .ignoresSafeArea(edges: .bottom)\n" =
      "\n" ++ "        .padding(.sm)\n        .ignoresSafeArea(edges: .bottom)\n" := rfl
  rw [viewFile_eq, hmodifiers] at h
  rw [← Except.ok.inj h, Swift.Balanced]
  refine scans_join_cons (by decide : Scans [] _ []) (scans_join_cons hname ?_)
  refine scans_join_cons (by decide : Scans [] _ ['\x7d']) (scans_join_when (fun _ => ?shell) ?_)
  case shell =>
    refine scans_join_cons (b := [')', '\x7d']) ?_ (scans_join_cons (scans_quoted title)
      (scans_join_cons (b := ['\x7d']) ?_ scans_join_nil))
    · rw [String.toList_ofList]
      decide
    · decide
  refine scans_join_cons (by decide : Scans ['\x7d'] _ ['\x7d']) (scans_join_cons hname ?_)
  refine scans_join_cons (by decide : Scans ['\x7d'] _ ['\x7d'])
    (scans_join_when (fun _ => ?fonts) ?_)
  case fonts =>
    refine scans_join_cons (b := ['\x7d']) ?_ scans_join_nil
    rw [String.toList_ofList]
    decide
  refine scans_join_cons (by decide : Scans ['\x7d'] _ ['\x7d', '\x7d'])
    (scans_join_feed _ hinner ?_)
  refine scans_join_cons (b := ['\x7d', '\x7d']) ?_ (scans_join_when (fun _ => ?width) ?_)
  · rw [String.toList_ofList]
    decide
  case width =>
    exact scans_join_cons (by decide : Scans ['\x7d', '\x7d'] _ [')', '\x7d', '\x7d'])
      (scans_join_cons (hwidth _) (scans_join_cons (by decide) scans_join_nil))
  refine scans_join_when (fun _ => ?environment) ?_
  case environment =>
    exact scans_join_cons (b := ['\x7d', '\x7d']) (by decide) scans_join_nil
  refine scans_join_cons (by decide : Scans ['\x7d', '\x7d'] _ ['\x7d']) (scans_join_cons hname ?_)
  exact scans_join_cons (by decide : Scans ['\x7d'] _ []) scans_join_nil

private theorem balanced_modelFile {typeName title model : String} {state : ModelState}
    (hname : ∀ c ∈ typeName.toList, c.isAlphanum = true)
    (hnames : ∀ b ∈ state.bindings, ∀ c ∈ b.toList, isNameChar c = true)
    (h : modelFile typeName title state = .ok model) : Swift.Balanced model := by
  have hname {a : List Char} : Scans a typeName.toList a :=
    scans_of_class hname (by decide)
  rw [modelFile_eq] at h
  rw [← Except.ok.inj h, Swift.Balanced]
  refine scans_join_cons (by decide : Scans [] _ []) (scans_join_cons hname ?_)
  refine scans_join_cons (b := ['\x7d']) ?_ (scans_join_cons (scans_quoted title) ?_)
  · rw [String.toList_ofList]
    decide
  refine scans_join_cons (by decide : Scans ['\x7d'] _ ['\x7d'])
    (scans_join_when (fun hdeclared => ?declared) ?_)
  case declared =>
    have hsheet := (ModelState.sheet_declarationText hdeclared hnames).indent 4
    exact scans_join_feed "" ((hsheet.scans trivial).outer ['\x7d'])
      (scans_join_cons ⟨rfl, rfl⟩ scans_join_nil)
  refine scans_join_when (fun _ => ?segments) ?_
  case segments =>
    refine scans_join_cons (b := ['\x7d']) ?_ scans_join_nil
    rw [String.toList_ofList]
    decide
  exact scans_join_cons (by decide : Scans ['\x7d'] _ []) scans_join_nil

private theorem Composer.scans_body {config : Config} {s : Snapshot} {body : String}
    (h : (Composer.compose { config } s).1 = .ok body)
    (hnames : ∀ v ∈ s.visible config, v.PlainNames) :
    Scans [] (body.toList ++ ['\n']) [] := by
  have hcomposed := Composer.composed { config } s h
  rcases hcomposed.sheet fun v hv => (hnames v hv).namesFit config with ⟨-, hempty⟩ | hsheet
  · rw [hempty]
    decide
  · exact hsheet.scans trivial

/-- Both files of a generation are balanced, whatever the texts of the design that are not written
as they are. -/
theorem Generation.balanced_run {source : Source} {root : Option Node} {config : Config}
    {view model : Artifact} {state : ModelState}
    (h : run source root config = .generated view model state)
    (hnames : ∀ n s, root = some n → (n.resolve source).result = .ok s →
      ∀ v ∈ s.visible config, v.PlainNames) :
    Swift.Balanced view.code ∧ Swift.Balanced model.code := by
  cases root with
  | none => cases h
  | some n =>
    rcases run_some_cases source n config with ⟨-, hfailed⟩ | ⟨-, s, body, hs, hbody, hrun⟩
    · rw [h] at hfailed
      cases hfailed
    · obtain ⟨viewText, modelText, hview, hmodel, hgenerated⟩ := hrun
      rw [h] at hgenerated
      cases hgenerated
      have hname : ∀ c ∈ (Text.compactName n.name).toList, c.isAlphanum = true :=
        Text.isAlphanum_of_mem_compactName n.name
      have hplain := hnames n s rfl hs
      constructor
      · exact balanced_viewFile hname (Composer.scans_body hbody hplain) hview
      · refine balanced_modelFile hname ?_ hmodel
        rw [(Composer.composed { config } s hbody).state_eq]
        exact Snapshot.isNameChar_of_mem_bindings _

/-- A group of a text, a shape in a shared style, a control and a node of an unknown kind, with
brackets, quotes and marks of comments in whatever may hold them. -/
private def board : Node where
  id := ⟨"1"⟩
  kind := .group
  name := "Board (draft"
  children := [
    { id := ⟨"2"⟩
      kind := .text
      name := "Hint */"
      text := {
        characters := "\\\" /* \x7d ("
        style := some ⟨"S:1"⟩
        boundFill := some ⟨"V:1"⟩ } },
    { id := ⟨"3"⟩, kind := .frame, name := "Row", children := [
      { id := ⟨"4"⟩, kind := .rectangle, fillStyle := some ⟨"S:2"⟩ }] },
    { id := ⟨"5"⟩, kind := .componentInstance, name := "Period", children := [
      { id := ⟨"6"⟩, kind := .text, name := "Button", text := { characters := "Day ]" } }] },
    { id := ⟨"7"⟩, kind := .other "STICKY \x7b /*" }]

private def styleGuide : Library where
  instances := .ofList [(⟨"5"⟩, "161:1")]
  components := .ofList [("161:1", "Segments")]
  styles := .ofList [(⟨"S:1"⟩, "Text/Body-1"), (⟨"S:2"⟩, "Surface/Primary 2")]
  variableNames := .ofList [(⟨"V:1"⟩, "Text/Neutral 9")]

theorem Generation.balanced_run_board :
    ∃ view model state,
      run styleGuide.source (some board) {} = .generated view model state ∧
      Swift.Balanced view.code ∧ Swift.Balanced model.code := by
  have hsucceeds : (run styleGuide.source (some board) {}).hasFailed = false := by decide +kernel
  have hplain : ∀ s ∈ (board.resolve styleGuide.source).result.toOption,
      ∀ v ∈ s.visible {}, v.PlainNames := by
    decide +kernel
  cases hrun : run styleGuide.source (some board) {} with
  | failed diagnostic =>
    rw [hrun] at hsucceeds
    cases hsucceeds
  | generated view model state =>
    refine ⟨view, model, state, rfl, balanced_run hrun fun n s hn hs => ?_⟩
    cases hn
    exact hplain s (by rw [hs]; rfl)

end Mockup
