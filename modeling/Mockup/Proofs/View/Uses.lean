import Mockup.Proofs.Layout.Modifier
import Mockup.Proofs.View.Fragments
import Mockup.Proofs.View.State

/-!
# Uses of a view

A view uses of its view model what its visible instances mention, one after the other, as long as
no name of the design leaves the place where it is written.
-/

namespace Mockup

open Swift

namespace Snapshot

/-- The token of the shared style that the corners of a node may have. -/
def cornerToken? (s : Snapshot) : Option String :=
  s.cornerStyle.map (Style.styleToken · "CornerRadius")

/-- The texts into which a node puts names of the design as they are, with the marks of a comment
around them. -/
def nameTexts (config : Config) (s : Snapshot) : List String :=
  match s.node.kind with
  | .frame => s.fillToken?.toList ++ s.cornerToken?.toList
  | .group => ["/* " ++ s.name ++ " */"]
  | .componentInstance =>
    match s.widgetKind config.components with
    | .button | .segmentedControl => s.fillToken?.toList
    | _ => []
  | .text => [s.fontName, s.boundColor]
  | .rectangle | .ellipse | .vector => s.fillToken?.toList
  | .line => []
  | .other kind => ["// Unhandled node type: " ++ kind ++ "\n"]

/-- The names in a node's text stay in their places: behind each the text is code as before, and
none of them uses the view model. -/
def Contained (config : Config) (s : Snapshot) : Prop :=
  ∀ text ∈ s.nameTexts config, Phrase text.toList []

section

variable {config : Config} {s : Snapshot}

private theorem phrase_radius {radius : String} (h : s.radius? = some radius)
    (hcorner : ∀ token ∈ s.cornerToken?, Phrase token.toList []) : Phrase radius.toList [] := by
  rw [radius?] at h
  split at h
  · cases h
  · split at h
    · cases h
    · cases h
      split
      · next style hstyle => exact hcorner _ (by rw [cornerToken?, hstyle]; rfl)
      · exact Spacing.phrase_ofLength _

private theorem phrase_cornerModifier {parent : Option Node} {modifier : String}
    (h : s.cornerModifier? parent = some modifier)
    (hcorner : ∀ token ∈ s.cornerToken?, Phrase token.toList []) :
    Phrase modifier.toList [] := by
  rw [cornerModifier?.eq_def] at h
  split at h
  · cases h
  · obtain ⟨radius, hradius, rfl⟩ := Option.map_eq_some_iff.1 h
    have hfront : Leads ".cornerRadius(".toList [] := by decide
    exact phrase_argument hfront (phrase_radius hradius hcorner)

private theorem phrase_padding (p : Padding) : ∀ m ∈ p.modifiers, Phrase m.text.toList [] := by
  have hedges (edges : EdgeSet) : Leads (".padding(" ++ edges.argument).toList [] := by
    cases edges <;> decide
  intro m hm
  obtain ⟨edges, value, rfl⟩ := Padding.exists_of_mem_modifiers hm
  exact phrase_argument (hedges edges) (Spacing.phrase_ofLength value)

private theorem phrase_frameModifiers (parent : Option Node)
    (hfill : ∀ token ∈ s.fillToken?, Phrase token.toList [])
    (hcorner : ∀ token ∈ s.cornerToken?, Phrase token.toList []) :
    ∀ t ∈ s.frameModifiers parent, Phrase t.toList [] := by
  have hfront : Leads ".background(".toList [] := by decide
  rw [frameModifiers]
  simp only [List.forall_mem_append]
  refine ⟨⟨?padding, ?background⟩, ?corner⟩
  case padding =>
    intro t ht
    split at ht
    · cases ht
    · obtain ⟨m, hm, rfl⟩ := List.mem_map.1 ht
      exact phrase_padding _ m hm
  case background =>
    intro t ht
    rw [List.mem_singleton.1 ht]
    exact phrase_argument hfront (phrase_fillColor hfill)
  case corner =>
    intro t ht
    exact phrase_cornerModifier (Option.mem_toList.1 ht) hcorner

private theorem phrase_stackOpener (axis : Axis) {spacing : String} (h : Phrase spacing.toList []) :
    Passage (stackOpener axis spacing ++ " \x7b").toList [] := by
  have hfront : Leads (axis.container ++ "(spacing: ").toList [] := by
    cases axis <;> decide
  have hrear : Follows ' ' (")" ++ " \x7b").toList [] := by decide
  rw [stackOpener, String.append_assoc]
  exact (phrase_line hfront h hrear).passage

theorem passage_scrolled (parent : Option Node) {stack : String} {names : List (List Char)}
    (h : Passage stack.toList names) :
    Passage (if parent.isNone then Fragment.block "ScrollView" [stack] else stack).toList
      names := by
  have hscroll : Passage ("ScrollView" ++ " \x7b").toList [] := by decide
  split
  · have hblock := Fragment.passage_block hscroll (.cons h .nil)
    rw [List.append_nil] at hblock
    exact hblock
  · exact h

theorem passage_frameFragment {parent : Option Node} {parts : List String}
    {names : List (List Char)} (hparts : Passages parts names)
    (hfill : ∀ token ∈ s.fillToken?, Phrase token.toList [])
    (hcorner : ∀ token ∈ s.cornerToken?, Phrase token.toList []) :
    Passage (s.frameFragment parent parts).toList names := by
  have hspacer : Passage "Spacer()".toList [] := by decide
  have hgap : Phrase (Arrangement.of s.node parent).spacing.display.toList [] :=
    Spacing.phrase_ofGap _
  have hspread : Passages (if s.node.spreadsChildren parent then parts.intersperse "Spacer()"
      else parts) names := by
    split
    · exact hparts.intersperse hspacer
    · exact hparts
  rw [frameFragment]
  dsimp only
  split
  · exact Fragment.passage_block (phrase_stackOpener _ hgap) hspread
  · have hspacing : Phrase (if (Arrangement.of s.node parent).axis = .horizontal ∧
        (Arrangement.of s.node parent).spansWidth then ".zero"
        else (Arrangement.of s.node parent).spacing.display).toList [] := by
      split
      · decide
      · exact hgap
    have hstack := Fragment.passage_block
      (phrase_stackOpener (Arrangement.of s.node parent).axis hspacing) hspread
    have hall := passage_under (passage_scrolled parent hstack)
      (Passages.of_phrases (phrase_frameModifiers parent hfill hcorner)).lines
    rw [List.append_nil] at hall
    exact hall

private theorem passage_groupFragment {parts : List String} {names : List (List Char)}
    (hparts : Passages parts names) (hname : Phrase ("/* " ++ s.name ++ " */").toList []) :
    Passage (groupFragment s.name parts).toList names := by
  have hfront : Leads "VStack(spacing: .md) ".toList [] := by decide
  have hrear : Follows ' ' " \x7b".toList [] := by decide
  have hsplit : "VStack(spacing: .md) /* " ++ s.name ++ " */" ++ " \x7b" =
      "VStack(spacing: .md) " ++ ("/* " ++ s.name ++ " */") ++ " \x7b" := by
    rw [← String.toList_inj]
    simp
  have hopener : Passage ("VStack(spacing: .md) /* " ++ s.name ++ " */" ++ " \x7b").toList [] := by
    rw [hsplit]
    exact (phrase_line hfront hname hrear).passage
  exact Fragment.passage_block hopener hparts

private theorem passage_textFragment {parent : Option Node} (hfont : Phrase s.fontName.toList [])
    (hcolor : Phrase s.boundColor.toList []) : Passage (s.textFragment parent).toList [] := by
  have htext : Leads "Text(".toList [] := by decide
  have hfontFront : Leads ".font(.".toList [] := by decide
  have hcolorFront : Leads ".foregroundColor(.".toList [] := by decide
  have hopacity : Leads ".opacity(".toList [] := by decide
  have hframe (position : RowPosition) :
      Phrase (".frame(maxWidth: .infinity, alignment: ." ++ position.name ++ ")").toList [] := by
    cases position <;> decide
  refine (Passages.of_phrases ?_).lines
  simp only [List.forall_mem_append]
  refine ⟨⟨⟨?characters, ?font⟩, ?color⟩, ?last⟩
  case characters =>
    intro t ht
    rw [List.mem_singleton.1 ht]
    exact phrase_argument htext (phrase_quoted _)
  case font =>
    intro t ht
    split at ht
    · cases ht
    · rw [List.mem_singleton.1 ht]
      exact phrase_argument hfontFront hfont
  case color =>
    intro t ht
    split at ht
    · cases ht
    · rw [List.mem_singleton.1 ht]
      exact phrase_argument hcolorFront hcolor
  case last =>
    intro t ht
    rcases List.mem_cons.1 ht with rfl | ht
    · exact phrase_argument hopacity (Decimal.phrase_designValue _)
    · rw [List.mem_singleton.1 ht]
      exact hframe _

private theorem passage_shapeFragment {shape : String} (hshape : shape ∈ ["Rectangle", "Circle"])
    (hfill : ∀ token ∈ s.fillToken?, Phrase token.toList []) :
    Passage (s.shapeFragment shape).toList [] := by
  have hfront : ∀ shape ∈ ["Rectangle", "Circle"], Leads (shape ++ "().fill(").toList [] := by
    decide
  exact (phrase_argument (hfront shape hshape) (phrase_fillColor hfill)).passage

theorem passage_leafFragment {parent : Option Node} {text : String}
    (h : s.leafFragment? parent = some text) (hs : s.Contained config) :
    Passage text.toList [] := by
  rw [leafFragment?.eq_def] at h
  rw [Contained, nameTexts] at hs
  cases hk : s.node.kind with
  | frame => simp [hk] at h
  | group => simp [hk] at h
  | componentInstance => simp [hk] at h
  | text =>
    simp only [hk, Option.some.injEq] at h hs
    rw [← h]
    exact passage_textFragment (hs _ (by simp)) (hs _ (by simp))
  | rectangle =>
    simp only [hk, Option.some.injEq] at h hs
    rw [← h]
    exact passage_shapeFragment (by simp) fun token ht => hs token (Option.mem_toList.2 ht)
  | ellipse =>
    simp only [hk, Option.some.injEq] at h hs
    rw [← h]
    exact passage_shapeFragment (by simp) fun token ht => hs token (Option.mem_toList.2 ht)
  | vector =>
    simp only [hk, Option.some.injEq] at h hs
    rw [← h]
    exact passage_shapeFragment (by simp) fun token ht => hs token (Option.mem_toList.2 ht)
  | line =>
    simp only [hk, Option.some.injEq] at h
    rw [← h]
    decide
  | other kind =>
    simp only [hk, Option.some.injEq] at h hs
    have hline := hs _ (List.mem_singleton.2 rfl)
    rw [← h]
    rw [String.toList_append] at hline
    exact hline.passage_feed

end

/-- What instances use of the view model, one after the other from a state on. -/
def mentionsInTurn (config : Config) : ModelState → List Snapshot → List String
  | _, [] => []
  | state, i :: rest =>
    Widget.mentions (i.widgetKind config.components) i state ++
      mentionsInTurn config (effect config state i) rest

private theorem mentionsInTurn_append (config : Config) (state : ModelState) (a b : List Snapshot) :
    mentionsInTurn config state (a ++ b) =
      mentionsInTurn config state a ++ mentionsInTurn config (a.foldl (effect config) state) b := by
  induction a generalizing state with
  | nil => rfl
  | cons i a ih =>
    rw [List.cons_append, mentionsInTurn, mentionsInTurn, ih, List.foldl_cons, List.append_assoc]

end Snapshot

open Mockup.Composition (Composed EachInTurn)

private theorem passages_eachInTurn {config : Config} {parent : Node} {cs : List Snapshot}
    {before after : ModelState} {parts : List String}
    (h : EachInTurn (fun c b t a => Composed config (some parent) c b t a ∧
      ((∀ v ∈ c.visible config, v.Contained config) → Passage t.toList
        ((Snapshot.mentionsInTurn config b (c.visibleInstances config)).map String.toList)))
      cs before parts after)
    (hs : ∀ c ∈ cs, ∀ v ∈ c.visible config, v.Contained config) :
    Passages parts ((Snapshot.mentionsInTurn config before
      (cs.flatMap (Snapshot.visibleInstances · config))).map String.toList) := by
  induction h with
  | nil state => exact .nil
  | cons head tail ih =>
    have hhead := head.2 (hs _ List.mem_cons_self)
    have htail := ih fun c hc => hs c (List.mem_cons_of_mem _ hc)
    rw [List.flatMap_cons, Snapshot.mentionsInTurn_append, ← head.1.state_eq, List.map_append]
    exact .cons hhead htail

/-- A composed node uses what its visible instances mention. -/
theorem Composition.Composed.passage {config : Config} {parent : Option Node} {s : Snapshot}
    {before after : ModelState} {text : String} (h : Composed config parent s before text after)
    (hs : ∀ v ∈ s.visible config, v.Contained config) :
    Passage text.toList
      ((Snapshot.mentionsInTurn config before (s.visibleInstances config)).map String.toList) := by
  revert hs
  refine Composed.induct (motive := fun _ s before text _ =>
    (∀ v ∈ s.visible config, v.Contained config) → Passage text.toList
      ((Snapshot.mentionsInTurn config before (s.visibleInstances config)).map String.toList))
    ?omitted ?frame ?group ?widget ?leaf h
  case omitted =>
    intro parent s state hk ho _
    rw [Snapshot.visibleInstances_omitted hk ho]
    exact ⟨rfl, rfl⟩
  case frame =>
    intro parent s before parts after hk ho hparts hs
    rw [Snapshot.visible_frame hk ho] at hs
    have hself := hs s List.mem_cons_self
    rw [Snapshot.Contained, Snapshot.nameTexts, hk] at hself
    simp only [List.forall_mem_append, Option.mem_toList] at hself
    rw [Snapshot.visibleInstances_frame hk ho]
    refine Snapshot.passage_frameFragment (passages_eachInTurn hparts ?_) hself.1 hself.2
    intro c hc v hv
    exact hs v (List.mem_cons_of_mem s (List.mem_flatMap.2 ⟨c, hc, hv⟩))
  case group =>
    intro parent s before parts after hk hparts hs
    rw [Snapshot.visible_group hk] at hs
    have hself := hs s List.mem_cons_self
    rw [Snapshot.Contained, Snapshot.nameTexts, hk] at hself
    rw [Snapshot.visibleInstances_group hk]
    refine Snapshot.passage_groupFragment (passages_eachInTurn hparts ?_)
      (hself _ (List.mem_singleton.2 rfl))
    intro c hc v hv
    exact hs v (List.mem_cons_of_mem s (List.mem_flatMap.2 ⟨c, hc, hv⟩))
  case widget =>
    intro parent s state text hk hfragment hs
    rw [Snapshot.visible_instance hk] at hs
    have hself := hs s List.mem_cons_self
    rw [Snapshot.Contained, Snapshot.nameTexts, hk] at hself
    have hmentions : Snapshot.mentionsInTurn config state [s] =
        Widget.mentions (s.widgetKind config.components) s state := List.append_nil _
    rw [Snapshot.visibleInstances_instance hk, hmentions]
    refine Widget.passage_fragment hfragment ?_
    rintro (hkind | hkind) token htoken
    · exact hself token (by rw [hkind]; exact Option.mem_toList.2 htoken)
    · exact hself token (by rw [hkind]; exact Option.mem_toList.2 htoken)
  case leaf =>
    intro parent s state text hleaf hs
    rw [Snapshot.visible_leaf hleaf] at hs
    rw [Snapshot.visibleInstances_leaf hleaf]
    exact Snapshot.passage_leafFragment hleaf (hs s List.mem_cons_self)

/-- A view uses what its visible instances mention, from the empty state on. -/
theorem Composer.uses_compose (c : Composer) (s : Snapshot) {view : String}
    (h : (c.compose s).1 = .ok view) (hs : ∀ v ∈ s.visible c.config, v.Contained c.config) :
    uses view = Snapshot.mentionsInTurn c.config {} (s.visibleInstances c.config) := by
  have hpassage := (c.composed s h).passage hs
  have hopen : codeOf .code (view.toList ++ ['\n']) = codeOf .code view.toList ++ ['\n'] := by
    rw [codeOf_append, codeOf_feed]
    rfl
  have huses := hpassage.2
  rw [hopen, usesIn_concat (by decide)] at huses
  rw [uses, huses, List.map_map]
  simp

end Mockup
