import Mockup.Proofs.View.Drawing
import Mockup.Proofs.View.Sheets

/-!
# Layout of a view

Every composition draws its nodes: the lines of a frame and of a group surround those of their
parts, and so each visible node stands in the view at its place.
-/

namespace Mockup

open Mockup.Composition (Composed EachInTurn)
open Drawing (Drawn InTurn Surrounds spacer)
open Swift (Line Sheet)
open Text (Tidy shift)

namespace Drawing

private theorem ne_shift_spacer {line : List Char} (h : line.head? ≠ some ' ') {steps : Nat}
    (hsteps : 0 < steps) : shift (4 * steps) spacer ≠ line := by
  rintro rfl
  obtain ⟨n, rfl⟩ := Nat.exists_eq_add_of_lt hsteps
  exact h rfl

theorem Surrounds.append {steps : Nat} {inner lines : List (List Char)}
    (h : Surrounds steps inner lines) (hsteps : 0 < steps) {rest : List (List Char)}
    (hrest : ∀ line ∈ rest, line.head? ≠ some ' ') : Surrounds steps inner (lines ++ rest) := by
  obtain ⟨front, rear, rfl, hfront, hspacer⟩ := h
  refine ⟨front, rear ++ rest, by simp, hfront, ?_⟩
  rw [← List.append_assoc, List.mem_append, not_or]
  exact ⟨hspacer, fun hmem => ne_shift_spacer (hrest _ hmem) hsteps rfl⟩

private theorem tidy_block {opener : String} {parts : List String}
    (hopener : Line False [] (opener ++ " \x7b") ['\x7d'])
    (hparts : ∀ t ∈ parts.filter (· ≠ ""), Tidy t) : Tidy (Fragment.block opener parts) := by
  have hsheets : ∀ t ∈ parts, t ≠ "" → Sheet False [] t [] := fun t ht hne =>
    ⟨hparts t (List.mem_filter.2 ⟨ht, by simpa using hne⟩), False.elim⟩
  exact (Swift.sheet_block hopener.sheet hsheets).tidy

private theorem lines_block {opener : String} {parts : List String}
    (hopener : Line False [] (opener ++ " \x7b") ['\x7d'])
    (hparts : ∀ t ∈ parts.filter (· ≠ ""), Tidy t) :
    Text.lines (Fragment.block opener parts).toList = (opener ++ " \x7b").toList ::
      ((parts.filter (· ≠ "")).flatMap (Text.lines ·.toList)).map (shift 4) ++
        ["\x7d".toList] := by
  have hclose : Tidy "\x7d" ∧ Text.lines "\x7d".toList = ["\x7d".toList] :=
    ⟨Text.tidy_of_oneLine (by decide) (by decide), by decide⟩
  have hfirst := Text.lines_of_oneLine hopener.oneLine hopener.shows
  rw [Swift.block_eq]
  split
  · next hempty =>
    rw [Text.lines_under hopener.sheet.tidy hclose.1, hfirst, hclose.2, hempty]
    rfl
  · next hfilled =>
    obtain ⟨htidy, hlines⟩ := Text.tidy_intercalate hfilled hparts
    have hinner := Text.tidy_indent htidy Fragment.indentWidth
    rw [Text.lines_under (Text.tidy_under hopener.sheet.tidy hinner) hclose.1,
      Text.lines_under hopener.sheet.tidy hinner, hfirst, hclose.2, Text.lines_indent htidy, hlines]
    rfl

private theorem surrounds_block {opener : String} {parts : List String}
    (hopener : Line False [] (opener ++ " \x7b") ['\x7d'])
    (hstart : (opener ++ " \x7b").toList.head? ≠ some ' ')
    (hparts : ∀ t ∈ parts.filter (· ≠ ""), Tidy t) :
    Surrounds 1 ((parts.filter (· ≠ "")).flatMap (Text.lines ·.toList))
      (Text.lines (Fragment.block opener parts).toList) := by
  refine ⟨[(opener ++ " \x7b").toList], ["\x7d".toList], lines_block hopener hparts, rfl, ?_⟩
  simp only [List.cons_append, List.nil_append, List.mem_cons, List.not_mem_nil, or_false, not_or]
  exact ⟨ne_shift_spacer hstart Nat.one_pos, ne_shift_spacer (by decide) Nat.one_pos⟩

/-- What surrounds inner lines does so a level further to the right in a view that scrolls. -/
theorem surrounds_scrolled {stack : String} {inner : List (List Char)} (htidy : Tidy stack)
    (h : Surrounds 1 inner (Text.lines stack.toList)) :
    Tidy (Fragment.block "ScrollView" [stack]) ∧
      Surrounds 2 inner (Text.lines (Fragment.block "ScrollView" [stack]).toList) := by
  have hscroll : Swift.Fixed [] ("ScrollView" ++ " \x7b").toList ['\x7d'] := by decide
  have hfilled : [stack].filter (· ≠ "") = [stack] := by simp [htidy.ne_empty]
  have hparts : ∀ t ∈ [stack].filter (· ≠ ""), Tidy t := by
    rw [hfilled]
    exact List.forall_mem_singleton.2 htidy
  have hlines := lines_block hscroll.line hparts
  rw [hfilled, List.flatMap_singleton] at hlines
  obtain ⟨front, rear, hstack, hfront, hspacer⟩ := h
  have hmoved : shift (4 * 2) spacer ∉ (front ++ rear).map (shift 4) := by
    intro hmem
    obtain ⟨line, hline, heq⟩ := List.mem_map.1 hmem
    rw [← Text.shift_shift 4 4] at heq
    rw [List.append_cancel_left heq] at hline
    exact hspacer hline
  refine ⟨tidy_block hscroll.line hparts, ("ScrollView" ++ " \x7b").toList :: front.map (shift 4),
    rear.map (shift 4) ++ ["\x7d".toList], ?_, by simp [hfront], ?_⟩
  · rw [hlines, hstack]
    simp [Function.comp_def]
  · rw [List.map_append, List.mem_append, not_or] at hmoved
    simp only [List.cons_append, List.mem_cons, List.mem_append, List.not_mem_nil, or_false,
      not_or]
    exact ⟨ne_shift_spacer (by decide) (by decide), hmoved.1, hmoved.2,
      ne_shift_spacer (by decide) (by decide)⟩

private theorem head?_stackOpener (axis : Axis) (spacing : String) :
    (Snapshot.stackOpener axis spacing ++ " \x7b").toList.head? ≠ some ' ' := by
  rw [Snapshot.stackOpener]
  cases axis <;> simp [Axis.container]

private theorem head?_frameModifiers (s : Snapshot) (parent : Option Node) :
    ∀ t ∈ s.frameModifiers parent, t.toList.head? ≠ some ' ' := by
  rw [Snapshot.frameModifiers]
  simp only [List.forall_mem_append, List.forall_mem_singleton]
  refine ⟨⟨?padding, by simp⟩, ?corner⟩
  case padding =>
    intro t ht
    split at ht
    · cases ht
    · obtain ⟨m, -, rfl⟩ := List.mem_map.1 ht
      simp [PaddingModifier.text]
  case corner =>
    intro t ht
    rw [Option.mem_toList, Snapshot.cornerModifier?.eq_def] at ht
    split at ht
    · cases ht
    · obtain ⟨radius, -, rfl⟩ := Option.map_eq_some_iff.1 ht
      simp

theorem flatMap_intersperse {α β : Type} (f : α → List β) (between : α) (xs : List α) :
    (xs.intersperse between).flatMap f = (f between).intercalate (xs.map f) := by
  induction xs with
  | nil => rfl
  | cons x xs ih =>
    cases xs with
    | nil => simp
    | cons y ys => simp_all [List.intercalate_cons_cons]

variable {config : Config} {d : Drawing}

/-- The texts of the parts of a drawing, with spacers between them where they are spread. -/
def spreadTexts (d : Drawing) : List String :=
  if d.shown.node.spreadsChildren d.parent then (d.parts.map text).intersperse "Spacer()"
  else d.parts.map text

private theorem tidy_of_mem_spreadTexts (hparts : ∀ p ∈ d.parts, Tidy p.text) :
    ∀ t ∈ d.spreadTexts, Tidy t := by
  have htexts : ∀ t ∈ d.parts.map text, Tidy t := by
    intro t ht
    obtain ⟨p, hp, rfl⟩ := List.mem_map.1 ht
    exact hparts p hp
  rw [spreadTexts]
  split
  · intro t ht
    rcases Snapshot.mem_of_mem_intersperse ht with rfl | ht
    · exact Text.tidy_of_oneLine (by decide) (by decide)
    · exact htexts t ht
  · exact htexts

private theorem flatMap_spreadTexts (d : Drawing) :
    d.spreadTexts.flatMap (Text.lines ·.toList) = d.body := by
  have hspacer : Text.lines "Spacer()".toList = [spacer] := by decide
  rw [spreadTexts, body, separator]
  split
  · rw [flatMap_intersperse, hspacer, List.map_map]
    rfl
  · rw [List.flatMap_map, Text.nil_intercalate]
    rfl

private theorem surrounds_spread {opener : String} (hparts : ∀ p ∈ d.parts, Tidy p.text)
    (hopener : Line False [] (opener ++ " \x7b") ['\x7d'])
    (hstart : (opener ++ " \x7b").toList.head? ≠ some ' ') :
    Tidy (Fragment.block opener d.spreadTexts) ∧
      Surrounds 1 d.body (Text.lines (Fragment.block opener d.spreadTexts).toList) := by
  have hspread := tidy_of_mem_spreadTexts hparts
  have hfilled : d.spreadTexts.filter (· ≠ "") = d.spreadTexts :=
    List.filter_eq_self.2 fun t ht => by simpa using (hspread t ht).ne_empty
  rw [← hfilled] at hspread
  have hblock := surrounds_block hopener hstart hspread
  rw [hfilled, flatMap_spreadTexts] at hblock
  exact ⟨tidy_block hopener hspread, hblock⟩

theorem lines_frameModifiers (hk : d.shown.node.kind = .frame)
    (hnames : d.shown.NamesFit False config) :
    Tidy ("\n".intercalate (d.shown.frameModifiers d.parent)) ∧
      ∀ line ∈ Text.lines ("\n".intercalate (d.shown.frameModifiers d.parent)).toList,
        line.head? ≠ some ' ' := by
  obtain ⟨hfill, hcorner⟩ := Snapshot.pieces_of_frame hnames hk
  have hmodifiers := Snapshot.line_frameModifiers d.parent hfill hcorner
  obtain ⟨htidy, hlines⟩ := Text.tidy_intercalate
    (by simp [Snapshot.frameModifiers] : d.shown.frameModifiers d.parent ≠ [])
    fun t ht => (hmodifiers t ht).sheet.tidy
  refine ⟨htidy, fun line hline => ?_⟩
  rw [hlines] at hline
  obtain ⟨t, ht, hline⟩ := List.mem_flatMap.1 hline
  rw [Text.lines_of_oneLine (hmodifiers t ht).oneLine (hmodifiers t ht).shows,
    List.mem_singleton] at hline
  rw [hline]
  exact head?_frameModifiers d.shown d.parent t ht

private theorem surrounds_frame (hk : d.shown.node.kind = .frame)
    (htext : d.text = d.shown.frameFragment d.parent (d.parts.map text))
    (hparts : ∀ p ∈ d.parts, Tidy p.text) (hnames : d.shown.NamesFit False config) :
    Surrounds d.steps d.body d.lines := by
  have hfragment : d.text = let layout := Arrangement.of d.shown.node d.parent
      if layout.spacing.isOverlap then
        Fragment.block (Snapshot.stackOpener layout.axis layout.spacing.display) d.spreadTexts
      else
        let spacing :=
          if layout.axis = .horizontal ∧ layout.spansWidth then ".zero" else layout.spacing.display
        let stack := Fragment.block (Snapshot.stackOpener layout.axis spacing) d.spreadTexts
        let content := if d.parent.isNone then Fragment.block "ScrollView" [stack] else stack
        content ++ "\n" ++ "\n".intercalate (d.shown.frameModifiers d.parent) := htext
  rw [lines, hfragment]
  dsimp only
  split
  · next hoverlap =>
    have hstill : d.scrolls = false := by simp [scrolls, hoverlap]
    rw [steps, hstill]
    exact (surrounds_spread hparts (Snapshot.line_stackOpener _ (Snapshot.piece_gap _ _))
      (head?_stackOpener _ _)).2
  · next hapart =>
    obtain ⟨hmodifiers, hlines⟩ := lines_frameModifiers hk hnames
    obtain ⟨htidy, hstack⟩ := surrounds_spread hparts
      (Snapshot.line_stackOpener (Arrangement.of d.shown.node d.parent).axis
        (Snapshot.piece_rowGap d.shown.node d.parent)) (head?_stackOpener _ _)
    split
    · next hroot =>
      have hscrolls : d.scrolls = true := by simp [scrolls, hroot, Node.isFrame, hk, hapart]
      obtain ⟨hcontent, hscrolled⟩ := surrounds_scrolled htidy hstack
      rw [Text.lines_under hcontent hmodifiers, steps, hscrolls]
      exact hscrolled.append (by decide) hlines
    · next hinner =>
      have hscrolls : d.scrolls = false := by simp [scrolls, hinner]
      rw [Text.lines_under htidy hmodifiers, steps, hscrolls]
      exact hstack.append (by decide) hlines

private theorem surrounds_group (hk : d.shown.node.kind = .group) {texts : List String}
    (htext : d.text = Snapshot.groupFragment d.shown.name texts)
    (hfilled : texts.filter (· ≠ "") = d.parts.map text)
    (hparts : ∀ p ∈ d.parts, Tidy p.text) (hnames : d.shown.NamesFit False config) :
    Surrounds d.steps d.body d.lines := by
  have htexts : ∀ t ∈ texts.filter (· ≠ ""), Tidy t := by
    rw [hfilled]
    intro t ht
    obtain ⟨p, hp, rfl⟩ := List.mem_map.1 ht
    exact hparts p hp
  have hstill : d.scrolls = false := by simp [scrolls, Node.isFrame, hk]
  have hblock := surrounds_block (Snapshot.line_groupOpener (Snapshot.piece_groupName hnames hk))
    (by simp) htexts
  rw [hfilled, List.flatMap_map] at hblock
  rw [lines, htext, steps, hstill, body, separator_group hk, Text.nil_intercalate]
  exact hblock

end Drawing

/-- A composition draws its node, unless it leaves no trace of it. -/
def Draws (config : Config) (parent : Option Node) (s : Snapshot) (before : ModelState)
    (text : String) (after : ModelState) : Prop :=
  (s.visible config = [] ∧ text = "" ∧ after = before) ∨
  ∃ d : Drawing, d.shown = s ∧ d.parent = parent ∧ d.before = before ∧ d.text = text ∧
    d.after = after ∧ d.Drawn config

theorem drawings_eachInTurn {config : Config} {parent : Node} {cs : List Snapshot}
    {before after : ModelState} {texts : List String}
    (h : EachInTurn (Draws config (some parent)) cs before texts after) :
    ∃ ds : List Drawing, ds.map (·.shown) = cs.filter (fun c => !(c.visible config).isEmpty) ∧
      (∀ d ∈ ds, d.parent = some parent ∧ d.Drawn config) ∧ InTurn before ds ∧
      texts.filter (· ≠ "") = ds.map (·.text) := by
  induction h with
  | nil state => exact ⟨[], rfl, List.forall_mem_nil _, trivial, rfl⟩
  | @cons s rest before between after text texts head tail ih =>
    obtain ⟨ds, hshown, hdrawn, hturn, htexts⟩ := ih
    rcases head with ⟨hhidden, rfl, rfl⟩ | ⟨d, rfl, hparent, rfl, rfl, rfl, hd⟩
    · refine ⟨ds, ?_, hdrawn, hturn, ?_⟩
      · simp [hhidden, hshown]
      · rw [List.filter_cons_of_neg (by simp), htexts]
    · refine ⟨d :: ds, ?_, ?_, ⟨rfl, hturn⟩, ?_⟩
      · rw [List.filter_cons_of_pos (by simpa using hd.visible_ne_nil), List.map_cons, hshown]
      · exact List.forall_mem_cons.2 ⟨⟨hparent, hd⟩, hdrawn⟩
      · rw [List.filter_cons_of_pos (by simpa using hd.tidy.ne_empty), htexts]
        rfl

/-- A node is drawn with its parts in it. -/
theorem draws_of_parts {config : Config} {parent : Option Node} {s : Snapshot}
    {before after : ModelState} {text : String} (ds : List Drawing)
    (h : Composed config parent s before text after)
    (hnames : ∀ v ∈ s.visible config, v.NamesFit False config)
    (hvisible : s.visible config ≠ []) (hshown : ds.map (·.shown) = s.shownParts config)
    (hds : ∀ d ∈ ds, d.parent = some s.node ∧ d.Drawn config) (hturn : InTurn before ds)
    (hsurrounds : let d : Drawing := ⟨s, parent, before, text, after, ds⟩
      ds ≠ [] → Surrounds d.steps d.body d.lines) :
    Draws config parent s before text after := by
  have hsheet := (h.sheet hnames).resolve_left fun hempty => hvisible hempty.1
  exact Or.inr ⟨⟨s, parent, before, text, after, ds⟩, rfl, rfl, rfl, rfl, rfl,
    .mk ⟨h, hshown, fun d hd => (hds d hd).1, hturn, Drawing.separator_group, hsurrounds⟩
      hsheet.tidy hvisible fun d hd => (hds d hd).2⟩

private theorem Composition.Composed.draws {config : Config} {parent : Option Node} {s : Snapshot}
    {before after : ModelState} {text : String} (h : Composed config parent s before text after)
    (hnames : ∀ v ∈ s.visible config, v.NamesFit False config) :
    Draws config parent s before text after := by
  have hself := h
  revert hnames hself
  refine Composed.induct (motive := fun parent s before text after =>
    (∀ v ∈ s.visible config, v.NamesFit False config) →
      Composed config parent s before text after → Draws config parent s before text after)
    ?omitted ?frame ?group ?widget ?leaf h
  case omitted =>
    intro parent s state hk ho _ _
    exact Or.inl ⟨Snapshot.visible_omitted hk ho, rfl, rfl⟩
  case frame =>
    intro parent s before parts after hk ho hparts hnames hself
    obtain ⟨hname, hbelow⟩ := Snapshot.forall_visible_frame hk ho hnames
    have hdraws : EachInTurn (Draws config (some s.node)) _ before parts after :=
      hparts.mono fun c hc b t a hcomposed => hcomposed.2 (hbelow c hc) hcomposed.1
    obtain ⟨ds, hshown, hds, hturn, htexts⟩ := drawings_eachInTurn hdraws
    have hfilled : ∀ t ∈ parts, decide (t ≠ "") = true := by
      refine hdraws.forall_mem fun c hc b t a hdrawn => decide_eq_true ?_
      rcases hdrawn with ⟨hhidden, -, -⟩ | ⟨d, -, -, -, rfl, -, hd⟩
      · rw [← Snapshot.filter_shownChildren, List.mem_filter, hhidden] at hc
        cases hc.2
      · exact hd.tidy.ne_empty
    rw [List.filter_eq_self.2 hfilled] at htexts
    refine draws_of_parts ds hself hnames (by simp [Snapshot.visible_frame hk ho]) ?_ hds hturn
      fun _ => ?_
    · rw [hshown, Snapshot.filter_shownChildren, Snapshot.shownParts, hk]
    · exact Drawing.surrounds_frame hk (by rw [← htexts]) (fun p hp => (hds p hp).2.tidy) hname
  case group =>
    intro parent s before parts after hk hparts hnames hself
    obtain ⟨hname, hbelow⟩ := Snapshot.forall_visible_group hk hnames
    have hdraws : EachInTurn (Draws config (some s.node)) _ before parts after :=
      hparts.mono fun c hc b t a hcomposed => hcomposed.2 (hbelow c hc) hcomposed.1
    obtain ⟨ds, hshown, hds, hturn, htexts⟩ := drawings_eachInTurn hdraws
    refine draws_of_parts ds hself hnames (by simp [Snapshot.visible_group hk]) ?_ hds hturn
      fun _ => ?_
    · rw [hshown, Snapshot.shownParts, hk]
    · exact Drawing.surrounds_group hk rfl htexts (fun p hp => (hds p hp).2.tidy) hname
  case widget =>
    intro parent s state text hk _ hnames hself
    refine draws_of_parts [] hself hnames (by simp [Snapshot.visible_instance hk]) ?_
      (List.forall_mem_nil _) trivial (absurd rfl)
    rw [Snapshot.shownParts, hk]
    rfl
  case leaf =>
    intro parent s state text hleaf hnames hself
    exact draws_of_parts [] hself hnames (by simp [Snapshot.visible_leaf hleaf])
      (Snapshot.shownParts_leaf hleaf).symm (List.forall_mem_nil _) trivial (absurd rfl)

/-- A composed view is laid out: it consists of the drawings of all visible nodes. -/
theorem Composer.compose_laidOut (c : Composer) (s : Snapshot) {view : String}
    (h : (c.compose s).1 = .ok view)
    (hnames : ∀ v ∈ s.visible c.config, v.NamedOnOneLine) :
    (s.visible c.config = [] ∧ view = "") ∨
    ∃ d : Drawing, d.shown = s ∧ d.parent = none ∧ d.before = {} ∧ d.text = view ∧
      d.LaidOut c.config := by
  have hdraws := (c.composed s h).draws fun v hv => ⟨hnames v hv, False.elim⟩
  rcases hdraws with ⟨hhidden, hempty, -⟩ | ⟨d, hshown, hparent, hbefore, htext, -, hd⟩
  · exact Or.inl ⟨hhidden, hempty⟩
  · exact Or.inr ⟨d, hshown, hparent, hbefore, htext, hd.laidOut⟩

/-- A group of a row, whose shapes are spread around a bar that is left out, and a note. -/
private def spreadRow : Snapshot where
  node := { id := ⟨"0"⟩, kind := .group, name := "Board" }
  children := [
    { node := {
        id := ⟨"1"⟩, kind := .frame, name := "Row"
        layout := { mode := .horizontal, distribution := .spaceBetween } }
      children := [
        { node := { id := ⟨"2"⟩, kind := .rectangle, name := "Left" } },
        { node := { id := ⟨"3"⟩, kind := .frame, name := "Top App Bar" } },
        { node := { id := ⟨"4"⟩, kind := .ellipse, name := "Right" } }] },
    { node := { id := ⟨"5"⟩, kind := .other "STICKY", name := "Note" } }]

theorem Composer.compose_laidOut_spreadRow :
    let c : Composer := { config := {} }
    ∃ d : Drawing, (c.compose spreadRow).1 = .ok d.text ∧ d.LaidOut {} ∧
      d.placements.map (·.drawing.shown.name) = ["Board", "Row", "Left", "Right", "Note"] := by
  intro c
  have hok : (c.compose spreadRow).1.isOk := by decide +kernel
  obtain ⟨view, hview⟩ := exists_ok_of_isOk hok
  have hvisible : (spreadRow.visible {}).map (·.name) =
      ["Board", "Row", "Left", "Right", "Note"] := by
    decide +kernel
  have hnames : ∀ v ∈ spreadRow.visible {}, v.NamedOnOneLine := by decide +kernel
  rcases c.compose_laidOut spreadRow hview hnames with ⟨hhidden, -⟩ | ⟨d, hshown, -, -, htext, hd⟩
  · rw [show spreadRow.visible {} = [] from hhidden] at hvisible
    cases hvisible
  · refine ⟨d, by rw [hview, htext], hd, ?_⟩
    rw [← hvisible, ← hshown, ← hd.shown, List.map_map]
    rfl

end Mockup
