import Mockup.Proofs.Swift.Comment
import Mockup.Proofs.Swift.Sheet
import Mockup.Proofs.View.Standing

/-!
# Comments of a view

Groups have their names in comments, and nodes of an unknown kind are nothing but a comment. A name
stays in its comment if it opens and closes comments in pairs, and a kind if it has no line break.
Both stand in the view row by row, as deep as the blocks around them.
-/

namespace Mockup

open Mockup.Composition (Composed)
open Swift (Nests SameFrom behindComment? chunks codeOf modeAfter)
open Text (Closed OneLine Shows Tidy rows shift)

namespace Fragment

variable {text part view : String} {depth : Nat} {parts : List String}

private theorem lines_nested (h : Tidy text) (depth : Nat) :
    Tidy (nested depth text) ∧
      Text.lines (nested depth text).toList =
        (Text.lines text.toList).map (shift (depth * indentWidth)) := by
  induction depth with
  | zero =>
    refine ⟨h, ?_⟩
    rw [Nat.zero_mul]
    exact (List.map_id _).symm
  | succ depth ih =>
    refine ⟨Text.tidy_indent ih.1 indentWidth, ?_⟩
    rw [nested, Text.lines_indent ih.1, ih.2, List.map_map]
    refine List.map_congr_left fun line _ => ?_
    rw [Function.comp_apply, Text.shift_shift, Nat.succ_mul, Nat.add_comm]

theorem sameFrom_nested (depth : Nat) (text : String) :
    SameFrom .code ((nested depth text).toList ++ ['\n']) (text.toList ++ ['\n']) := by
  induction depth with
  | zero => exact ⟨rfl, rfl⟩
  | succ depth ih => exact (Swift.sameFrom_indent rfl indentWidth _).trans ih

theorem StandsIn.mem_rows (h : StandsIn depth text view) (hline : OneLine text.toList)
    (hshows : Shows text.toList) : shift (depth * indentWidth) text.toList ∈ rows view := by
  obtain ⟨htidy, hlines⟩ := lines_nested (Text.tidy_of_oneLine hline hshows) depth
  rw [Text.lines_of_tidy htidy, Text.lines_of_oneLine hline hshows] at hlines
  refine h.subset ?_
  rw [rows, hlines]
  exact List.mem_singleton_self _

private theorem closed_block (opener : String) (parts : List String) :
    Closed (block opener parts) := by
  have hend : Closed "\x7d" := Text.closed_of_oneLine (by decide) (by decide)
  rw [Swift.block_eq]
  split
  · exact hend.under _
  · exact hend.under _

private theorem block_eq_append (opener : String) (parts : List String) :
    block opener parts = opener ++ block "" parts := by
  rw [block, block]
  split
  · rw [← String.toList_inj]
    simp
  · rw [← String.toList_inj]
    simp

end Fragment

open Fragment (StandsIn nested)

namespace Composition

variable {config : Config} {v : Snapshot} {parent : Option Node} {before after : ModelState}
  {view : String}

private theorem Composed.group_eq (h : Composed config parent v before view after)
    (hk : v.node.kind = .group) : ∃ parts, view = Snapshot.groupFragment v.name parts := by
  obtain ⟨p, q, hexec, -, -⟩ := h
  rw [exec_node, hk] at hexec
  obtain ⟨parts, -, hparts⟩ := map_eq_ok_iff.1 (congrArg Prod.fst hexec)
  exact ⟨parts, hparts.symm⟩

private theorem Composed.other_eq (h : Composed config parent v before view after) {kind : String}
    (hk : v.node.kind = .other kind) : view = "// Unhandled node type: " ++ kind := by
  obtain ⟨p, q, hexec, -, -⟩ := h
  rw [exec_node, hk] at hexec
  exact (Except.ok.inj (congrArg Prod.fst hexec)).symm

end Composition

namespace Snapshot

private theorem groupFragment_eq (name : String) (parts : List String) : groupFragment name parts =
    "VStack(spacing: .md) /*" ++ (" " ++ name ++ " */" ++ Fragment.block "" parts) := by
  rw [groupFragment, Fragment.block_eq_append, ← String.toList_inj]
  simp

/-- The comment of a group ends behind its name exactly if the comments in the name come in
pairs. -/
theorem behindComment?_groupName_iff (name : String) (body : String) :
    behindComment? (" " ++ name ++ " */" ++ body).toList = some body.toList ↔
      Nests name.toList := by
  have hsplit : (" " ++ name ++ " */" ++ body).toList =
      ' ' :: name.toList ++ ' ' :: '*' :: '/' :: body.toList := by
    simp
  rw [hsplit, Swift.behindComment?_eq_some_iff]

private theorem head?_block (parts : List String) :
    (Fragment.block "" parts).toList.head? = some ' ' := by
  rw [Fragment.block]
  split <;> simp

/-- However deep a group stands, its name is no part of the code. -/
theorem chunks_codeOf_group {name : String} (h : Nests name.toList) (parts : List String)
    (depth : Nat) :
    chunks (codeOf .code ((nested depth (groupFragment name parts)).toList ++ ['\n'])) =
      ["VStack(spacing:".toList, ".md)".toList, "/".toList] ++
        chunks (codeOf .code ((Fragment.block "" parts).toList ++ ['\n'])) := by
  have hopening : modeAfter .code "VStack(spacing: .md) /*".toList = .blockComment 0 ∧
      chunks (codeOf .code "VStack(spacing: .md) /*".toList) =
        ["VStack(spacing:".toList, ".md)".toList, "/".toList] := by
    decide
  obtain ⟨rest, hbody⟩ := List.head?_eq_some_iff.1 (head?_block parts)
  have htext : (groupFragment name parts).toList ++ ['\n'] = "VStack(spacing: .md) /*".toList ++
      (' ' :: name.toList ++ ' ' :: '*' :: '/' :: ' ' :: (rest ++ ['\n'])) := by
    rw [groupFragment_eq]
    simp [hbody]
  have hblank : chunks (codeOf .code (' ' :: rest ++ ['\n'])) =
      chunks (codeOf .code (rest ++ ['\n'])) := Swift.chunks_cons_blank (by decide) _
  rw [(Fragment.sameFrom_nested depth _).2, htext, Swift.chunks_codeOf_comment hopening.1 h,
    hopening.2, hbody, hblank]

private theorem oneLine_remark_iff (kind : String) :
    OneLine ("// Unhandled node type: " ++ kind).toList ↔ OneLine kind.toList := by
  have hremark : OneLine "// Unhandled node type: ".toList := by decide
  rw [String.toList_append, Text.oneLine_append]
  exact and_iff_right hremark

private theorem shows_remark (kind : String) :
    Shows ("// Unhandled node type: " ++ kind).toList := by
  have hshows : Shows "// Unhandled node type: ".toList := by decide
  rw [String.toList_append]
  exact hshows.append _

end Snapshot

/-- The names in the comments of a view. The comment of a group is closed by the mark behind its
name exactly if the comments in the name come in pairs, and then nothing of the name is code at any
depth; a node of an unknown kind is a single line at its depth exactly if its kind is. -/
theorem Composer.compose_comments_iff (c : Composer) (s : Snapshot) {view : String}
    (h : (c.compose s).1 = .ok view) {v : Snapshot} (hv : v ∈ s.visible c.config) :
    ∃ parent before text after, Composed c.config parent v before text after ∧
      (v.node.kind = .group → ∃ parts depth,
        let body := Fragment.block "" parts
        text = "VStack(spacing: .md) /*" ++ (" " ++ v.name ++ " */" ++ body) ∧
        StandsIn depth text view ∧
        (behindComment? (" " ++ v.name ++ " */" ++ body).toList = some body.toList ↔
          Nests v.name.toList) ∧
        (Nests v.name.toList → ∀ d,
          chunks (codeOf .code ((nested d text).toList ++ ['\n'])) =
            ["VStack(spacing:".toList, ".md)".toList, "/".toList] ++
              chunks (codeOf .code (body.toList ++ ['\n'])))) ∧
      (∀ kind, v.node.kind = .other kind →
        text = "// Unhandled node type: " ++ kind ∧
        (OneLine text.toList ↔ OneLine kind.toList) ∧
        (OneLine kind.toList →
          ∃ depth, shift (depth * Fragment.indentWidth) text.toList ∈ rows view)) := by
  obtain ⟨before, hmet⟩ := exists_mem_encounters (f := Snapshot.pass c.config) hv {}
  obtain ⟨parent, text, after, hcomposed, hstands⟩ := (c.composed s h).appears _ hmet
  refine ⟨parent, before, text, after, hcomposed, ?group, ?other⟩
  case group =>
    intro hk
    obtain ⟨parts, rfl⟩ := hcomposed.group_eq hk
    obtain ⟨depth, hdepth⟩ := hstands (Fragment.closed_block _ parts)
    exact ⟨parts, depth, Snapshot.groupFragment_eq v.name parts, hdepth,
      Snapshot.behindComment?_groupName_iff v.name _,
      fun hname => Snapshot.chunks_codeOf_group hname parts⟩
  case other =>
    intro kind hk
    obtain rfl := hcomposed.other_eq hk
    refine ⟨rfl, Snapshot.oneLine_remark_iff kind, fun hkind => ?_⟩
    have hline := (Snapshot.oneLine_remark_iff kind).2 hkind
    have hshows := Snapshot.shows_remark kind
    obtain ⟨depth, hdepth⟩ := hstands (Text.closed_of_oneLine hline hshows)
    exact ⟨depth, hdepth.mem_rows hline hshows⟩

private def sticker : Snapshot where
  node := { id := ⟨"2"⟩, kind := .other "STICKER", name := "Star" }

private def ideas : Snapshot where
  node := { id := ⟨"1"⟩, kind := .group, name := "Ideas /* all */" }
  children := [sticker]

/-- A frame with a group, which holds a node of an unknown kind. -/
private def wall : Snapshot where
  node := { id := ⟨"0"⟩, kind := .frame, name := "Wall" }
  children := [ideas]

theorem Composer.compose_comments_wall :
    let c : Composer := { config := {} }
    ∃ view, (c.compose wall).1 = .ok view ∧
      (∃ parts depth, StandsIn depth (Snapshot.groupFragment "Ideas /* all */" parts) view ∧
        behindComment? (" Ideas /* all */ */" ++ Fragment.block "" parts).toList =
          some (Fragment.block "" parts).toList) ∧
      ∃ depth, shift (depth * Fragment.indentWidth) "// Unhandled node type: STICKER".toList ∈
        rows view := by
  intro c
  have hok : (c.compose wall).1.isOk := by decide +kernel
  obtain ⟨view, hview⟩ := exists_ok_of_isOk hok
  have hvisible : wall.visible c.config = [wall, ideas, sticker] := rfl
  refine ⟨view, hview, ?group, ?other⟩
  case group =>
    obtain ⟨_, _, text, _, _, hgroup, -⟩ :=
      c.compose_comments_iff wall hview (v := ideas) (by simp [hvisible])
    obtain ⟨parts, depth, htext, hdepth, hbehind, -⟩ := hgroup rfl
    rw [htext, ← Snapshot.groupFragment_eq] at hdepth
    exact ⟨parts, depth, hdepth, hbehind.2 (by decide)⟩
  case other =>
    obtain ⟨_, _, text, _, _, -, hother⟩ :=
      c.compose_comments_iff wall hview (v := sticker) (by simp [hvisible])
    obtain ⟨htext, -, hrow⟩ := hother "STICKER" rfl
    rw [htext] at hrow
    exact hrow (by decide)

/-- A group without children whose name ends its comment. -/
private def halfDone : Snapshot where
  node := { id := ⟨"0"⟩, kind := .group, name := "Half */ done" }

/-- A node whose kind goes over two lines. -/
private def brokenKind : Snapshot where
  node := { id := ⟨"0"⟩, kind := .other "STICKY\nNOTE", name := "Note" }

theorem Composer.compose_comments_halfDone :
    let c : Composer := { config := {} }
    (c.compose halfDone).1 = .ok "VStack(spacing: .md) /* Half */ done */ \x7b\n\x7d" ∧
      behindComment? " Half */ done */ \x7b\n\x7d".toList ≠ some " \x7b\n\x7d".toList ∧
      (c.compose brokenKind).1 = .ok "// Unhandled node type: STICKY\nNOTE" ∧
      ¬ OneLine "// Unhandled node type: STICKY\nNOTE".toList := by
  decide +kernel

end Mockup
