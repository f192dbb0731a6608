import Mockup.Proofs.Swift.Uses
import Mockup.Proofs.Text.Lines
import Mockup.View.Fragment

/-!
# Marks of a text

The characters of a text that are neither blank nor part of a name. Layout leaves them alone, and
they do not depend on the names that are written.
-/

namespace Mockup.Swift

open Text (indent indentLine joinLines lines)

def isMark (c : Char) : Bool :=
  !Text.isBlank c && !isNameChar c

def marks (text : String) : List Char :=
  text.toList.filter isMark

theorem marks_append (a b : String) : marks (a ++ b) = marks a ++ marks b := by
  rw [marks, String.toList_append, List.filter_append, marks, marks]

theorem marks_name {name : String} (h : ∀ c ∈ name.toList, isNameChar c = true) :
    marks name = [] := by
  rw [marks, List.filter_eq_nil_iff]
  intro c hc
  simp [isMark, h c hc]

theorem marks_ne_nil {text : String} (c : Char) (hc : c ∈ text.toList) (hmark : isMark c = true) :
    marks text ≠ [] :=
  List.ne_nil_of_mem (List.mem_filter.2 ⟨hc, hmark⟩)

/-- Something is opened in the text, so that it has a mark. -/
def Opens (text : String) : Prop :=
  '(' ∈ text.toList

instance (text : String) : Decidable (Opens text) :=
  inferInstanceAs (Decidable (_ ∈ _))

theorem Opens.append {front : String} (h : Opens front) (rear : String) :
    Opens (front ++ rear) := by
  rw [Opens, String.toList_append]
  exact List.mem_append_left _ h

theorem Opens.intercalate {front : String} (h : Opens front) (sep : String)
    (rest : List String) : Opens (sep.intercalate (front :: rest)) := by
  cases rest with
  | nil =>
    rw [String.intercalate_singleton]
    exact h
  | cons second rest =>
    rw [String.intercalate_cons_cons, String.append_assoc]
    exact h.append _

theorem Opens.marks_ne_nil {text : String} (h : Opens text) : marks text ≠ [] :=
  Swift.marks_ne_nil '(' h (by decide)

theorem map_intersperse {α β : Type} (f : α → β) (a : α) (l : List α) :
    (l.intersperse a).map f = (l.map f).intersperse (f a) := by
  induction l with
  | nil => rfl
  | cons x l ih =>
    cases l with
    | nil => rfl
    | cons y l => simpa using ih

private theorem filter_intercalate {α : Type} (test : α → Bool) (sep : List α)
    (ls : List (List α)) :
    (sep.intercalate ls).filter test = (sep.filter test).intercalate (ls.map (·.filter test)) := by
  rw [List.intercalate, List.filter_flatten, map_intersperse, List.intercalate]

private theorem marks_intercalate (sep : String) (texts : List String) :
    marks (sep.intercalate texts) = (marks sep).intercalate (texts.map marks) := by
  rw [marks, String.toList_intercalate, filter_intercalate, List.map_map, marks]
  rfl

private theorem filter_dropReturn (line : List Char) :
    (Text.dropReturn line).filter isMark = line.filter isMark := by
  rw [Text.dropReturn]
  split
  · next hlast =>
    obtain ⟨front, hfront⟩ := List.getLast?_eq_some_iff.1 hlast
    rw [hfront, List.dropLast_concat, List.filter_append]
    have hreturn : ['\r'].filter isMark = [] := by decide
    rw [hreturn, List.append_nil]
  · rfl

private theorem filter_indentLine (width : Nat) (line : List Char) :
    (indentLine width line).filter isMark = line.filter isMark := by
  rw [indentLine]
  split
  · next hblank =>
    symm
    rw [List.filter_nil, List.filter_eq_nil_iff]
    intro c hc
    simp [isMark, List.all_eq_true.1 hblank c hc]
  · rw [List.filter_append, List.filter_eq_nil_iff.2, List.nil_append]
    intro c hc
    rw [(List.mem_replicate.1 hc).2]
    decide

private theorem filter_joinLines (ls : List (List Char)) :
    (joinLines ls).filter isMark = (ls.map (·.filter isMark)).flatten := by
  have hfeed : ['\n'].filter isMark = [] := by decide
  rw [joinLines, filter_intercalate, hfeed, Text.nil_intercalate]

/-- The lines of a text have its marks. -/
theorem flatten_lines (cs : List Char) :
    ((lines cs).map (·.filter isMark)).flatten = cs.filter isMark := by
  have hcs : joinLines (cs.splitOn '\n') = cs := List.intercalate_splitOn '\n'
  have hparts := filter_joinLines (cs.splitOn '\n')
  obtain ⟨front, last, hsplit⟩ := Text.exists_splitOn_concat cs
  rw [hcs] at hparts
  rw [hparts, Text.lines_of_splitOn hsplit, hsplit]
  simp only [List.map_append, List.map_map, List.flatten_append]
  congr 1
  · simp only [Function.comp_def, filter_dropReturn]
  · by_cases hlast : last = []
    · subst hlast
      rfl
    · simp [hlast]

private theorem marks_indent (width : Nat) (text : String) :
    marks (indent width text) = marks text := by
  rw [marks, indent, String.toList_ofList, filter_joinLines, List.map_map, marks,
    ← flatten_lines text.toList]
  simp only [Function.comp_def, filter_indentLine]

theorem marks_block (opener : String) (parts : List String) :
    marks (Fragment.block opener parts) =
      marks opener ++ '\x7b' :: ((parts.map marks).flatten ++ ['\x7d']) := by
  have hfilled : ((parts.filter (· ≠ "")).map marks).flatten = (parts.map marks).flatten := by
    induction parts with
    | nil => rfl
    | cons part parts ih =>
      by_cases hpart : part = ""
      · subst hpart
        simpa [marks] using ih
      · simpa [hpart] using ih
  have hfeed : marks "\n" = [] := by decide
  have hopen : marks " \x7b\n" = ['\x7b'] := by decide
  have hclose : marks "\n\x7d" = ['\x7d'] := by decide
  have hempty : marks " \x7b\n\x7d" = ['\x7b', '\x7d'] := by decide
  rw [Fragment.block, ← hfilled]
  split
  · next hnone =>
    rw [marks_append, hempty, hnone]
    rfl
  · rw [marks_append, marks_append, marks_append, marks_indent, marks_intercalate, hfeed,
      Text.nil_intercalate, hopen, hclose]
    simp

theorem opens_call (callee : String) (args : List String) :
    Opens (Fragment.call callee args) := by
  rw [Fragment.call, Opens]
  simp

theorem marks_call_congr (callee : String) {args others : List String}
    (h : args.map marks = others.map marks) :
    marks (Fragment.call callee args) = marks (Fragment.call callee others) := by
  rw [Fragment.call, Fragment.call]
  simp only [marks_append, marks_indent, marks_intercalate, h]

end Mockup.Swift
