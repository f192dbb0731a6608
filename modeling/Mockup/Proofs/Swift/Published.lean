import Mockup.Proofs.Swift.Uses
import Mockup.Proofs.Text.Lines

/-!
# Published properties

Which properties the lines of a Swift text publish.
-/

namespace Mockup.Swift

def publishedMark : List Char :=
  "@Published var ".toList

/-- The name that a line publishes, whatever blanks precede it. -/
def publishedName? (line : List Char) : Option (List Char) :=
  let text := line.dropWhile (· = ' ')
  if publishedMark.isPrefixOf text then
    some ((text.drop publishedMark.length).takeWhile isNameChar)
  else
    none

/-- The names that the lines of a text publish. -/
def published (text : String) : List String :=
  ((text.toList.splitOn '\n').filterMap publishedName?).map String.ofList

theorem publishedName?_mark {name rest : List Char} (hname : ∀ c ∈ name, isNameChar c = true)
    (hrest : rest.head?.all (!isNameChar ·) = true) :
    publishedName? (publishedMark ++ (name ++ rest)) = some name := by
  have hmark : publishedMark.isPrefixOf (publishedMark ++ (name ++ rest)) = true :=
    List.isPrefixOf_iff_prefix.2 (List.prefix_append _ _)
  have hblanks : (publishedMark ++ (name ++ rest)).dropWhile (· = ' ') =
      publishedMark ++ (name ++ rest) := rfl
  have hstop : rest.takeWhile isNameChar = [] := by
    cases rest with
    | nil => rfl
    | cons c rest =>
      have hc : isNameChar c = false := by simpa using hrest
      rw [List.takeWhile_cons, hc]
      rfl
  rw [publishedName?, hblanks, if_pos hmark, List.drop_left, List.takeWhile_append_of_pos hname,
    hstop, List.append_nil]

theorem published_lines {lines names : List String}
    (h : List.Forall₂ (fun line name => '\n' ∉ line.toList ∧
      publishedName? line.toList = some name.toList) lines names) :
    published ("\n".intercalate lines) = names := by
  have hfound : (lines.map String.toList).filterMap publishedName? = names.map String.toList ∧
      ∀ line ∈ lines.map String.toList, '\n' ∉ line := by
    induction h with
    | nil => exact ⟨rfl, by simp⟩
    | cons hline _ ih =>
      constructor
      · rw [List.map_cons, List.filterMap_cons, hline.2, ih.1]
        rfl
      · rw [List.map_cons, List.forall_mem_cons]
        exact ⟨hline.1, ih.2⟩
  have hfeed : "\n".toList = ['\n'] := rfl
  rw [published, String.toList_intercalate, hfeed]
  by_cases hempty : lines = []
  · subst hempty
    cases h
    rfl
  · rw [List.splitOn_intercalate '\n' hfound.2 (by simpa using hempty), hfound.1, List.map_map]
    simp

theorem published_line {line : String} (h : '\n' ∉ line.toList) :
    published line = ((publishedName? line.toList).map String.ofList).toList := by
  rw [published, List.splitOn_eq_singleton h]
  cases hname : publishedName? line.toList <;> simp [hname]

theorem published_under (a b : String) :
    published (a ++ "\n" ++ b) = published a ++ published b := by
  rw [published, Text.splitOn_under, List.filterMap_append, List.map_append, published, published]

theorem publishedName?_shift (width : Nat) (line : List Char) :
    publishedName? (Text.shift width line) = publishedName? line := by
  have hblanks : (Text.shift width line).dropWhile (· = ' ') = line.dropWhile (· = ' ') := by
    rw [Text.shift]
    induction width with
    | zero => rfl
    | succ width ih =>
      rw [List.replicate_succ, List.cons_append, List.dropWhile_cons_of_pos (by decide), ih]
  rw [publishedName?, publishedName?, hblanks]

theorem published_indent {text : String} (h : Text.Tidy text) (width : Nat) :
    published (Text.indent width text) = published text := by
  rw [published, Text.splitOn_indent h, List.filterMap_map, published, Text.lines_of_tidy h]
  simp only [Function.comp_def, publishedName?_shift]

end Mockup.Swift
