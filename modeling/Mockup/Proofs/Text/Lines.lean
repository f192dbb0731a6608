import Mathlib.Data.List.Basic
import Mathlib.Tactic.Common
import Mockup.Proofs.Text.Words
import Mockup.Text.Lines

/-!
# Lines of a text

A text is laid out line by line: what is put under it is put behind its lines, and indentation moves
each of them. Where all lines are visible, they are the rows of the text.
-/

namespace Mockup.Text

theorem nil_intercalate {α : Type} (xs : List (List α)) : [].intercalate xs = xs.flatten := by
  induction xs with
  | nil => rfl
  | cons x xs ih =>
    cases xs with
    | nil => simp
    | cons y ys => simp_all [List.intercalate_cons_cons]

theorem exists_splitOn_concat (cs : List Char) :
    ∃ front last, cs.splitOn '\n' = front ++ [last] :=
  ⟨_, _, (List.dropLast_append_getLast (List.splitOn_ne_nil _ _)).symm⟩

/-- Every row but the last loses its carriage return, and an empty last row is no line. -/
theorem lines_of_splitOn {cs last : List Char} {front : List (List Char)}
    (h : cs.splitOn '\n' = front ++ [last]) :
    lines cs = front.map dropReturn ++ [last].filter (· ≠ []) := by
  rw [lines, h, List.dropLast_concat, List.getLast?_concat]
  rfl

theorem dropReturn_eq_self {line : List Char} (h : line.getLast? ≠ some '\r') :
    dropReturn line = line := by
  rw [dropReturn, if_neg h]

theorem dropReturn_isPrefix (line : List Char) : dropReturn line <+: line := by
  rw [dropReturn]
  split
  · exact List.dropLast_prefix line
  · exact List.prefix_refl line

theorem feed_notMem_of_mem_splitOn {cs row : List Char} (h : row ∈ cs.splitOn '\n') :
    '\n' ∉ row := by
  intro hfeed
  have hother := (mem_of_mem_splitOnP h hfeed).2
  simp at hother

/-- A line is a row, or what is before the carriage return at the end of one. -/
theorem exists_row_of_mem_lines {cs line : List Char} (h : line ∈ lines cs) :
    ∃ row ∈ cs.splitOn '\n', line <+: row := by
  obtain ⟨front, last, hsplit⟩ := exists_splitOn_concat cs
  rw [lines_of_splitOn hsplit] at h
  rw [hsplit]
  rcases List.mem_append.1 h with h | h
  · obtain ⟨row, hrow, rfl⟩ := List.mem_map.1 h
    exact ⟨row, List.mem_append_left _ hrow, dropReturn_isPrefix row⟩
  · rw [List.mem_singleton.1 (List.mem_filter.1 h).1]
    exact ⟨last, List.mem_append_right _ (List.mem_singleton_self _), List.prefix_refl last⟩

theorem feed_notMem_of_mem_lines {cs line : List Char} (h : line ∈ lines cs) : '\n' ∉ line := by
  obtain ⟨row, hrow, hstart⟩ := exists_row_of_mem_lines h
  exact fun hfeed => feed_notMem_of_mem_splitOn hrow (hstart.subset hfeed)

/-- The rows of an indented text are its lines, each moved. -/
theorem splitOn_indent_eq {s : String} (h : lines s.toList ≠ []) (width : Nat) :
    (indent width s).toList.splitOn '\n' = (lines s.toList).map (indentLine width) := by
  have hfeed : ∀ row ∈ (lines s.toList).map (indentLine width), '\n' ∉ row := by
    intro row hrow
    obtain ⟨line, hline, rfl⟩ := List.mem_map.1 hrow
    rw [indentLine]
    split
    · exact List.not_mem_nil
    · have hblanks : '\n' ∉ List.replicate width ' ' := by simp [List.mem_replicate]
      rw [List.mem_append, not_or]
      exact ⟨hblanks, feed_notMem_of_mem_lines hline⟩
  rw [indent, String.toList_ofList, joinLines, List.splitOn_intercalate '\n' hfeed]
  simpa using h

/-- The text has no line break and no carriage return. -/
def OneLine (cs : List Char) : Prop :=
  '\n' ∉ cs ∧ '\r' ∉ cs

instance (cs : List Char) : Decidable (OneLine cs) :=
  inferInstanceAs (Decidable (_ ∧ _))

theorem oneLine_append {a b : List Char} : OneLine (a ++ b) ↔ OneLine a ∧ OneLine b := by
  simp only [OneLine, List.mem_append, not_or]
  exact and_and_and_comm

/-- Something on the line can be seen. -/
def Shows (cs : List Char) : Prop :=
  ∃ c ∈ cs, isBlank c = false

instance (cs : List Char) : Decidable (Shows cs) :=
  List.decidableBEx (isBlank · = false) cs

theorem Shows.append {a : List Char} (h : Shows a) (b : List Char) : Shows (a ++ b) :=
  h.imp fun _ hc => ⟨List.mem_append_left b hc.1, hc.2⟩

theorem Shows.behind {b : List Char} (h : Shows b) (a : List Char) : Shows (a ++ b) :=
  h.imp fun _ hc => ⟨List.mem_append_right a hc.1, hc.2⟩

/-- Every line can be seen, and none has a carriage return. -/
def Tidy (s : String) : Prop :=
  ∀ line ∈ s.toList.splitOn '\n', '\r' ∉ line ∧ Shows line

theorem tidy_of_oneLine {s : String} (h : OneLine s.toList) (hs : Shows s.toList) : Tidy s := by
  intro line hline
  rw [List.splitOn_eq_singleton h.1, List.mem_singleton] at hline
  rw [hline]
  exact ⟨h.2, hs⟩

theorem Tidy.ne_empty {s : String} (h : Tidy s) : s ≠ "" := by
  rintro rfl
  obtain ⟨c, hc, -⟩ := (h [] (by decide)).2
  cases hc

theorem lines_of_tidy {s : String} (h : Tidy s) : lines s.toList = s.toList.splitOn '\n' := by
  obtain ⟨front, last, hsplit⟩ := exists_splitOn_concat s.toList
  rw [Tidy, hsplit, List.forall_mem_append, List.forall_mem_singleton] at h
  have hfront : front.map dropReturn = front := by
    refine (List.map_congr_left fun line hline => ?_).trans (List.map_id front)
    exact dropReturn_eq_self fun hlast => (h.1 line hline).1 (List.mem_of_getLast? hlast)
  have hlast : last ≠ [] := by
    rintro rfl
    obtain ⟨c, hc, -⟩ := h.2.2
    cases hc
  rw [lines_of_splitOn hsplit, hsplit, hfront]
  simp [hlast]

theorem lines_of_oneLine {s : String} (h : OneLine s.toList) (hs : Shows s.toList) :
    lines s.toList = [s.toList] := by
  rw [lines_of_tidy (tidy_of_oneLine h hs), List.splitOn_eq_singleton h.1]

theorem splitOn_under (a b : String) : (a ++ "\n" ++ b).toList.splitOn '\n' =
    a.toList.splitOn '\n' ++ b.toList.splitOn '\n' := by
  rw [String.append_assoc, String.toList_append, String.toList_append]
  exact List.splitOn_append_cons_self _ _

theorem tidy_under {a b : String} (ha : Tidy a) (hb : Tidy b) : Tidy (a ++ "\n" ++ b) := by
  rw [Tidy, splitOn_under]
  intro line hline
  exact (List.mem_append.1 hline).elim (ha line) (hb line)

theorem lines_under {a b : String} (ha : Tidy a) (hb : Tidy b) :
    lines (a ++ "\n" ++ b).toList = lines a.toList ++ lines b.toList := by
  rw [lines_of_tidy (tidy_under ha hb), lines_of_tidy ha, lines_of_tidy hb, splitOn_under]

theorem tidy_intercalate {texts : List String} (hne : texts ≠ []) (h : ∀ t ∈ texts, Tidy t) :
    Tidy ("\n".intercalate texts) ∧
      lines ("\n".intercalate texts).toList = texts.flatMap (lines ·.toList) := by
  induction texts with
  | nil => contradiction
  | cons t texts ih =>
    have ht := h t List.mem_cons_self
    cases texts with
    | nil => simp [ht]
    | cons u texts =>
      obtain ⟨htidy, hlines⟩ := ih (by simp) fun u hu => h u (List.mem_cons_of_mem t hu)
      rw [String.intercalate_cons_cons, List.flatMap_cons, ← hlines]
      exact ⟨tidy_under ht htidy, lines_under ht htidy⟩

theorem oneLine_of_mem_lines {s : String} (h : Tidy s) {line : List Char}
    (hline : line ∈ lines s.toList) : OneLine line := by
  refine ⟨feed_notMem_of_mem_lines hline, ?_⟩
  rw [lines_of_tidy h] at hline
  exact (h line hline).1

theorem shows_of_mem_lines {s : String} (h : Tidy s) {line : List Char}
    (hline : line ∈ lines s.toList) : Shows line := by
  rw [lines_of_tidy h] at hline
  exact (h line hline).2

theorem lines_ne_nil {s : String} (h : Tidy s) : lines s.toList ≠ [] := by
  rw [lines_of_tidy h]
  exact List.splitOn_ne_nil _ _

/-- A line behind blanks. -/
def shift (width : Nat) (line : List Char) : List Char :=
  List.replicate width ' ' ++ line

@[simp] theorem shift_zero (line : List Char) : shift 0 line = line := rfl

@[simp] theorem shift_shift (a b : Nat) (line : List Char) :
    shift a (shift b line) = shift (a + b) line := by
  rw [shift, shift, shift, ← List.append_assoc, ← List.replicate_add]

theorem indentLine_of_shows {line : List Char} (h : Shows line) (width : Nat) :
    indentLine width line = shift width line := by
  rw [indentLine, if_neg]
  · rfl
  · rw [isBlankLine, List.all_eq_true]
    obtain ⟨c, hc, hblank⟩ := h
    intro hall
    rw [hall c hc] at hblank
    cases hblank

theorem oneLine_shift {line : List Char} (h : OneLine line) (width : Nat) :
    OneLine (shift width line) := by
  refine oneLine_append.2 ⟨?_, h⟩
  constructor <;> simp [List.mem_replicate]

theorem splitOn_indent {s : String} (h : Tidy s) (width : Nat) :
    (indent width s).toList.splitOn '\n' = (lines s.toList).map (shift width) := by
  rw [splitOn_indent_eq (lines_ne_nil h)]
  exact List.map_congr_left fun line hline => indentLine_of_shows (shows_of_mem_lines h hline) width

theorem tidy_indent {s : String} (h : Tidy s) (width : Nat) : Tidy (indent width s) := by
  rw [Tidy, splitOn_indent h]
  intro line hline
  obtain ⟨inner, hinner, rfl⟩ := List.mem_map.1 hline
  refine ⟨(oneLine_shift (oneLine_of_mem_lines h hinner) width).2, ?_⟩
  exact (shows_of_mem_lines h hinner).behind _

theorem lines_indent {s : String} (h : Tidy s) (width : Nat) :
    lines (indent width s).toList = (lines s.toList).map (shift width) := by
  rw [lines_of_tidy (tidy_indent h width), splitOn_indent h]

end Mockup.Text
