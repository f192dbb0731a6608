import Mockup.Proofs.Text.Rows

/-!
# Indentation by steps

Indentation cuts a text into lines and joins them again. On the way a line break at the end is lost,
and a carriage return before a line break with it, so that a second indentation may find other lines
than the first one. In a text that has no carriage return and ends visibly, both find the same ones.
-/

namespace Mockup.Text

/-- A text without carriage returns whose last line can be seen. -/
structure Steady (s : String) : Prop where
  return_notMem : '\r' ∉ s.toList
  ends : ∃ line, (lines s.toList).getLast? = some line ∧ Shows line

theorem steady_of_tidy {s : String} (h : Tidy s) : Steady s where
  return_notMem := by
    intro hreturn
    have hrow : '\r' ∈ (s.toList.splitOn '\n').flatten := by
      rw [List.splitOn, flatten_splitOnP, List.mem_filter]
      exact ⟨hreturn, by decide⟩
    obtain ⟨row, hrow, hreturn⟩ := List.mem_flatten.1 hrow
    exact (h row hrow).1 hreturn
  ends :=
    ⟨_, List.getLast?_eq_some_getLast (lines_ne_nil h),
      shows_of_mem_lines h (List.getLast_mem (lines_ne_nil h))⟩

theorem getLast?_of_tidy {s : String} (h : Tidy s) : s.toList.getLast? ≠ some '\n' := by
  intro hfeed
  obtain ⟨front, hs⟩ := List.getLast?_eq_some_iff.1 hfeed
  have hmem : [] ∈ s.toList.splitOn '\n' := by
    rw [hs, List.splitOn_append_cons_self]
    simp
  exact (h [] hmem).2.ne_nil rfl

theorem indentLine_eq (width : Nat) (line : List Char) :
    indentLine width line = if Shows line then shift width line else [] := by
  split
  · next h => exact indentLine_of_shows h width
  · next h =>
    rw [indentLine, if_pos]
    rw [isBlankLine, List.all_eq_true]
    intro c hc
    by_contra hblank
    exact h ⟨c, hc, by simpa using hblank⟩

private theorem indentLine_indentLine (a b : Nat) (line : List Char) :
    indentLine a (indentLine b line) = indentLine (a + b) line := by
  by_cases h : Shows line
  · have hmoved : Shows (shift b line) := h.behind _
    rw [indentLine_of_shows h, indentLine_of_shows hmoved, indentLine_of_shows h, shift_shift]
  · rw [indentLine_eq b, indentLine_eq (a + b), if_neg h, if_neg h]
    rfl

namespace Steady

variable {s : String} (h : Steady s)

include h

private theorem return_notMem_of_mem_lines {line : List Char} (hline : line ∈ lines s.toList) :
    '\r' ∉ line := by
  obtain ⟨row, hrow, hstart⟩ := exists_row_of_mem_lines hline
  exact fun hreturn =>
    h.return_notMem (mem_of_mem_splitOnP hrow (hstart.subset hreturn)).1

private theorem closed_indent (width : Nat) : Closed (indent width s) := by
  obtain ⟨last, hlast, hshows⟩ := h.ends
  refine Text.closed_indent hlast hshows (fun hreturn => ?_) width
  exact h.return_notMem_of_mem_lines (List.mem_of_getLast? hlast) (List.mem_of_getLast? hreturn)

theorem lines_indent (width : Nat) :
    lines (indent width s).toList = (lines s.toList).map (indentLine width) := by
  obtain ⟨last, hlast, -⟩ := h.ends
  have hrows : rows (indent width s) = (lines s.toList).map (indentLine width) :=
    rows_indent (List.ne_nil_of_mem (List.mem_of_getLast? hlast)) width
  rw [(h.closed_indent width).lines_eq, hrows]
  refine (List.map_congr_left fun moved hmoved => ?_).trans (List.map_id _)
  obtain ⟨line, hline, rfl⟩ := List.mem_map.1 hmoved
  have hkept : '\r' ∉ indentLine width line := by
    rw [indentLine_eq]
    split
    · rw [shift, List.mem_append, not_or]
      exact ⟨by simp [List.mem_replicate], h.return_notMem_of_mem_lines hline⟩
    · exact List.not_mem_nil
  exact dropReturn_eq_self fun hreturn => hkept (List.mem_of_getLast? hreturn)

/-- Indentation by steps is indentation by their sum. -/
theorem indent_indent (a b : Nat) : indent a (indent b s) = indent (a + b) s := by
  rw [indent, h.lines_indent, List.map_map]
  simp only [Function.comp_def, indentLine_indentLine]
  rfl

end Steady

/-- A last line that is blank, and a carriage return. -/
example : indent 2 (indent 2 "a\n ") ≠ indent 4 "a\n " ∧
    indent 2 (indent 2 "a\r\r\nb") ≠ indent 4 "a\r\r\nb" := by
  decide

end Mockup.Text
