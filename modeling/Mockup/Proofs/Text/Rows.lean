import Mathlib.Data.List.Infix
import Mockup.Proofs.Text.Lines

/-!
# Rows of a text

A text cut at its line feeds, whatever stands in the rows. Indentation goes row by row, so a run of
rows in a text is still one after the text has been indented, as long as it ends with something that
can be seen.
-/

namespace Mockup.Text

def rows (s : String) : List (List Char) :=
  s.toList.splitOn '\n'

theorem rows_under (a b : String) : rows (a ++ "\n" ++ b) = rows a ++ rows b :=
  splitOn_under a b

theorem rows_indent {s : String} (h : lines s.toList ≠ []) (width : Nat) :
    rows (indent width s) = (lines s.toList).map (indentLine width) :=
  splitOn_indent_eq h width

/-- A text put under another one has its lines behind those of the other. -/
theorem lines_under_any (a b : String) :
    lines (a ++ "\n" ++ b).toList = (rows a).map dropReturn ++ lines b.toList := by
  obtain ⟨front, last, hb⟩ := exists_splitOn_concat b.toList
  have hab : (a ++ "\n" ++ b).toList.splitOn '\n' = (rows a ++ front) ++ [last] := by
    rw [splitOn_under, hb, List.append_assoc]
    rfl
  rw [lines_of_splitOn hab, lines_of_splitOn hb, List.map_append, List.append_assoc]

theorem rows_intercalate {texts : List String} (hne : texts ≠ []) :
    rows ("\n".intercalate texts) = texts.flatMap rows := by
  induction texts with
  | nil => contradiction
  | cons t texts ih =>
    cases texts with
    | nil => simp
    | cons u texts =>
      rw [String.intercalate_cons_cons, rows_under, ih (by simp)]
      rfl

theorem rows_infix_intercalate {texts : List String} {t : String} (ht : t ∈ texts) :
    rows t <:+: rows ("\n".intercalate texts) := by
  rw [rows_intercalate (List.ne_nil_of_mem ht)]
  obtain ⟨front, rear, rfl⟩ := List.append_of_mem ht
  rw [List.flatMap_append, List.flatMap_cons]
  exact List.infix_append' _ _ _

/-- The last row can be seen and has no carriage return at its end. -/
def Closed (s : String) : Prop :=
  ∃ front last, rows s = front ++ [last] ∧ Shows last ∧ last.getLast? ≠ some '\r'

theorem Closed.under (a : String) {b : String} (h : Closed b) : Closed (a ++ "\n" ++ b) := by
  obtain ⟨front, last, hrows, hlast⟩ := h
  exact ⟨rows a ++ front, last, by rw [rows_under, hrows, List.append_assoc], hlast⟩

theorem closed_of_oneLine {s : String} (h : OneLine s.toList) (hs : Shows s.toList) : Closed s :=
  ⟨[], s.toList, List.splitOn_eq_singleton h.1, hs, fun h' => h.2 (List.mem_of_getLast? h')⟩

theorem Shows.ne_nil {line : List Char} (h : Shows line) : line ≠ [] := by
  rintro rfl
  obtain ⟨c, hc, -⟩ := h
  cases hc

theorem Closed.ne_empty_of_infix {a b : String} (h : Closed a) (hrows : rows a <:+: rows b) :
    b ≠ "" := by
  rintro rfl
  obtain ⟨front, last, hlast, hshows, -⟩ := h
  have hmem : last ∈ rows a := hlast ▸ List.mem_append_right _ (List.mem_singleton_self _)
  have hmem : last ∈ [[]] := hrows.subset hmem
  exact hshows.ne_nil (List.mem_singleton.1 hmem)

theorem lines_infix {a b : String} (ha : Closed a) (h : rows a <:+: rows b) :
    (rows a).map dropReturn <:+: lines b.toList := by
  obtain ⟨front, last, hrows, hlast, hreturn⟩ := ha
  obtain ⟨before, behind, hsplit⟩ := h
  rcases List.eq_nil_or_concat' behind with rfl | ⟨behind, final, rfl⟩
  · have hends : b.toList.splitOn '\n' = (before ++ front) ++ [last] := by
      rw [List.append_assoc, ← hrows]
      exact (hsplit.symm.trans (List.append_nil _))
    have hkept : [last].filter (· ≠ []) = [last] := by simp [hlast.ne_nil]
    rw [lines_of_splitOn hends, hkept, hrows]
    exact ⟨before.map dropReturn, [], by simp [dropReturn_eq_self hreturn]⟩
  · have hends : b.toList.splitOn '\n' = (before ++ rows a ++ behind) ++ [final] := by
      rw [List.append_assoc _ behind]
      exact hsplit.symm
    rw [lines_of_splitOn hends, List.map_append, List.map_append]
    exact ⟨before.map dropReturn, behind.map dropReturn ++ [final].filter (· ≠ []), by simp⟩

theorem Closed.lines_eq {s : String} (h : Closed s) :
    lines s.toList = (rows s).map dropReturn := by
  obtain ⟨front, last, hrows, hlast, hreturn⟩ := h
  have hkept : [last].filter (· ≠ []) = [last] := by simp [hlast.ne_nil]
  rw [lines_of_splitOn hrows, hkept, hrows, List.map_append, List.map_singleton,
    dropReturn_eq_self hreturn]

theorem rows_ne_nil (s : String) : rows s ≠ [] :=
  List.splitOn_ne_nil _ _

theorem Closed.rows_indent {s : String} (h : Closed s) (width : Nat) :
    rows (indent width s) = ((rows s).map dropReturn).map (indentLine width) := by
  rw [Text.rows_indent (h.lines_eq ▸ by simpa using rows_ne_nil s), h.lines_eq]

theorem closed_indent {s : String} {last : List Char}
    (hlast : (lines s.toList).getLast? = some last) (hshows : Shows last)
    (hreturn : last.getLast? ≠ some '\r') (width : Nat) : Closed (indent width s) := by
  obtain ⟨front, hlines⟩ := List.getLast?_eq_some_iff.1 hlast
  have hrows := rows_indent (hlines ▸ List.concat_ne_nil last front) width
  refine ⟨front.map (indentLine width), shift width last, ?_, ?_, ?_⟩
  · rw [hrows, hlines, List.map_append, List.map_singleton, indentLine_of_shows hshows]
  · exact hshows.behind _
  · rw [shift, List.getLast?_append_of_ne_nil _ hshows.ne_nil]
    exact hreturn

theorem Closed.indent {s : String} (h : Closed s) (width : Nat) : Closed (indent width s) := by
  have hlines := h.lines_eq
  obtain ⟨front, last, hsplit, hshows, hreturn⟩ := h
  refine closed_indent ?_ hshows hreturn width
  rw [hlines, hsplit, List.map_append, List.map_singleton, dropReturn_eq_self hreturn,
    List.getLast?_concat]

theorem Closed.rows_indent_infix {a b : String} (ha : Closed a) (h : rows a <:+: rows b)
    (width : Nat) : rows (Text.indent width a) <:+: rows (Text.indent width b) := by
  have hlines := lines_infix ha h
  have hne : lines b.toList ≠ [] := by
    intro hempty
    rw [hempty, List.infix_nil, List.map_eq_nil_iff] at hlines
    exact rows_ne_nil a hlines
  rw [ha.rows_indent, Text.rows_indent hne]
  exact hlines.map _

theorem length_splitOn (cs : List Char) : (cs.splitOn '\n').length = cs.count '\n' + 1 := by
  induction cs with
  | nil => rfl
  | cons c cs ih =>
    rw [List.splitOn_cons_eq_if_modifyHead, List.count_cons]
    by_cases hc : (c == '\n') = true
    · rw [if_pos hc, if_pos hc, List.length_cons, ih]
    · rw [if_neg hc, if_neg hc, List.length_modifyHead, ih, Nat.add_zero]

theorem joinLines_append (above : List (List Char)) (line : List Char) (below : List (List Char)) :
    joinLines (above ++ line :: below) =
      above.flatMap (· ++ ['\n']) ++ joinLines (line :: below) := by
  induction above with
  | nil => rfl
  | cons first above ih =>
    obtain ⟨second, rest, hrest⟩ : ∃ second rest, above ++ line :: below = second :: rest :=
      List.exists_cons_of_ne_nil (by simp)
    rw [hrest, joinLines] at ih
    rw [List.cons_append, hrest, joinLines, List.intercalate_cons_cons, ih, List.flatMap_cons]
    simp only [List.append_assoc]

theorem joinLines_cons_append (start line : List Char) (below : List (List Char)) :
    joinLines ((start ++ line) :: below) = start ++ joinLines (line :: below) := by
  cases below with
  | nil => simp [joinLines]
  | cons second below => simp [joinLines, List.intercalate_cons_cons]

theorem splitOn_between {inner : List Char} (hinner : '\n' ∉ inner) (front rear : List Char) :
    ∃ above start finish below,
      (front ++ inner ++ rear).splitOn '\n' = above ++ (start ++ inner ++ finish) :: below ∧
        above.length = front.count '\n' ∧ start <:+ front ∧ finish <+: rear := by
  obtain ⟨above, start, hfront⟩ := exists_splitOn_concat front
  obtain ⟨finish, below, hrear⟩ := List.exists_cons_of_ne_nil (List.splitOn_ne_nil '\n' rear)
  have hjoinFront : above.flatMap (· ++ ['\n']) ++ start = front := by
    have hsingle : joinLines [start] = start := List.intercalate_singleton
    rw [← hsingle, ← joinLines_append, joinLines, ← hfront, List.intercalate_splitOn]
  have hjoinRear : joinLines (finish :: below) = rear := by
    rw [joinLines, ← hrear, List.intercalate_splitOn]
  have hall :
      joinLines (above ++ (start ++ inner ++ finish) :: below) = front ++ inner ++ rear := by
    rw [joinLines_append, joinLines_cons_append, hjoinRear, ← hjoinFront]
    simp only [List.append_assoc]
  have hfeed : ∀ row ∈ above ++ (start ++ inner ++ finish) :: below, '\n' ∉ row := by
    have habove : ∀ row ∈ above ++ [start], '\n' ∉ row :=
      fun row hrow => feed_notMem_of_mem_splitOn (hfront ▸ hrow)
    have hbelow : ∀ row ∈ finish :: below, '\n' ∉ row :=
      fun row hrow => feed_notMem_of_mem_splitOn (hrear ▸ hrow)
    rw [List.forall_mem_append, List.forall_mem_singleton] at habove
    rw [List.forall_mem_cons] at hbelow
    rw [List.forall_mem_append, List.forall_mem_cons]
    refine ⟨habove.1, ?_, hbelow.2⟩
    simp only [List.mem_append, not_or]
    exact ⟨⟨habove.2, hinner⟩, hbelow.1⟩
  refine ⟨above, start, finish, below, ?_, ?_, ⟨_, hjoinFront⟩, ?_⟩
  · rw [← hall, joinLines, List.splitOn_intercalate '\n' hfeed (by simp)]
  · have hlength := length_splitOn front
    rw [hfront, List.length_append] at hlength
    exact Nat.add_right_cancel hlength
  · have hsplit := joinLines_cons_append finish [] below
    rw [List.append_nil, hjoinRear] at hsplit
    exact ⟨_, hsplit.symm⟩

/-- The line on which a visible text without line breaks stands is kept whole, and indentation only
moves it. -/
theorem getElem?_lines_between {inner : List Char} (hinner : OneLine inner) (hshows : Shows inner)
    (front rear : List Char) :
    ∃ start finish, start <:+ front ∧ finish <+: rear ∧
      (lines (front ++ inner ++ rear))[front.count '\n']? = some (start ++ inner ++ finish) := by
  obtain ⟨above, start, finish, below, hsplit, hcount, hstart, hfinish⟩ :=
    splitOn_between hinner.1 front rear
  have hreturn : dropReturn (start ++ inner ++ finish) = start ++ inner ++ dropReturn finish := by
    rcases List.eq_nil_or_concat' finish with rfl | ⟨finish, c, rfl⟩
    · have hlast : (start ++ inner).getLast? ≠ some '\r' := by
        rw [List.getLast?_append_of_ne_nil _ hshows.ne_nil]
        exact fun h => hinner.2 (List.mem_of_getLast? h)
      rw [List.append_nil, dropReturn_eq_self hlast]
      exact (List.append_nil _).symm
    · rw [← List.append_assoc, dropReturn, dropReturn, List.getLast?_concat, List.getLast?_concat,
        List.dropLast_concat, List.dropLast_concat]
      split
      · rfl
      · exact List.append_assoc _ _ _
  rcases List.eq_nil_or_concat' below with rfl | ⟨below, last, rfl⟩
  · have hkept : [start ++ inner ++ finish].filter (· ≠ []) = [start ++ inner ++ finish] := by
      simp [hshows.ne_nil]
    refine ⟨start, finish, hstart, hfinish, ?_⟩
    rw [lines_of_splitOn hsplit, hkept, List.getElem?_append_right (by simp [hcount])]
    simp [hcount]
  · refine ⟨start, dropReturn finish, hstart, (dropReturn_isPrefix finish).trans hfinish, ?_⟩
    rw [← List.cons_append, ← List.append_assoc] at hsplit
    rw [lines_of_splitOn hsplit, List.map_append, List.map_cons, hreturn, List.append_assoc,
      List.getElem?_append_right (by simp [hcount])]
    simp [hcount]

end Mockup.Text
