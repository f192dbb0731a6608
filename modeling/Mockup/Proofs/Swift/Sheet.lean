import Mockup.Proofs.Swift.Brackets
import Mockup.Proofs.Text.Lines
import Mockup.View.Fragment

/-!
# Sheets of source text

Texts made of visible lines, and what they do to the brackets that are awaited. Where a text holds
names that may be anything, its brackets are right as long as the names are `safe`.
-/

namespace Mockup.Swift

open Text (OneLine Shows Tidy)

/-- Part of a line. -/
structure Piece (safe : Prop) (before : List Char) (text : String) (after : List Char) : Prop where
  oneLine : OneLine text.toList
  scans : safe → Scans before text.toList after

/-- A line of which something can be seen. -/
structure Line (safe : Prop) (before : List Char) (text : String) (after : List Char) : Prop
    extends Piece safe before text after where
  shows : Shows text.toList

/-- Visible lines. They are scanned to the end of the last one, which may be a comment. -/
structure Sheet (safe : Prop) (before : List Char) (text : String) (after : List Char) :
    Prop where
  tidy : Tidy text
  scans : safe → Scans before (text.toList ++ ['\n']) after

/-- What a fixed text has to be for a line. -/
def Fixed (before text after : List Char) : Prop :=
  OneLine text ∧ Shows text ∧ Scans before text after

instance (before text after : List Char) : Decidable (Fixed before text after) :=
  inferInstanceAs (Decidable (_ ∧ _ ∧ _))

section

variable {safe : Prop} {a b c awaited : List Char} {text front inner rear : String}

theorem Fixed.line (h : Fixed a text.toList b) : Line safe a text b :=
  ⟨⟨h.1, fun _ => h.2.2⟩, h.2.1⟩

private theorem Piece.outer (h : Piece safe a text b) (outer : List Char) :
    Piece safe (a ++ outer) text (b ++ outer) :=
  ⟨h.oneLine, fun hsafe => (h.scans hsafe).outer outer⟩

theorem Piece.append (h : Piece safe a front b) (hrear : Piece safe b rear c) :
    Piece safe a (front ++ rear) c := by
  constructor
  · rw [String.toList_append]
    exact Text.oneLine_append.2 ⟨h.oneLine, hrear.oneLine⟩
  · intro hsafe
    rw [String.toList_append]
    exact (h.scans hsafe).append (hrear.scans hsafe)

theorem Line.append (h : Line safe a front b) (hrear : Piece safe b rear c) :
    Line safe a (front ++ rear) c where
  toPiece := h.toPiece.append hrear
  shows := by
    rw [String.toList_append]
    exact h.shows.append _

theorem line_behind (hf : Fixed [] front.toList awaited) (hi : Piece safe [] inner []) :
    Line safe [] (front ++ inner) awaited :=
  hf.line.append (hi.outer awaited)

theorem line_between (hf : Fixed [] front.toList awaited) (hi : Piece safe [] inner [])
    (hr : Fixed awaited rear.toList b) : Line safe [] (front ++ inner ++ rear) b :=
  (line_behind hf hi).append hr.line.toPiece

theorem piece_plain {text : String}
    (h : ∀ c ∈ text.toList, c ≠ '"' ∧ c ≠ '/' ∧ isNeutral c = true)
    (hline : OneLine text.toList) : Piece safe a text a :=
  ⟨hline, fun _ => scans_plain h⟩

theorem Line.sheet (h : Line safe a text b) : Sheet safe a text b where
  tidy := Text.tidy_of_oneLine h.oneLine h.shows
  scans hsafe := by
    have hfeed : Scans [] ['\n'] [] := by decide
    exact (h.scans hsafe).append (hfeed.outer b)

private theorem Sheet.outer (h : Sheet safe a text b) (outer : List Char) :
    Sheet safe (a ++ outer) text (b ++ outer) :=
  ⟨h.tidy, fun hsafe => (h.scans hsafe).outer outer⟩

theorem Sheet.under (h : Sheet safe a front b) (hrear : Sheet safe b rear c) :
    Sheet safe a (front ++ "\n" ++ rear) c where
  tidy := Text.tidy_under h.tidy hrear.tidy
  scans hsafe := by
    have htext : (front ++ "\n" ++ rear).toList ++ ['\n'] =
        (front.toList ++ ['\n']) ++ (rear.toList ++ ['\n']) := by
      simp
    rw [htext]
    exact (h.scans hsafe).append (hrear.scans hsafe)

theorem Sheet.indent (h : Sheet safe a text b) (width : Nat) :
    Sheet safe a (Text.indent width text) b :=
  ⟨Text.tidy_indent h.tidy width, fun hsafe => (h.scans hsafe).indent width⟩

theorem sheet_intercalate {texts : List String} (hne : texts ≠ [])
    (h : ∀ t ∈ texts, Sheet safe [] t []) : Sheet safe [] ("\n".intercalate texts) [] := by
  induction texts with
  | nil => contradiction
  | cons t texts ih =>
    have ht := h t List.mem_cons_self
    cases texts with
    | nil => simpa using ht
    | cons u texts =>
      rw [String.intercalate_cons_cons]
      exact ht.under (ih (by simp) fun u hu => h u (List.mem_cons_of_mem t hu))

theorem sheet_arguments {texts : List String} (hne : texts ≠ [])
    (h : ∀ t ∈ texts, Line safe [] t []) : Sheet safe [] (",\n".intercalate texts) [] := by
  have hcomma : Fixed [] ",".toList [] := by decide
  have hseparator : ",\n" = "," ++ "\n" := rfl
  induction texts with
  | nil => contradiction
  | cons t texts ih =>
    have ht := h t List.mem_cons_self
    cases texts with
    | nil => simpa using ht.sheet
    | cons u texts =>
      have hrest := ih (by simp) fun u hu => h u (List.mem_cons_of_mem t hu)
      have hall := (ht.append hcomma.line.toPiece).sheet.under hrest
      rw [String.intercalate_cons_cons]
      simp only [hseparator, String.append_assoc] at hall ⊢
      exact hall

theorem sheet_enclosed {w : Nat} (hf : Sheet safe a front awaited) (hi : Sheet safe [] inner [])
    (hr : Sheet safe awaited rear b) :
    Sheet safe a (front ++ "\n" ++ Text.indent w inner ++ "\n" ++ rear) b :=
  (hf.under ((hi.indent w).outer awaited)).under hr

theorem block_eq (opener : String) (parts : List String) : Fragment.block opener parts =
    if parts.filter (· ≠ "") = [] then opener ++ " \x7b" ++ "\n" ++ "\x7d"
    else opener ++ " \x7b" ++ "\n" ++
      Text.indent Fragment.indentWidth ("\n".intercalate (parts.filter (· ≠ ""))) ++ "\n" ++
        "\x7d" := by
  rw [Fragment.block]
  split <;>
  · rw [← String.toList_inj]
    simp

theorem sheet_block {opener : String} {parts : List String}
    (hopener : Sheet safe [] (opener ++ " \x7b") ['\x7d'])
    (hparts : ∀ t ∈ parts, t ≠ "" → Sheet safe [] t []) :
    Sheet safe [] (Fragment.block opener parts) [] := by
  have hclose : Fixed ['\x7d'] "\x7d".toList [] := by decide
  rw [block_eq]
  split
  · exact hopener.under hclose.line.sheet
  · next hfilled =>
    have hinner := sheet_intercalate hfilled fun t ht => by
      obtain ⟨hmem, hne⟩ := List.mem_filter.1 ht
      exact hparts t hmem (by simpa using hne)
    exact sheet_enclosed hopener hinner hclose.line.sheet

/-- A call, with what follows its closing parenthesis. -/
theorem sheet_call {callee tail : String} {arguments : List String} (hne : arguments ≠ [])
    (hcallee : Fixed [] (callee ++ "(").toList awaited)
    (harguments : ∀ t ∈ arguments, Line safe [] t [])
    (htail : Sheet safe awaited (")" ++ tail) b) :
    Sheet safe [] (Fragment.call callee arguments ++ tail) b := by
  have hsplit (inner : String) : callee ++ "(\n" ++ inner ++ "\n)" ++ tail =
      callee ++ "(" ++ "\n" ++ inner ++ "\n" ++ (")" ++ tail) := by
    rw [← String.toList_inj]
    simp
  rw [Fragment.call, hsplit]
  exact sheet_enclosed hcallee.line.sheet (sheet_arguments hne harguments) htail

end

end Mockup.Swift
