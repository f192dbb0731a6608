import Mockup.Proofs.Swift.Scan
import Mockup.Proofs.Text.Quoted
import Mockup.Proofs.Text.Rows

/-!
# Reading string literals

A string literal is read up to its first quote that is not escaped. Reading takes back what quoting
a text has written and nothing of what follows, so quoted texts form a prefix code; and layout
leaves the line of a quoted text as it is.
-/

namespace Mockup.Swift

open Text (OneLine Shows)
open Text.Quoted (encode encodeChars escapeChar)

/-- The character for which an escaped one stands. There is no interpolation. -/
def unescape? : Char → Option Char
  | '"' => some '"'
  | '\\' => some '\\'
  | 'n' => some '\n'
  | 'r' => some '\r'
  | 't' => some '\t'
  | _ => none

/-- The text of a literal from behind its first quote, and what follows the literal. Neither an
unknown escape nor the end of the line may stand in it. -/
def readInside : List Char → Option (List Char × List Char)
  | [] => none
  | '"' :: rest => some ([], rest)
  | '\\' :: rest =>
    match rest with
    | [] => none
    | escaped :: rest => do
      let c ← unescape? escaped
      let (text, rest) ← readInside rest
      return (c :: text, rest)
  | c :: rest =>
    if endsLine c then none
    else do
      let (text, rest) ← readInside rest
      return (c :: text, rest)

/-- The text of the literal with which a source text begins, and what follows the literal. -/
def readLiteral : List Char → Option (List Char × List Char)
  | '"' :: rest => readInside rest
  | _ => none

theorem readInside_escapeChar (c : Char) (cs : List Char) :
    readInside (escapeChar c ++ cs) =
      (readInside cs).bind fun (text, rest) => some (c :: text, rest) := by
  rw [Text.Quoted.escapeChar.eq_def]
  split
  case h_6 hquote hbackslash hfeed hreturn _ =>
    have hends : endsLine c = false := by
      rw [endsLine, decide_eq_false hfeed, decide_eq_false hreturn]
      rfl
    rw [List.singleton_append, readInside, hends]
    · rfl
    · exact hquote
    · exact hbackslash
  all_goals rfl

/-- Reading stops at the quote that ends the quoted text, since every quote before it is
escaped. -/
theorem readInside_flatMap (cs rest : List Char) :
    readInside (cs.flatMap escapeChar ++ '"' :: rest) = some (cs, rest) := by
  induction cs with
  | nil => rfl
  | cons c cs ih =>
    rw [List.flatMap_cons, List.append_assoc, readInside_escapeChar, ih]
    rfl

theorem readLiteral_encode (s : String) (rest : List Char) :
    readLiteral ((encode s).toList ++ rest) = some (s.toList, rest) := by
  have hsplit :
      (encode s).toList ++ rest = '"' :: (s.toList.flatMap escapeChar ++ '"' :: rest) := by
    rw [encode, String.toList_ofList, encodeChars]
    simp
  rw [hsplit, readLiteral, readInside_flatMap]

theorem encode_append_inj {a b rest others : String}
    (h : encode a ++ rest = encode b ++ others) : a = b ∧ rest = others := by
  have hread : readLiteral (encode a ++ rest).toList = readLiteral (encode b ++ others).toList :=
    congrArg (readLiteral ·.toList) h
  rw [String.toList_append, String.toList_append, readLiteral_encode, readLiteral_encode] at hread
  simpa [String.toList_inj] using hread

private theorem shows_encode (s : String) : Shows (encode s).toList := by
  refine ⟨'"', ?_, by decide⟩
  rw [encode, String.toList_ofList]
  exact List.mem_cons_self

/-- A quoted text is read back in front of any other text, and stands on one line, which indentation
moves without a change. -/
theorem readLiteral_encode_on_line (s : String) :
    (∀ rest, readLiteral ((encode s).toList ++ rest) = some (s.toList, rest)) ∧
    OneLine (encode s).toList ∧
    ∀ (width : Nat) (front rear : String), ∃ start finish : List Char,
      start <:+ front.toList ∧ finish <+: rear.toList ∧
      (Text.lines (front ++ encode s ++ rear).toList)[front.toList.count '\n']? =
        some (start ++ (encode s).toList ++ finish) ∧
      (Text.rows (Text.indent width (front ++ encode s ++ rear)))[front.toList.count '\n']? =
        some (Text.shift width (start ++ (encode s).toList ++ finish)) := by
  have hline : OneLine (encode s).toList :=
    ⟨Text.Quoted.notMem_encode (by decide) s, Text.Quoted.notMem_encode (by decide) s⟩
  refine ⟨readLiteral_encode s, hline, fun width front rear => ?_⟩
  obtain ⟨start, finish, hstart, hfinish, hget⟩ :=
    Text.getElem?_lines_between hline (shows_encode s) front.toList rear.toList
  rw [← String.toList_append, ← String.toList_append] at hget
  have hne : Text.lines (front ++ encode s ++ rear).toList ≠ [] :=
    List.ne_nil_of_mem (List.mem_of_getElem? hget)
  have hshows : Shows (start ++ (encode s).toList ++ finish) :=
    ((shows_encode s).behind start).append finish
  refine ⟨start, finish, hstart, hfinish, hget, ?_⟩
  rw [Text.rows_indent hne, List.getElem?_map, hget, Option.map_some,
    Text.indentLine_of_shows hshows]

end Mockup.Swift
