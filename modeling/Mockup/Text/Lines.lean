import Mockup.Text.Blank

/-!
# Lines

Splitting a text into lines and indenting them.
-/

namespace Mockup.Text

/-- A line without the carriage return that belongs to its line break. -/
def dropReturn (line : List Char) : List Char :=
  if line.getLast? = some '\r' then line.dropLast else line

/-- The lines of a text. A line break ends a line, so a text that ends with one has no empty last
line; `\r\n` is one break, and a `\r` elsewhere is text. -/
def lines (cs : List Char) : List (List Char) :=
  let parts := cs.splitOn '\n'
  parts.dropLast.map dropReturn ++ parts.getLast?.toList.filter (· ≠ [])

def isBlankLine (line : List Char) : Bool :=
  line.all isBlank

/-- A line moved right; a blank one becomes empty. -/
def indentLine (width : Nat) (line : List Char) : List Char :=
  if isBlankLine line then [] else List.replicate width ' ' ++ line

def joinLines (ls : List (List Char)) : List Char :=
  ['\n'].intercalate ls

def indent (width : Nat) (s : String) : String :=
  String.ofList (joinLines ((lines s.toList).map (indentLine width)))

end Mockup.Text
