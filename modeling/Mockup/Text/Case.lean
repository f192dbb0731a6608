import Mockup.Text.CaseTable
import Mockup.Text.CasedTable

/-!
# Letter case

Upper and lower case of single characters, and the lower case of a text, in which a capital sigma
that ends a word has a form of its own.
-/

namespace Mockup.Text

/-- The image of a character under a case mapping: its expansion, else the shift of its run, else
the character itself. -/
def mapCase (expansions : List (Nat × List Nat)) (runs : List CaseRun) (c : Char) : List Char :=
  match expansions.lookup c.toNat with
  | some codes => codes.map Char.ofNat
  | none => [((runs.findSome? (·.image? c.toNat)).map Char.ofNat).getD c]

def lowerChar (c : Char) : List Char :=
  if c.toNat < 128 then [c.toLower] else mapCase lowerExpansions lowerRuns c

def upperChar (c : Char) : List Char :=
  if c.toNat < 128 then [c.toUpper] else mapCase upperExpansions upperRuns c

def isCased (c : Char) : Bool :=
  inRanges casedRanges c

def isCaseIgnorable (c : Char) : Bool :=
  inRanges caseIgnorableRanges c

/-- Whether the first character that is not case-ignorable is cased. -/
def casedPast (cs : List Char) : Bool :=
  (cs.dropWhile isCaseIgnorable).head?.any isCased

/-- Lower case of the rest of a text; `before` is what precedes it, last character first.
A capital sigma after a cased letter and before none becomes a final sigma. -/
def lowerFrom (before : List Char) : List Char → List Char
  | [] => []
  | c :: rest =>
    let image :=
      if c = 'Σ' then [if casedPast before && !casedPast rest then 'ς' else 'σ'] else lowerChar c
    image ++ lowerFrom (c :: before) rest

def lowercase (s : String) : String :=
  String.ofList (lowerFrom [] s.toList)

def capitalize : List Char → List Char
  | [] => []
  | c :: rest => upperChar c ++ rest

def decapitalize : List Char → List Char
  | [] => []
  | c :: rest => lowerChar c ++ rest

end Mockup.Text
