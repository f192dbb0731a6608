import Mockup.Text.Blank
import Mockup.Text.Case
import Mockup.Text.Digit

/-!
# Token names

Names of shared styles and variables become identifiers of the design system.
-/

namespace Mockup.Style

open Text (isBlank isDigit)

/-- Blanks, hyphens and slashes become points, parentheses vanish. -/
def styleTokenChar (c : Char) : List Char :=
  if isBlank c || c = '-' || c = '/' then ['.']
  else if c = '(' || c = ')' then []
  else [c]

def styleToken (name family : String) : String :=
  family ++ ".token." ++ String.ofList ((Text.lowercase name).toList.flatMap styleTokenChar)

/-- A segment of a text style name without blanks: the first in lower case, the others with a
capital. -/
def typographySegment (isFirst : Bool) (segment : List Char) : List Char :=
  let compact := segment.filter (!isBlank ·)
  if isFirst then Text.lowerFrom [] compact else Text.capitalize compact

def typographyName (name : String) : String :=
  match name.toList.splitOn '/' with
  | [] => ""
  | first :: others =>
    String.ofList (typographySegment true first ++ others.flatMap (typographySegment false))

def lastSegment (cs : List Char) : List Char :=
  ((cs.splitOn '/').getLast?).getD []

def isWordBreak (c : Char) : Bool :=
  c = '-' || isBlank c

/-- Joins the words between runs of hyphens and blanks: the runs vanish, what follows one is put
into upper case. `afterBreak` tells that a run was just left. -/
def joinWords (afterBreak : Bool) : List Char → List Char
  | [] => []
  | c :: rest =>
    if isWordBreak c then joinWords true rest
    else (if afterBreak then Text.upperChar c else [c]) ++ joinWords false rest

def spanDigits? (cs : List Char) : Option (List Char × List Char) :=
  match cs.span isDigit with
  | ([], _) => none
  | parts => some parts

/-- Two numbers with a comma between them and a closing parenthesis behind, as their digits, and
what follows. -/
def pairInParens? (cs : List Char) : Option (List Char × List Char) :=
  match spanDigits? cs with
  | some (first, ',' :: rest) =>
    match spanDigits? rest with
    | some (second, ')' :: rest) => some (first ++ second, rest)
    | _ => none
  | _ => none

/-- A number with a closing parenthesis behind, as its digits, and what follows. -/
def numberInParens? (cs : List Char) : Option (List Char × List Char) :=
  match spanDigits? cs with
  | some (digits, ')' :: rest) => some (digits, rest)
  | _ => none

/-- Replaces what a matcher finds behind an opening parenthesis, parenthesis included. A match is
shorter than what it stands for, so fuel of the text's length suffices. -/
def unwrap (found? : List Char → Option (List Char × List Char)) :
    Nat → List Char → List Char
  | 0, cs => cs
  | _ + 1, [] => []
  | fuel + 1, c :: rest =>
    match (if c = '(' then found? rest else none) with
    | some (digits, rest) => digits ++ unwrap found? fuel rest
    | none => c :: unwrap found? fuel rest

def unwrapAll (found? : List Char → Option (List Char × List Char)) (cs : List Char) : List Char :=
  unwrap found? cs.length cs

/-- The colour identifier for a variable name: the last segment with its words joined, its
parenthesised numbers unwrapped and its first letter in lower case. -/
def variableToken (name : String) : String :=
  let joined := joinWords false (lastSegment name.toList)
  String.ofList (Text.decapitalize (unwrapAll numberInParens? (unwrapAll pairInParens? joined)))

end Mockup.Style
