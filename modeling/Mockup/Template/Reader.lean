import Mockup.Template.Tag
import Mockup.Text.Blank

/-!
# Reading templates

Text and the tags in it. A mark that stands alone on its line takes the line with it.
-/

namespace Mockup.Template

/-- A template as its tags, each with the text before it, and the text after the last. -/
structure Scanned where
  tags : List (List Char × Tag)
  rest : List Char

/-- Braces behind a single backslash are text, without the backslash: the text and what follows. -/
def bracesAsText? : List Char → Option (List Char × List Char)
  | '\\' :: '\x7b' :: '\x7b' :: '\x7b' :: '\x7b' :: rest =>
    some (['\x7b', '\x7b', '\x7b', '\x7b'], rest)
  | '\\' :: '\x7b' :: '\x7b' :: rest => some (['\x7b', '\x7b'], rest)
  | _ => none

/-- Backslashes in front of a tag are text, one of them less: the text and what follows. -/
def slashesAsText? (cs : List Char) : Option (List Char × List Char) :=
  match cs.span (· = '\\') with
  | (_ :: _ :: slashes, '\x7b' :: '\x7b' :: rest) =>
    some ('\\' :: slashes, '\x7b' :: '\x7b' :: rest)
  | _ => none

/-- Finds the tags; `text` is what came since the last one, reversed. Every step passes a
character, so fuel of the text's length suffices. -/
def scan (text : List Char) : Nat → List Char → Option Scanned
  | _, [] => some ⟨[], text.reverse⟩
  | 0, _ => none
  | fuel + 1, c :: cs =>
    match bracesAsText? (c :: cs) <|> slashesAsText? (c :: cs), c, cs with
    | some (literal, rest), _, _ => scan (literal.reverse ++ text) fuel rest
    | none, '\x7b', '\x7b' :: cs => do
      let (tag, rest) ← tag? cs
      let scanned ← scan [] fuel rest
      return { scanned with tags := (text.reverse, tag) :: scanned.tags }
    | none, c, cs => scan (c :: text) fuel cs

/-- Whether the text before a tag leaves the line of the tag empty. -/
def endsBlank (isFirst : Bool) (text : List Char) : Bool :=
  match (text.reverse.dropWhile isLineBlank).head? with
  | none => isFirst
  | some c => isLineEnd c

/-- Whether the text behind a tag goes on with the end of the line. -/
def startsBlank (text : List Char) : Bool :=
  (text.dropWhile isLineBlank).head?.any isLineEnd

def dropEnd (test : Char → Bool) (text : List Char) : List Char :=
  (text.reverse.dropWhile test).reverse

/-- The text without the rest of a line that holds nothing. -/
def dropLineStart (text : List Char) : List Char :=
  match text.dropWhile isLineBlank with
  | '\r' :: '\n' :: rest => rest
  | '\n' :: rest => rest
  | rest => rest

structure Wake where
  ofLine : Bool := false
  trims : Bool := false

def Wake.tidy (wake : Wake) (text : List Char) : List Char :=
  if wake.trims then text.dropWhile Text.isBlank
  else if wake.ofLine then dropLineStart text
  else text

/-- Takes the lines of lonely marks and trimmed blanks out of the texts. `isFirst` tells that no
tag came before. -/
def tidy (isFirst : Bool) (wake : Wake) : List (List Char × Tag) → List Char → Scanned
  | [], last => ⟨[], wake.tidy last⟩
  | (text, tag) :: rest, last =>
    let next := match rest with
      | (text, _) :: _ => text
      | [] => last
    let lonely := tag.action.isMark && endsBlank isFirst text && startsBlank next
    let start := wake.tidy text
    let start := if tag.trimsBefore then dropEnd Text.isBlank start else start
    let start := if lonely then dropEnd isLineBlank start else start
    let scanned := tidy false ⟨lonely, tag.trimsAfter⟩ rest last
    { scanned with tags := (start, tag) :: scanned.tags }

/-- A block that is not closed yet, with the parts before it, reversed. -/
structure OpenBlock where
  helper : String
  before : List Part
  /-- What decides about the branch that is being read; none for the last resort. -/
  current : Option Call
  /-- The branches read before, the latest first. -/
  branches : List (Call × List Part) := []

/-- Goes on to the next branch; nothing follows the last resort. -/
def OpenBlock.part? (block : OpenBlock) (body : List Part) (next : Option Call) :
    Option OpenBlock :=
  block.current.map fun call =>
    { block with current := next, branches := (call, body) :: block.branches }

/-- The block as parts: every branch stands under those before it. -/
def OpenBlock.close (block : OpenBlock) (body : List Part) : List Part :=
  let stack (otherwise : List Part) (branch : Call × List Part) : List Part :=
    [.block branch.1 branch.2 otherwise]
  match block.current with
  | some call => ((call, body) :: block.branches).foldl stack []
  | none => block.branches.foldl stack body

/-- The parts of a template; `reversed` are those since the last mark of the innermost open
block. -/
def assemble (opened : List OpenBlock) (reversed : List Part) (last : List Char) :
    List (List Char × Tag) → Option Template
  | [] => if opened.isEmpty then some (.text (String.ofList last) :: reversed).reverse else none
  | (text, tag) :: rest =>
    let reversed := .text (String.ofList text) :: reversed
    match tag.action, opened with
    | .comment, opened => assemble opened reversed last rest
    | .insert operand, opened => assemble opened (.insert operand :: reversed) last rest
    | .call call, opened => assemble opened (.call call :: reversed) last rest
    | .opening call, opened =>
      assemble (⟨call.helper, reversed, some call, []⟩ :: opened) [] last rest
    | .otherwise next, block :: opened => do
      assemble ((← block.part? reversed.reverse next) :: opened) [] last rest
    | .closing helper, block :: opened =>
      if helper = block.helper then
        assemble opened (block.close reversed.reverse ++ block.before) last rest
      else none
    | _, [] => none

def ofText? (s : String) : Option Template := do
  let scanned ← scan [] s.length s.toList
  let tidied := tidy true {} scanned.tags scanned.rest
  assemble [] [] tidied.rest tidied.tags

end Mockup.Template
