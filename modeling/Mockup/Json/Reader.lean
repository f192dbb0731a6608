import Mockup.Json.NumberText
import Mockup.Json.StringText

/-!
# Reading JSON

From text to value. The reader goes on past flaws and stops at the first break, which it leaves in
the value.
-/

namespace Mockup.Json

def isSpace (c : Char) : Bool :=
  c = ' ' || c = '\n' || c = '\t' || c = '\r'

def skipSpaces (cs : List Char) : List Char :=
  cs.dropWhile isSpace

/-- Lists and objects that may be open at once. -/
def maxDepth : Nat := 127

/-- The value with a mark when it stands deeper than values may. -/
def markDepth (depth : Nat) (v : Value) : Value :=
  if maxDepth ≤ depth then .flawed .depth v else v

/-- A word such as `null`, after its first letter. -/
def readWord (v : Value) : List Char → List Char → Value × List Char
  | [], rest => (v, rest)
  | _ :: _, [] => (.broken .endedInWord, [])
  | w :: ws, c :: rest => if c = w then readWord v ws rest else (.broken .malformed, [])

def readNumber (cs : List Char) : Value × List Char :=
  match scanNumber cs with
  | .ok (t, rest) =>
    match t.value? with
    | some n => (.number n, rest)
    | none => (.flawed .scalar .null, rest)
  | .error cause => (.broken cause, [])

def readString (cs : List Char) : Value × List Char :=
  match scanString cs with
  | .read (some s) rest => (.string s, rest)
  | .read none rest => (.flawed .scalar .null, rest)
  | .cut cause => (.broken cause, [])

inductive Next where
  | closed (rest : List Char)
  | element (text : List Char)
  | cut (cause : Break)

def nextElement (closing : Char) (first : Bool) (cs : List Char) : Next :=
  match skipSpaces cs with
  | [] => .cut .endedInList
  | c :: rest =>
    if c = closing then .closed rest
    else if first then .element (c :: rest)
    else if c = ',' then
      match skipSpaces rest with
      | [] => .cut .ended
      | d :: rest => if d = closing then .cut .malformed else .element (d :: rest)
    else .cut .malformed

/-- The member left by a break where its name is due. -/
def nameless (cause : Break) : String × Value :=
  ("", .flawed .nameless (.broken cause))

/-- The name of a member and the text after its colon, or the member that a break makes of it. -/
def readName (cs : List Char) : Except (String × Value) (Option String × List Char) :=
  match cs with
  | '"' :: rest =>
    match scanString rest with
    | .cut cause => .error (nameless cause)
    | .read name rest =>
      match skipSpaces rest with
      | ':' :: rest => .ok (name, rest)
      | rest =>
        let broken := .broken (if rest = [] then .ended else .malformed)
        .error (match name with
          | some name => (name, broken)
          | none => ("", .flawed .name broken))
  | _ => .error (nameless .malformed)

mutual

/-- The value at the start of a text, with `depth` lists and objects open around it. Every second
step consumes text, so fuel of twice the text's length suffices. -/
def readValue (fuel : Nat) (depth : Nat) (cs : List Char) : Value × List Char :=
  match fuel with
  | 0 => (.broken .ended, [])
  | fuel + 1 =>
    match skipSpaces cs with
    | [] => (.broken .ended, [])
    | 'n' :: rest => readWord .null ['u', 'l', 'l'] rest
    | 't' :: rest => readWord (.bool true) ['r', 'u', 'e'] rest
    | 'f' :: rest => readWord (.bool false) ['a', 'l', 's', 'e'] rest
    | '"' :: rest => readString rest
    | '[' :: rest =>
      let (items, rest) := readItems fuel (depth + 1) true rest
      (markDepth depth (.array items), rest)
    | '\x7b' :: rest =>
      let (members, rest) := readMembers fuel (depth + 1) true rest
      (markDepth depth (.object members), rest)
    | c :: rest =>
      if c = '-' ∨ c.isDigit then readNumber (c :: rest) else (.broken .malformed, [])

/-- The items up to the closing bracket; `first` when none was read yet. -/
def readItems (fuel : Nat) (depth : Nat) (first : Bool) (cs : List Char) :
    List Value × List Char :=
  match fuel with
  | 0 => ([.broken .ended], [])
  | fuel + 1 =>
    match nextElement ']' first cs with
    | .closed rest => ([], rest)
    | .cut cause => ([.broken cause], [])
    | .element cs =>
      let (v, rest) := readValue fuel depth cs
      let (items, rest) := readItems fuel depth false rest
      (v :: items, rest)

/-- The members up to the closing brace; `first` when none was read yet. -/
def readMembers (fuel : Nat) (depth : Nat) (first : Bool) (cs : List Char) :
    List (String × Value) × List Char :=
  match fuel with
  | 0 => ([nameless .ended], [])
  | fuel + 1 =>
    match nextElement '\x7d' first cs with
    | .closed rest => ([], rest)
    | .cut cause => ([nameless cause], [])
    | .element cs =>
      match readName cs with
      | .error member => ([member], [])
      | .ok (name, cs) =>
        let (v, rest) := readValue fuel depth cs
        let (members, rest) := readMembers fuel depth false rest
        (match name with
          | some name => (name, v) :: members
          | none => ("", .flawed .name v) :: members, rest)

end

/-- A text read as JSON: its value, and whether something follows it. -/
structure Reading where
  value : Value
  hasMore : Bool

def read (text : String) : Reading :=
  let cs := text.toList
  let (value, rest) := readValue (2 * cs.length + 2) 0 cs
  ⟨value, skipSpaces rest ≠ []⟩

end Mockup.Json
