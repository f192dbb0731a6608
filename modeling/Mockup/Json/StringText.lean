import Mockup.Json.Value

/-!
# JSON strings

A string is scanned into units, then the units are joined into text. A `\u` escape is a UTF-16
unit: two of them may be the halves of one character, and a half alone has no text.
-/

namespace Mockup.Json

inductive Unit16 where
  | char (c : Char)
  /-- The first half of a surrogate pair, less `0xD800`. -/
  | high (bits : Nat)
  /-- The second half of a surrogate pair, less `0xDC00`. -/
  | low (bits : Nat)

def hexDigit? (c : Char) : Option Nat :=
  if c.isDigit then some (c.toNat - '0'.toNat)
  else if 'a' ≤ c ∧ c ≤ 'f' then some (c.toNat - 'a'.toNat + 10)
  else if 'A' ≤ c ∧ c ≤ 'F' then some (c.toNat - 'A'.toNat + 10)
  else none

def hexValue? (cs : List Char) : Option Nat :=
  cs.foldlM (fun n c => (hexDigit? c).map (16 * n + ·)) 0

def Unit16.ofCode (code : Nat) : Unit16 :=
  if 0xD800 ≤ code ∧ code < 0xDC00 then .high (code - 0xD800)
  else if 0xDC00 ≤ code ∧ code < 0xE000 then .low (code - 0xDC00)
  else .char (Char.ofNat code)

def unescape? : Char → Option Char
  | '"' => some '"'
  | '\\' => some '\\'
  | '/' => some '/'
  | 'b' => some '\x08'
  | 'f' => some '\x0c'
  | 'n' => some '\n'
  | 'r' => some '\r'
  | 't' => some '\t'
  | _ => none

/-- How a string goes on: to its closing quote with the text behind it, or to a break. -/
inductive StringEnd where
  | closed (rest : List Char)
  | cut (cause : Break)

/-- A `\u` escape that is not four hexadecimal digits: the text ends in it when fewer than four
bytes are left. -/
def badHex (cs : List Char) : Break :=
  if (String.ofList (cs.take 4)).utf8ByteSize < 4 then .ended else .malformed

def scanUnits : List Char → List Unit16 × StringEnd
  | [] => ([], .cut .ended)
  | '"' :: rest => ([], .closed rest)
  | ['\\'] => ([], .cut .ended)
  | '\\' :: 'u' :: a :: b :: c :: d :: rest =>
    match hexValue? [a, b, c, d] with
    | some code =>
      let (units, stop) := scanUnits rest
      (.ofCode code :: units, stop)
    | none => ([], .cut (badHex [a, b, c, d]))
  | '\\' :: 'u' :: rest => ([], .cut (badHex rest))
  | '\\' :: e :: rest =>
    match unescape? e with
    | some c =>
      let (units, stop) := scanUnits rest
      (.char c :: units, stop)
    | none => ([], .cut .malformed)
  | c :: rest =>
    if c.toNat < 0x20 then ([], .cut .malformed)
    else
      let (units, stop) := scanUnits rest
      (.char c :: units, stop)

/-- The text of units in which every half has its other half. -/
def joinUnits? : List Unit16 → Option (List Char)
  | [] => some []
  | .char c :: rest => (joinUnits? rest).map (c :: ·)
  | .high h :: .low l :: rest =>
    (joinUnits? rest).map (Char.ofNat (0x10000 + h * 0x400 + l) :: ·)
  | _ :: _ => none

/-- Whether units that the text breaks off after hold a half without its other half; a first half
at the very end may still get it. -/
def hasLoneHalf (units : List Unit16) : Bool :=
  match units.getLast? with
  | some (.high _) => (joinUnits? units.dropLast).isNone
  | _ => (joinUnits? units).isNone

/-- A scanned string: its text and the rest, none for the text when it has half a pair. -/
inductive StringScan where
  | read (text : Option String) (rest : List Char)
  | cut (cause : Break)

def scanString (cs : List Char) : StringScan :=
  match scanUnits cs with
  | (units, .closed rest) => .read ((joinUnits? units).map String.ofList) rest
  | (units, .cut cause) =>
    .cut (if cause = .ended ∧ hasLoneHalf units then .endedAfterHalfPair else cause)

end Mockup.Json
