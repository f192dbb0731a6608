import Mockup.Json.Value
import Mockup.Decimal.Positional

/-!
# Writing JSON

Compact text, and text laid out with one item or member per line.
-/

namespace Mockup.Json

/-- How a character stands in a string: quotes, backslashes and control characters are escaped. -/
def escapeChar (c : Char) : List Char :=
  match c with
  | '"' => ['\\', '"']
  | '\\' => ['\\', '\\']
  | '\x08' => ['\\', 'b']
  | '\x0c' => ['\\', 'f']
  | '\n' => ['\\', 'n']
  | '\r' => ['\\', 'r']
  | '\t' => ['\\', 't']
  | c =>
    if c.toNat < 0x20 then
      ['\\', 'u', '0', '0', Nat.digitChar (c.toNat / 16), Nat.digitChar (c.toNat % 16)]
    else
      [c]

def stringText (s : String) : String :=
  "\"" ++ String.ofList (s.toList.flatMap escapeChar) ++ "\""

/-- The digits of a decimal with a point behind the first, and its power of ten with a sign. -/
def scientific (d : Decimal.Scaled) : String :=
  let digits := (toString d.digits).toList
  let power := d.exponent + digits.length - 1
  String.ofList (digits.take 1) ++
    (if digits.length = 1 then "" else "." ++ String.ofList (digits.drop 1)) ++
    (if 0 ≤ power then "e+" else "e-") ++ toString power.natAbs

/-- A float keeps a point or an exponent, so that it is told from an integer. Numbers from `1e-5`
up to `1e16` are written without exponent. What is no number is `null`. -/
def floatText (x : Float) : String :=
  let sign := if Decimal.isNegative x then "-" else ""
  match Decimal.magnitude x with
  | .finite 0 _ => sign ++ "0.0"
  | .finite m e =>
    let d := Decimal.shortest .even m e
    let places := d.exponent + (toString d.digits).length
    if -5 < places ∧ places ≤ 16 then
      sign ++ d.positional ++ (if 0 ≤ d.exponent then ".0" else "")
    else
      sign ++ scientific d
  | _ => "null"

def Number.text : Number → String
  | .int i => toString i
  | .float x => floatText x

mutual

def Value.compact : Value → String
  | .null => "null"
  | .bool b => if b then "true" else "false"
  | .number n => n.text
  | .string s => stringText s
  | .array items => "[" ++ ",".intercalate (compactItems items) ++ "]"
  | .object members => "\x7b" ++ ",".intercalate (compactMembers members) ++ "\x7d"
  | .flawed _ passed => passed.compact
  | .broken _ => ""

def compactItems : List Value → List String
  | [] => []
  | v :: rest => v.compact :: compactItems rest

def compactMembers : List (String × Value) → List String
  | [] => []
  | (name, v) :: rest => (stringText name ++ ":" ++ v.compact) :: compactMembers rest

end

def lineStart (level : Nat) : String :=
  "\n" ++ String.ofList (List.replicate (2 * level) ' ')

/-- Parts between brackets, each on a line of its own; nothing between them when there are none. -/
def bracketed (level : Nat) (opening closing : String) (parts : List String) : String :=
  if parts = [] then opening ++ closing
  else
    opening ++ lineStart (level + 1) ++ ("," ++ lineStart (level + 1)).intercalate parts ++
      lineStart level ++ closing

mutual

def Value.pretty (level : Nat) : Value → String
  | .array items => bracketed level "[" "]" (prettyItems (level + 1) items)
  | .object members => bracketed level "\x7b" "\x7d" (prettyMembers (level + 1) members)
  | .flawed _ passed => passed.pretty level
  | v => v.compact

def prettyItems (level : Nat) : List Value → List String
  | [] => []
  | v :: rest => v.pretty level :: prettyItems level rest

def prettyMembers (level : Nat) : List (String × Value) → List String
  | [] => []
  | (name, v) :: rest => (stringText name ++ ": " ++ v.pretty level) :: prettyMembers level rest

end

end Mockup.Json
