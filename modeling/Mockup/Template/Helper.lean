import Mockup.Decimal.Binary
import Mockup.Json.Writer
import Mockup.Template.Basic
import Mockup.Text.Lines

/-!
# Helpers

What a helper makes of the values it is given: a text, or a decision about a block.
-/

namespace Mockup.Template

open Json (Value)

inductive Comparison where
  | less
  | atMost
  | greater
  | atLeast
deriving DecidableEq, Repr

inductive Helper where
  | indent
  | keepIf
  | keepUnless
  | keep
  | log
  | item
  | size
  | equal
  | unequal
  | compare (comparison : Comparison)
  | both
  | either
  | negation
deriving DecidableEq, Repr

namespace Helper

def all : List Helper :=
  [indent, keepIf, keepUnless, keep, log, item, size, equal, unequal, compare .less,
    compare .atMost, compare .greater, compare .atLeast, both, either, negation]

def name : Helper → String
  | indent => "indent"
  | keepIf => "if"
  | keepUnless => "unless"
  | keep => "raw"
  | log => "log"
  | item => "lookup"
  | size => "len"
  | equal => "eq"
  | unequal => "ne"
  | compare .less => "lt"
  | compare .atMost => "lte"
  | compare .greater => "gt"
  | compare .atLeast => "gte"
  | both => "and"
  | either => "or"
  | negation => "not"

def ofName? (s : String) : Option Helper :=
  all.find? (·.name == s)

end Helper

/-- Names that are calls even when they stand alone in a tag, so that no member is inserted: those
of the helpers, and two words for blocks that change the data, which no helper stands for. -/
def reservedNames : List String :=
  Helper.all.map Helper.name ++ ["each", "with"]

/-- Whether a number has an exponent of its own: zero, the numbers next to it and what is no
number have none. -/
def isNormal (x : Float) : Bool :=
  0 < Decimal.exponentField x && Decimal.exponentField x < 2047

/-- What is empty, zero or absent does not hold; where `includesZero`, every number does. -/
def holds (includesZero : Bool) : Value → Bool
  | .null => false
  | .bool b => b
  | .number (.int i) => includesZero || i ≠ 0
  | .number (.float x) => includesZero || isNormal x
  | .string s => s ≠ ""
  | .array items => !items.isEmpty
  | .object members => !members.isEmpty
  | .flawed _ _ | .broken _ => false

mutual

def shown : Value → String
  | .null => ""
  | .bool b => if b then "true" else "false"
  | .number n => n.text
  | .string s => s
  | .array items => "[" ++ ", ".intercalate (shownAll items) ++ "]"
  | .object _ => "[object]"
  | .flawed _ _ | .broken _ => ""

def shownAll : List Value → List String
  | [] => []
  | v :: rest => shown v :: shownAll rest

end

def defaultIndent : Nat := 4

/-- The text to move right; what is no text counts as the empty one. -/
def indentText : List Value → String
  | .string s :: _ => s
  | _ => ""

/-- How far to move it; what is no width counts as the default one. -/
def indentWidth : List Value → Nat
  | _ :: .number (.int (.ofNat n)) :: _ => n
  | _ => defaultIndent

mutual

/-- Whether two values are the same, whatever the order of their members. -/
def isSame : Value → Value → Bool
  | .null, .null => true
  | .bool a, .bool b => a == b
  | .number (.int i), .number (.int j) => i == j
  | .number (.float x), .number (.float y) => x == y
  | .string s, .string t => s == t
  | .array items, .array others => areSame items others
  | .object members, .object others =>
    members.length == others.length && membersAreSame others members
  | _, _ => false

def areSame : List Value → List Value → Bool
  | [], [] => true
  | v :: rest, w :: others => isSame v w && areSame rest others
  | _, _ => false

def membersAreSame (others : List (String × Value)) : List (String × Value) → Bool
  | [] => true
  | (name, v) :: rest => (others.lookup name).any (isSame v) && membersAreSame others rest

end

def sizeOfValue : Value → Nat
  | .array items => items.length
  | .object members => members.length
  | .string s => s.utf8ByteSize
  | _ => 0

/-- The item or member of a value at a position or name; `null` when there is none. -/
def itemAt (v key : Value) : Value :=
  match v, key with
  | .array items, .number (.int (.ofNat i)) => items[i]?.getD .null
  | .object members, .string name => (members.lookup name).getD .null
  | _, _ => .null

def Comparison.holds (comparison : Comparison) (i j : Int) : Bool :=
  match comparison with
  | less => i < j
  | atMost => i ≤ j
  | greater => j < i
  | atLeast => j ≤ i

inductive Effect where
  | text (text : String)
  | decision (keeps : Bool)

def isSet (named : List (String × Value)) (name : String) : Bool :=
  match named.lookup name with
  | some (.bool b) => b
  | _ => false

namespace Effect

def value (v : Value) : Effect :=
  text (shown v)

def answer (b : Bool) : Effect :=
  value (.bool b)

end Effect

/-- The effect of a helper on operands by name and by position; those in excess are passed over. -/
def Helper.effect (helper : Helper) (named : List (String × Value)) (values : List Value) :
    Except Fault Effect :=
  match helper, values with
  | indent, values => .ok (.text (Text.indent (indentWidth values) (indentText values)))
  | keep, _ => .ok (.decision true)
  | log, _ => .ok (.text "")
  | keepIf, v :: _ => .ok (.decision (holds (isSet named "includeZero") v))
  | keepUnless, v :: _ => .ok (.decision !holds (isSet named "includeZero") v)
  | size, v :: _ => .ok (.value (.number (.int (sizeOfValue v))))
  | negation, v :: _ => .ok (.answer !holds false v)
  | item, v :: w :: _ => .ok (.value (itemAt v w))
  | equal, v :: w :: _ => .ok (.answer (isSame v w))
  | unequal, v :: w :: _ => .ok (.answer !isSame v w)
  | both, v :: w :: _ => .ok (.answer (holds false v && holds false w))
  | either, v :: w :: _ => .ok (.answer (holds false v || holds false w))
  | compare comparison, .number (.int i) :: .number (.int j) :: _ =>
    .ok (.answer (comparison.holds i j))
  | compare _, _ :: _ :: _ => .error (.wrongOperand helper.name)
  | helper, _ => .error (.missingOperand helper.name)

end Mockup.Template
