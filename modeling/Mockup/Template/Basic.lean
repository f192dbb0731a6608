import Mockup.Json.Value

/-!
# Templates

A template is text with places to fill in from JSON data.
-/

namespace Mockup

namespace Template

inductive Operand where
  | literal (value : Json.Value)
  /-- What the names lead to in the data, from the outside in; no names lead to all of it. -/
  | path (names : List String)

def Operand.member (name : String) : Operand :=
  .path [name]

/-- A helper with what it is given: operands by position and by name. -/
structure Call where
  helper : String
  operands : List Operand
  named : List (String × Operand) := []

inductive Part where
  | text (text : String)
  | insert (operand : Operand)
  | call (call : Call)
  /-- A helper decides between the parts under it and those to take otherwise. -/
  | block (call : Call) (body otherwise : List Part)

inductive Fault where
  | malformed
  | unknownTemplate (name : String)
  | unknownHelper (name : String)
  | missingOperand (helper : String)
  /-- A helper was given a value that it has no use for. -/
  | wrongOperand (helper : String)
  /-- A name that is no position was looked up in a list. -/
  | noPosition (name : String)
deriving DecidableEq, Repr

end Template

abbrev Template := List Template.Part

end Mockup
