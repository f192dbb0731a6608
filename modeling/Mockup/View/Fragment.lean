import Mockup.Text.Lines

/-!
# Fragments

The two shapes of which the text of a view is built: blocks and calls.
-/

namespace Mockup.Fragment

/-- By how many blanks an inner fragment is moved right. -/
def indentWidth : Nat := 4

/-- An opener with the parts between braces. Empty parts leave no trace. -/
def block (opener : String) (parts : List String) : String :=
  let filled := parts.filter (· ≠ "")
  if filled = [] then opener ++ " \x7b\n\x7d"
  else opener ++ " \x7b\n" ++ Text.indent indentWidth ("\n".intercalate filled) ++ "\n\x7d"

/-- A call with one argument a line. -/
def call (callee : String) (arguments : List String) : String :=
  callee ++ "(\n" ++ Text.indent indentWidth (",\n".intercalate arguments) ++ "\n)"

end Mockup.Fragment
