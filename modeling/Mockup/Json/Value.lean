/-!
# JSON values

The value that a JSON text denotes. A text that stops being JSON somewhere still denotes the value
read so far, with the break at its place, so that whoever decodes the value meets the first
problem of the text first.
-/

namespace Mockup.Json

/-- Integers keep their kind: `1` and `1.0` are told apart. -/
inductive Number where
  | int (value : Int)
  | float (value : Float)

inductive Break where
  | malformed
  | ended
  /-- The text ends inside `null`, `true` or `false`. -/
  | endedInWord
  /-- The text ends where a digit is due. -/
  | endedInNumber
  /-- The text ends inside a string that already holds half of a surrogate pair. -/
  | endedAfterHalfPair
  /-- The text ends where a comma or the end of a list is due. -/
  | endedInList
deriving DecidableEq, Repr

/-- Why well-delimited text denotes no value. -/
inductive Flaw where
  /-- A number beyond every float, or a string with half of a surrogate pair. -/
  | scalar
  | name
  | nameless
  | depth
deriving DecidableEq, Repr

inductive Value where
  | null
  | bool (value : Bool)
  | number (value : Number)
  | string (value : String)
  | array (items : List Value)
  /-- Members in the order of the text, repeated names included. -/
  | object (members : List (String × Value))
  /-- Text without a value, which reads as `passed` where values are passed over. -/
  | flawed (flaw : Flaw) (passed : Value)
  | broken (cause : Break)

end Mockup.Json
