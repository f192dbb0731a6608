import Mockup.Json.Decode

/-!
# Component properties

What an instance sets of its component.
-/

namespace Mockup

inductive PropertyKind where
  | boolean
  | text
  /-- The value is the id of a component to swap in. -/
  | instanceSwap
  | variant
deriving DecidableEq, Repr

instance : Json.Named PropertyKind where
  all := [.boolean, .text, .instanceSwap, .variant]
  name
    | .boolean => "BOOLEAN"
    | .text => "TEXT"
    | .instanceSwap => "INSTANCE_SWAP"
    | .variant => "VARIANT"

inductive PropertyValue where
  | bool (value : Bool)
  | string (value : String)
deriving DecidableEq, Repr

namespace PropertyValue

def bool? : PropertyValue → Option Bool
  | bool b => some b
  | string _ => none

def string? : PropertyValue → Option String
  | string s => some s
  | bool _ => none

def display : PropertyValue → String
  | bool b => if b then "true" else "false"
  | string s => s

end PropertyValue

structure Property where
  kind : PropertyKind
  value : PropertyValue
deriving DecidableEq, Repr

end Mockup
