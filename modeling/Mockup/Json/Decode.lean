import Mockup.Json.Reader
import Mockup.OrderedMap

/-!
# Decoding JSON

From values to data: what each type accepts, and the first problem of a value that is refused.
-/

namespace Mockup.Json

inductive DecodeError where
  | malformed
  | ended
  | invalidType
  | invalidValue
  /-- The list form of a record with the wrong number of items. -/
  | invalidLength (count : Nat)
  | missingField (name : String)
  | duplicateField (name : String)
  | unknownVariant (name : String) (expected : List String)
  | noPropertyValue
deriving DecidableEq, Repr

namespace DecodeError

def ticked (s : String) : String :=
  "`" ++ s ++ "`"

/-- Whether the text is at fault (`syntax`, `eof`) or the data. -/
def category : DecodeError → String
  | malformed => "syntax"
  | ended => "eof"
  | _ => "data"

def message : DecodeError → String
  | malformed | ended => ""
  | invalidType => "invalid type"
  | invalidValue => "invalid value"
  | invalidLength count => "invalid length " ++ toString count
  | missingField name => "missing field " ++ ticked name
  | duplicateField name => "duplicate field " ++ ticked name
  | unknownVariant name expected =>
    "unknown variant " ++ ticked name ++ ", expected one of " ++
      ", ".intercalate (expected.map ticked)
  | noPropertyValue => "data did not match any variant of untagged enum PropertyValue"

end DecodeError

/-- What a break means to whoever reads the value. -/
def Break.error : Break → DecodeError
  | .malformed | .endedAfterHalfPair => .malformed
  | .ended | .endedInWord | .endedInNumber | .endedInList => .ended

/-- What a break means where values are passed over: numbers are not completed, halves of pairs
not missed. -/
def Break.errorPassing : Break → DecodeError
  | .malformed | .endedInNumber => .malformed
  | .ended | .endedInWord | .endedInList | .endedAfterHalfPair => .ended

mutual

def Value.pass : Value → Except DecodeError Unit
  | .broken cause => .error cause.errorPassing
  | .flawed _ passed => passed.pass
  | .array items => passItems items
  | .object members => passMembers members
  | _ => .ok ()

def passItems : List Value → Except DecodeError Unit
  | [] => .ok ()
  | v :: rest => do v.pass; passItems rest

def passMembers : List (String × Value) → Except DecodeError Unit
  | [] => .ok ()
  | (_, v) :: rest => do v.pass; passMembers rest

end

mutual

def Value.whole : Value → Except DecodeError Unit
  | .broken cause => .error cause.error
  | .flawed .nameless passed => passed.whole
  | .flawed _ _ => .error .malformed
  | .array items => wholeItems items
  | .object members => wholeMembers members
  | _ => .ok ()

def wholeItems : List Value → Except DecodeError Unit
  | [] => .ok ()
  | v :: rest => do v.whole; wholeItems rest

def wholeMembers : List (String × Value) → Except DecodeError Unit
  | [] => .ok ()
  | (_, v) :: rest => do v.whole; wholeMembers rest

end

/-- What a type expects to find: decides whether a value nested too deep is entered. -/
structure Expected where
  list : Bool := false
  object : Bool := false

/-- The problem with a value that is not what was expected. -/
def Value.misfit (expected : Expected) : Value → DecodeError
  | .broken cause | .flawed .nameless (.broken cause) => cause.error
  | .flawed .depth (.array _) => if expected.list then .malformed else .invalidType
  | .flawed .depth (.object _) => if expected.object then .malformed else .invalidType
  | .flawed _ _ => .malformed
  | _ => .invalidType

def decodeString : Value → Except DecodeError String
  | .string s => .ok s
  | v => .error (v.misfit {})

def decodeBool : Value → Except DecodeError Bool
  | .bool b => .ok b
  | v => .error (v.misfit {})

/-- Integers are taken where a float is expected. -/
def decodeFloat : Value → Except DecodeError Float
  | .number (.float x) => .ok x
  | .number (.int i) => .ok (Float.ofInt i)
  | v => .error (v.misfit {})

def decodeUInt32 : Value → Except DecodeError UInt32
  | .number (.int i) =>
    if 0 ≤ i ∧ i < UInt32.size then .ok (UInt32.ofNat i.toNat) else .error .invalidValue
  | v => .error (v.misfit {})

/-- `null` for an absent value. -/
def decodeOptional {α : Type} (decode : Value → Except DecodeError α) :
    Value → Except DecodeError (Option α)
  | .null => .ok none
  | v => (decode v).map some

def decodeList {α : Type} (decode : Value → Except DecodeError α) :
    Value → Except DecodeError (List α)
  | .array items => items.mapM decode
  | v => .error (v.misfit { list := true })

/-- A repeated key keeps its first place and its last value. -/
def decodeMap {α : Type} (decode : Value → Except DecodeError α) :
    Value → Except DecodeError (OrderedMap String α)
  | .object members =>
    members.foldlM (fun m member => (decode member.2).map (m.insert member.1)) .empty
  | v => .error (v.misfit { object := true })

/-- Types whose values are written as one of a few names. -/
class Named (α : Type) where
  all : List α
  name : α → String

def Named.ofName? {α : Type} [Named α] (s : String) : Option α :=
  (Named.all : List α).find? (Named.name · == s)

def decodeName {α : Type} [Named α] (s : String) : Except DecodeError α :=
  match Named.ofName? s with
  | some a => .ok a
  | none => .error (.unknownVariant s ((Named.all : List α).map Named.name))

/-- A break where a name is due. A word or a number that breaks off is no start of a name. -/
def Break.errorForName : Break → DecodeError
  | .endedInWord | .endedInNumber => .malformed
  | cause => cause.error

/-- The payload of a name written as the only member of an object. -/
def decodeUnit : Value → Except DecodeError Unit
  | .null => .ok ()
  | v => .error (v.misfit {})

/-- A name, or an object with the name as its only member and `null` in it. -/
def decodeNamedBy {α : Type} (ofName : String → Except DecodeError α) :
    Value → Except DecodeError α
  | .string s => ofName s
  | .object ((name, v) :: rest) =>
    match v with
    | .flawed .name _ => .error .malformed
    | .flawed .nameless _ => .error (v.misfit {})
    | v => do
      let a ← ofName name
      decodeUnit v
      match rest with
      | [] => .ok a
      | [(_, .flawed .nameless (.broken .endedInList))] => .error .ended
      | _ => .error .malformed
  | .broken cause => .error cause.errorForName
  | .flawed .nameless (.broken cause) => .error cause.error
  | _ => .error .malformed

def decodeNamed {α : Type} [Named α] : Value → Except DecodeError α :=
  decodeNamedBy decodeName

/-- A name in a value that was read as a whole before it is decoded, or an object with the name as
its only member. `isPayload` tells what may be in that. -/
def decodeNamedWholeBy {α : Type} (isPayload : Value → Bool)
    (ofName : String → Except DecodeError α) : Value → Except DecodeError α
  | .string s => ofName s
  | .object [(name, v)] => do
    let a ← ofName name
    if isPayload v then return a else throw .invalidType
  | .object _ => .error .invalidValue
  | _ => .error .invalidType

def Value.isNull : Value → Bool
  | .null => true
  | _ => false

def Value.isNullOrEmpty : Value → Bool
  | .null | .object [] => true
  | _ => false

def decodeNamedWhole {α : Type} [Named α] : Value → Except DecodeError α :=
  decodeNamedWholeBy Value.isNull decodeName

/-- A name among attributes that were collected before they are decoded. The payload may also be
an empty object. -/
def decodeNamedCollected {α : Type} [Named α] : Value → Except DecodeError α :=
  decodeNamedWholeBy Value.isNullOrEmpty decodeName

/-- Decode a whole text: nothing may follow the value. -/
def decodeText {α : Type} (decode : Value → Except DecodeError α) (text : String) :
    Except DecodeError α := do
  let reading := read text
  let a ← decode reading.value
  if reading.hasMore then throw .malformed
  return a

end Mockup.Json
