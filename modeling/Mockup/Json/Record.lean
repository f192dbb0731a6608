import Mockup.Json.Decode

/-!
# Decoding records

Objects with known member names. Members may come in any order, unknown ones are passed over and
known ones must not be repeated. A small record may also be written as the list of its fields.
-/

namespace Mockup.Json

/-- Decode a field into its slot, which must still be empty. -/
def fill {α : Type} (name : String) (slot : Option α) (decode : Value → Except DecodeError α)
    (v : Value) : Except DecodeError (Option α) :=
  match slot with
  | some _ => .error (.duplicateField name)
  | none => (decode v).map some

def require {α : Type} (name : String) : Option α → Except DecodeError α
  | some a => .ok a
  | none => .error (.missingField name)

/-- How a record is decoded: the slots `σ` for its fields, in which order they are declared, what
a member does to the slots (none when its name is unknown), and the record that full slots give. -/
structure Record (σ α : Type) where
  start : σ
  names : List String
  member : σ → String → Value → Option (Except DecodeError σ)
  finish : σ → Except DecodeError α

namespace Record

variable {σ α : Type}

def step (r : Record σ α) (slots : σ) (name : String) (v : Value) : Except DecodeError σ :=
  match v with
  | .flawed .name _ | .flawed .nameless _ => .error (v.misfit {})
  | v =>
    match r.member slots name v with
    | some result => result
    | none => v.pass.map fun _ => slots

def ofMembers (r : Record σ α) (members : List (String × Value)) : Except DecodeError α := do
  r.finish (← members.foldlM (fun slots member => r.step slots member.1 member.2) r.start)

/-- The record written as the list of its fields; those that are optional may be left off at the
end. -/
def ofItems (r : Record σ α) (items : List Value) : Except DecodeError α := do
  let slots ← (r.names.zip items).foldlM
    (fun slots field => (r.member slots field.1 field.2).getD (.ok slots)) r.start
  match r.finish slots with
  | .error (.missingField _) => .error (.invalidLength items.length)
  | result => result

/-- What more items than fields mean in a list that is read while it is decoded: the reader finds
something where the list has to end. -/
def surplus : List Value → Except DecodeError Unit
  | [] => .ok ()
  | [.broken .endedInList] => .error .ended
  | _ => .error .malformed

def decode (r : Record σ α) : Value → Except DecodeError α
  | .object members => r.ofMembers members
  | .array items => do
    let a ← r.ofItems items
    surplus (items.drop r.names.length)
    return a
  | v => .error (v.misfit { list := true, object := true })

def decodeWhole (r : Record σ α) : Value → Except DecodeError α
  | .object members => r.ofMembers members
  | .array items => do
    let a ← r.ofItems items
    if r.names.length < items.length then .error (.invalidLength items.length) else return a
  | _ => .error .invalidType

end Record
end Mockup.Json
