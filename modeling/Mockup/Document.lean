import Mockup.Lookup.Library
import Mockup.Node.Decode

/-!
# Documents

A selected part of a design with the answers to all its references.
-/

namespace Mockup

structure Document where
  /-- Absent when nothing was selected. -/
  root : Option Node := none
  library : Library := {}

namespace Document

open Json (Value DecodeError)

structure Slots where
  root : Option (Option Node) := none
  /-- All other members, from last to first. -/
  collected : List (String × Value) := []

def Slots.write (slots : Slots) (name : String) (v : Value) : Except DecodeError Slots :=
  if name = "root" then
    (Json.fill name slots.root (Json.decodeOptional Node.decode) v).map ({ slots with root := · })
  else
    v.whole.map fun _ => { slots with collected := (name, v) :: slots.collected }

/-- The tables are collected while the root is decoded, and decoded after it. -/
def decode : Value → Except DecodeError Document
  | .object members => do
    let slots ← members.foldlM (fun slots member => Slots.write slots member.1 member.2) {}
    return {
      root := slots.root.getD none
      library := ← Library.ofMembers slots.collected.reverse }
  | v => .error (v.misfit { object := true })

def ofText (text : String) : Except DecodeError Document :=
  Json.decodeText decode text

end Document
end Mockup
