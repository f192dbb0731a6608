import Mockup.Decimal.Reading
import Mockup.OrderedMap
import Mockup.Template.Reader

/-!
# Filling in templates

Members are looked up in the data, where a missing one counts as `null`. A block has the parts
that its helper keeps.
-/

namespace Mockup.Template

open Json (Value)

/-- A position in a list: decimal digits, perhaps behind a plus sign, that 64 bits hold. -/
def position? (name : String) : Option Nat :=
  let digits := match name.toList with
    | '+' :: rest => rest
    | cs => cs
  if digits ≠ [] ∧ digits.all Char.isDigit ∧ Decimal.digitsValue digits < UInt64.size then
    some (Decimal.digitsValue digits)
  else
    none

/-- What a name leads to in a value: the member of an object, or the item at a position. -/
def step (v : Value) (name : String) : Except Fault Value :=
  match v with
  | .object members => .ok ((members.lookup name).getD .null)
  | .array items =>
    match position? name with
    | some i => .ok (items[i]?.getD .null)
    | none => .error (.noPosition name)
  | _ => .ok .null

def Operand.value (data : Value) : Operand → Except Fault Value
  | .literal v => .ok v
  | .path names => names.foldlM step data

def Call.effect (data : Value) (call : Call) : Except Fault Effect := do
  let values ← call.operands.mapM (Operand.value data)
  let named ← call.named.mapM fun entry => return (entry.1, ← entry.2.value data)
  match Helper.ofName? call.helper with
  | some helper => helper.effect named values
  | none => throw (.unknownHelper call.helper)

mutual

def renderPart (data : Value) : Part → Except Fault String
  | .text text => .ok text
  | .insert operand => return shown (← operand.value data)
  | .call call => do
    match ← call.effect data with
    | .text text => return text
    | .decision _ => return ""
  | .block call body otherwise => do
    match ← call.effect data with
    | .text text => return text
    | .decision true => renderParts data body
    | .decision false => renderParts data otherwise

def renderParts (data : Value) : List Part → Except Fault String
  | [] => return ""
  | part :: rest => return (← renderPart data part) ++ (← renderParts data rest)

end

structure Store where
  templates : OrderedMap String Template := .empty

namespace Store

/-- Adds or replaces a template; a text that is no template changes nothing. -/
def register (store : Store) (name text : String) : Except Fault Store :=
  match ofText? text with
  | some template => .ok ⟨store.templates.insert name template⟩
  | none => .error .malformed

def render (store : Store) (name : String) (data : Value) : Except Fault String :=
  match store.templates.get? name with
  | some template => renderParts data template
  | none => .error (.unknownTemplate name)

end Store
end Mockup.Template
