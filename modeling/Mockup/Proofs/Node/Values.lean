import Mockup.Node.Decode
import Mockup.Proofs.Json.Part

/-!
# Values of attributes

Which values the colours, paints, constraints and component properties of a node are decoded from.
-/

namespace Mockup

open Json

def RgbSlots.parts : List (Json.Part RgbSlots) := [
  ⟨"r", .number, false, (·.r), fun slots r => { slots with r }, fun _ _ => rfl⟩,
  ⟨"g", .number, false, (·.g), fun slots g => { slots with g }, fun _ _ => rfl⟩,
  ⟨"b", .number, false, (·.b), fun slots b => { slots with b }, fun _ _ => rfl⟩]

private theorem rgbRecord_consistsOf : rgbRecord.ConsistsOf RgbSlots.parts where
  names := rfl
  nodup := by decide
  member slots name v := by
    simp only [rgbRecord]
    split <;> simp_all [RgbSlots.parts, Ne.symm]
  others := by simp [RgbSlots.parts]
  empty := by simp [RgbSlots.parts, rgbRecord]
  finished slots := by
    rcases slots with ⟨_ | r, _ | g, _ | b⟩ <;>
      simp [RgbSlots.parts, rgbRecord, require, bind, Except.bind, pure, Except.pure]

namespace Json.Kind

def styleId : Kind StyleId := via text StyleId.mk

def variableId : Kind VariableId := via text VariableId.mk

def rgb : Kind Rgb := ofRecord rgbRecord_consistsOf

def paintKind : Kind PaintKind :=
  nameBy readPaintKind (fun _ => True) fun s => by simp [readPaintKind]

def propertyKind : Kind PropertyKind :=
  nameBy decodeName (fun s => ∃ k ∈ (Named.all : List PropertyKind), s = Named.name k)
    exists_decodeName_iff

private theorem exists_decodePropertyValue_iff (v : Value) :
    (∃ value, decodePropertyValue v = .ok value) ↔ (∃ b, v = .bool b) ∨ ∃ s, v = .string s := by
  constructor
  · intro ⟨value, h⟩
    obtain ⟨_, _, h⟩ := exists_of_bind_ok h
    cases v with
    | bool b => exact Or.inl ⟨b, rfl⟩
    | string s => exact Or.inr ⟨s, rfl⟩
    | _ => cases h
  · intro h
    obtain ⟨b, rfl⟩ | ⟨s, rfl⟩ := h
    · exact ⟨.bool b, by simp [decodePropertyValue, Value.whole]⟩
    · exact ⟨.string s, by simp [decodePropertyValue, Value.whole]⟩

def propertyValue : Kind PropertyValue :=
  ofIff decodePropertyValue (fun v => (∃ b, v = .bool b) ∨ ∃ s, v = .string s)
    exists_decodePropertyValue_iff

@[simp] theorem styleId_decode : styleId.decode = decodeStyleId := rfl
@[simp] theorem variableId_decode : variableId.decode = decodeVariableId := rfl
@[simp] theorem rgb_decode : rgb.decode = rgbRecord.decode := rfl
@[simp] theorem paintKind_decode : paintKind.decode = decodeNamedBy readPaintKind := rfl
@[simp] theorem propertyKind_decode : propertyKind.decode = decodeNamed := rfl
@[simp] theorem propertyValue_decode : propertyValue.decode = decodePropertyValue := rfl

end Json.Kind

def PaintSlots.parts : List (Json.Part PaintSlots) := [
  ⟨"type", .paintKind, false, (·.kind), fun slots kind => { slots with kind }, fun _ _ => rfl⟩,
  ⟨"color", .nullable .rgb, true, (·.color), fun slots color => { slots with color },
    fun _ _ => rfl⟩]

private theorem paintRecord_consistsOf : paintRecord.ConsistsOf PaintSlots.parts where
  names := rfl
  nodup := by decide
  member slots name v := by
    simp only [paintRecord, paintRecordBy]
    split <;> simp_all [PaintSlots.parts, Ne.symm]
  others := by simp [PaintSlots.parts]
  empty := by simp [PaintSlots.parts, paintRecord, paintRecordBy]
  finished slots := by
    rcases slots with ⟨_ | kind, color⟩ <;>
      simp [PaintSlots.parts, paintRecord, paintRecordBy, require, bind, Except.bind, pure,
        Except.pure]

def PropertySlots.parts : List (Json.Part PropertySlots) := [
  ⟨"type", .propertyKind, false, (·.kind), fun slots kind => { slots with kind }, fun _ _ => rfl⟩,
  ⟨"value", .propertyValue, false, (·.value), fun slots value => { slots with value },
    fun _ _ => rfl⟩]

private theorem propertyRecord_consistsOf : propertyRecord.ConsistsOf PropertySlots.parts where
  names := rfl
  nodup := by decide
  member slots name v := by
    simp only [propertyRecord]
    split <;> simp_all [PropertySlots.parts, Ne.symm]
  others := by simp [PropertySlots.parts]
  empty := by simp [PropertySlots.parts, propertyRecord]
  finished slots := by
    rcases slots with ⟨_ | kind, _ | value⟩ <;>
      simp [PropertySlots.parts, propertyRecord, require, bind, Except.bind, pure, Except.pure]

def ConstraintsSlots.parts : List (Json.Part ConstraintsSlots) := [
  ⟨"horizontal", .named, false, (·.horizontal), fun slots horizontal => { slots with horizontal },
    fun _ _ => rfl⟩,
  ⟨"vertical", .named, false, (·.vertical), fun slots vertical => { slots with vertical },
    fun _ _ => rfl⟩]

private theorem constraintsRecord_consistsOf :
    constraintsRecord.ConsistsOf ConstraintsSlots.parts where
  names := rfl
  nodup := by decide
  member slots name v := by
    simp only [constraintsRecord]
    split <;> simp_all [ConstraintsSlots.parts, Ne.symm]
  others := by simp [ConstraintsSlots.parts]
  empty := by simp [ConstraintsSlots.parts, constraintsRecord]
  finished slots := by
    rcases slots with ⟨_ | horizontal, _ | vertical⟩ <;>
      simp [ConstraintsSlots.parts, constraintsRecord, require, bind, Except.bind, pure,
        Except.pure]

namespace Json.Kind

def paint : Kind Paint := ofRecord paintRecord_consistsOf

def property : Kind Property := ofRecord propertyRecord_consistsOf

def constraints : Kind Constraints := ofRecordWhole constraintsRecord_consistsOf

@[simp] theorem paint_decode : paint.decode = paintRecord.decode := rfl
@[simp] theorem property_decode : property.decode = propertyRecord.decode := rfl
@[simp] theorem constraints_decode : constraints.decode = constraintsRecord.decodeWhole := rfl

end Json.Kind

end Mockup
