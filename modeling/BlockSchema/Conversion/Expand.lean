import BlockSchema.Conversion.Basic
import BlockSchema.Value.Reading
import BlockSchema.Value.Typed

/-!
Contract: expanding generic values into structures.

A structure gets every field of its conversion, in order. A field that is not read, or
that has no value, gets the zero value of its shape. Keys that no field reads are
ignored.
-/

set_option autoImplicit false

namespace BlockSchema

mutual

/-- The structure that stands for no value of a type. -/
def Conversion.zero : Conversion → TypedStruct
  | ⟨typeId, fields, _⟩ => ⟨typeId, Conversion.zeroFields fields⟩

/-- The zero values of fields, under their declared names. -/
def Conversion.zeroFields : List (FieldConversion Conversion) → Entries TypedValue
  | [] => []
  | ⟨declared, _, shape, _⟩ :: rest =>
      (declared, Conversion.zeroShape shape) :: Conversion.zeroFields rest

def Conversion.zeroShape : FieldShape Conversion → TypedValue
  | ⟨.plain, .scalar type⟩ => .scalar (.zero type.kind)
  | ⟨.plain, .struct nested⟩ => nested.zero.toValue
  | ⟨.pointer, _⟩ => .pointer none
  | ⟨.list, _⟩ => .list []
  | ⟨.map, _⟩ => .map []

end

def FieldConversion.zero (field : FieldConversion Conversion) : TypedValue :=
  Conversion.zeroShape field.shape

mutual

/-- Expands a value into a structure of the conversion's type. -/
def Conversion.expand : Conversion → Value → Expanded TypedStruct
  | ⟨typeId, fields, _⟩, input => do
      let block ← input.readBlock typeId
      return ⟨typeId, ← Conversion.expandFields fields block⟩

/-- Expands fields from the block that holds them. -/
def Conversion.expandFields :
    List (FieldConversion Conversion) → Entries Value → Expanded (Entries TypedValue)
  | [], _ => .ok []
  | ⟨declared, external, shape, readsInput⟩ :: rest, block => do
      let value ←
        if readsInput then Conversion.expandShape external shape (block.get? external)
        else .ok (Conversion.zeroShape shape)
      return (declared, value) :: (← Conversion.expandFields rest block)

/-- Expands the value under an external name. -/
def Conversion.expandShape (field : String) :
    FieldShape Conversion → Option Value → Expanded TypedValue
  | ⟨.plain, .scalar type⟩, input => do
      let read ← Value.readScalar field type.kind input
      return .scalar (read.getD (.zero type.kind))
  | ⟨.pointer, .scalar type⟩, input => do
      let read ← Value.readScalar field type.kind input
      return .pointer (read.map .scalar)
  | ⟨.plain, .struct nested⟩, input => do
      let read ← Value.readSingle field nested.expand input
      return (read.getD nested.zero).toValue
  | ⟨.pointer, .struct nested⟩, input => do
      let read ← Value.readSingle field nested.expand input
      return .pointer (read.map TypedStruct.toValue)
  | ⟨.list, target⟩, input => do
      return .list (← Value.readList field (Conversion.expandElement field target) input)
  | ⟨.map, target⟩, input => do
      let entries ← Value.readMap field (Conversion.expandElement field target) input
      return .map (Entries.sortedOfList entries)

def Conversion.expandElement (field : String) :
    Target Conversion → Value → Expanded TypedValue
  | .scalar type, input => do return .scalar (← Value.readElement field type.kind input)
  | .struct nested, input => do return (← nested.expand input).toValue

end

end BlockSchema
