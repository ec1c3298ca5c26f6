import BlockSchema.Conversion.Expand

/-!
Contract: flattening structures into generic values.

A structure becomes a block with a key for every field of its conversion, in order. A
field without a value is written as its zero value. Single blocks become lists of at
most one; an absent pointer becomes a null for a scalar and an empty list for a block.
Fields that the conversion omits are left out, whatever they hold.
-/

set_option autoImplicit false

namespace BlockSchema

/-- What a field of a structure was to hold. -/
inductive Held where
  | scalar
  | scalarOfKind
  | pointer
  | pointerToScalar
  | pointerToStructure
  | struct
  | list
  | map
  | scalarElements
  | structureElements
deriving DecidableEq, Repr

def Held.words : Held → String
  | .scalar => "a scalar"
  | .scalarOfKind => "a scalar of the declared kind"
  | .pointer => "a pointer"
  | .pointerToScalar => "a pointer to a scalar"
  | .pointerToStructure => "a pointer to a structure"
  | .struct => "a structure"
  | .list => "a list"
  | .map => "a map"
  | .scalarElements => "scalar elements"
  | .structureElements => "structure elements"

/-- Why a structure cannot be flattened by a conversion. -/
inductive FlattenError where
  | mismatch (field : String) (held : Held)
  | wrongType (expected found : TypeId)
  | unknownField (type : TypeId) (field : String)
deriving DecidableEq, Repr

def FlattenError.message : FlattenError → String
  | .mismatch field held => "field `" ++ field ++ "` does not hold " ++ held.words
  | .wrongType expected found =>
      "expected a `" ++ expected.text ++ "` value, found `" ++ found.text ++ "`"
  | .unknownField type field => "`" ++ type.text ++ "` has no field `" ++ field ++ "`"

abbrev Flattened (α : Type) := Except FlattenError α

def Scalar.flatten (field : String) (type : ScalarType) (scalar : Scalar) : Flattened Value :=
  if scalar.kind = type.kind then .ok (.scalar scalar) else .error (.mismatch field .scalarOfKind)

def Value.single (block : Value) : Value :=
  .list [block]

def Value.optionalSingle (block : Option Value) : Value :=
  .list block.toList

def TypedValue.flattenItems (write : TypedValue → Flattened Value) :
    List TypedValue → Flattened (List Value)
  | [] => .ok []
  | item :: rest => do
      let value ← write item
      let values ← flattenItems write rest
      return value :: values

def TypedValue.flattenEntries (write : TypedValue → Flattened Value) :
    List (String × TypedValue) → Flattened (List (String × Value))
  | [] => .ok []
  | (key, item) :: rest => do
      let value ← write item
      let values ← flattenEntries write rest
      return (key, value) :: values

/-- The first field of a structure that a conversion neither writes nor omits. -/
def Conversion.stray?
    (fields : List (FieldConversion Conversion))
    (omitted : List String)
    (given : Entries TypedValue) :
    Option String :=
  given.keys.find? fun name =>
    !(fields.any fun field => field.declared == name) && !omitted.contains name

mutual

/-- Flattens a structure, given by its type and fields, into a block. -/
def Conversion.flattenStruct : Conversion → TypeId → Entries TypedValue → Flattened Value
  | ⟨typeId, fields, omitted⟩, type, given =>
      if type ≠ typeId then .error (.wrongType typeId type)
      else
        match Conversion.stray? fields omitted given with
        | some name => .error (.unknownField typeId name)
        | none => do return .block (← Conversion.flattenFields fields given)

def Conversion.flattenFields :
    List (FieldConversion Conversion) → Entries TypedValue → Flattened (Entries Value)
  | [], _ => .ok []
  | ⟨declared, external, shape, _⟩ :: rest, given => do
      let value ← Conversion.flattenShape external shape
        ((given.get? declared).getD (Conversion.zeroShape shape))
      return (external, value) :: (← Conversion.flattenFields rest given)

def Conversion.flattenShape (field : String) :
    FieldShape Conversion → TypedValue → Flattened Value
  | ⟨.plain, .scalar type⟩, .scalar value => value.flatten field type
  | ⟨.plain, .scalar _⟩, _ => .error (.mismatch field .scalar)
  | ⟨.pointer, .scalar _⟩, .pointer none => .ok .null
  | ⟨.pointer, .scalar type⟩, .pointer (some (.scalar value)) => value.flatten field type
  | ⟨.pointer, .scalar _⟩, .pointer (some _) => .error (.mismatch field .pointerToScalar)
  | ⟨.pointer, .scalar _⟩, _ => .error (.mismatch field .pointer)
  | ⟨.plain, .struct nested⟩, .struct type given =>
      (nested.flattenStruct type given).map Value.single
  | ⟨.plain, .struct _⟩, _ => .error (.mismatch field .struct)
  | ⟨.pointer, .struct _⟩, .pointer none => .ok (Value.optionalSingle none)
  | ⟨.pointer, .struct nested⟩, .pointer (some (.struct type given)) =>
      (nested.flattenStruct type given).map fun block => Value.optionalSingle (some block)
  | ⟨.pointer, .struct _⟩, .pointer (some _) => .error (.mismatch field .pointerToStructure)
  | ⟨.pointer, .struct _⟩, _ => .error (.mismatch field .pointer)
  | ⟨.list, target⟩, .list items =>
      (TypedValue.flattenItems (Conversion.flattenElement field target) items).map .list
  | ⟨.list, _⟩, _ => .error (.mismatch field .list)
  | ⟨.map, target⟩, .map entries =>
      (TypedValue.flattenEntries (Conversion.flattenElement field target) entries).map .block
  | ⟨.map, _⟩, _ => .error (.mismatch field .map)

def Conversion.flattenElement (field : String) :
    Target Conversion → TypedValue → Flattened Value
  | .scalar type, .scalar value => value.flatten field type
  | .scalar _, _ => .error (.mismatch field .scalarElements)
  | .struct nested, .struct type given => nested.flattenStruct type given
  | .struct _, _ => .error (.mismatch field .structureElements)

end

def Conversion.flatten (conversion : Conversion) (struct : TypedStruct) : Flattened Value :=
  conversion.flattenStruct struct.type struct.fields

end BlockSchema
