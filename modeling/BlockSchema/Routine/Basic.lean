import BlockSchema.Conversion.Basic
import BlockSchema.Name.Identifier

/-!
Contract: conversion routines, the programs that do in emitted source what a conversion
does to values.

A routine reads and writes a type's fields by expressions, each a call of one helper.
Expressions refer to the routines of other types by the names that these have in emitted
source, and a routine refers to the model by names too. So a routine holds what its source
spells and no more: of a scalar type its kind and whether it has a name of its own.
-/

set_option autoImplicit false

namespace BlockSchema

/-! ## Names in emitted source -/

namespace TypeId

def expandName (id : TypeId) : String := "expand_" ++ id.stem

def flattenName (id : TypeId) : String := "flatten_" ++ id.stem

def modelName (id : TypeId) : String := "model::" ++ id.packageModule ++ "::" ++ id.name

theorem expandName_eq_iff {left right : TypeId} :
    left.expandName = right.expandName ↔ left.stem = right.stem :=
  String.append_right_inj _

theorem flattenName_eq_iff {left right : TypeId} :
    left.flattenName = right.flattenName ↔ left.stem = right.stem :=
  String.append_right_inj _

end TypeId

/-! ## Expressions -/

/-- How the elements of a list or a map are read. -/
inductive ElementReader where
  /-- By the helper for scalars, for the field named in errors. A scalar that `converts`
  becomes one of the named type that the model has for it. -/
  | scalar (kind : ScalarKind) (converts : Bool) (field : String)
  | routine (name : String)
deriving DecidableEq, Repr

/-- An expression that reads a field from a block. -/
inductive ReadExpr where
  | scalar (kind : ScalarKind) (converts : Bool) (field : String)
  | optionalScalar (kind : ScalarKind) (converts : Bool) (field : String)
  /-- A single block; without one, the default value. -/
  | block (routine field : String)
  | optionalBlock (routine field : String)
  | list (field : String) (element : ElementReader)
  | map (field : String) (element : ElementReader)
  /-- The default value, whatever the block holds. -/
  | default
deriving DecidableEq, Repr

/-- How a scalar is taken out of its place. -/
inductive Taking where
  | plain
  | cloned
  /-- Out of a value of a named type. -/
  | converted (kind : ScalarKind)
deriving DecidableEq, Repr

/-- How the elements of a list or a map are written. -/
inductive ElementWriter where
  | scalar (taking : Taking)
  | routine (name : String)
deriving DecidableEq, Repr

/-- An expression that gives the generic value of a member. -/
inductive WriteExpr where
  | scalar (taking : Taking)
  | optionalScalar (taking : Taking)
  | block (routine : String)
  | optionalBlock (routine : String)
  | list (element : ElementWriter)
  | map (element : ElementWriter)
deriving DecidableEq, Repr

/-! ## Routines -/

/-- A field in a routine. -/
structure RoutineField where
  /-- The identifier of the member that holds the field. -/
  member : String
  external : String
  read : ReadExpr
  write : WriteExpr
deriving DecidableEq, Repr

/-- The routines of a type. -/
structure Routine where
  /-- The type that errors name. -/
  typeId : TypeId
  /-- The name of the model's structure. -/
  structName : String
  expandName : String
  flattenName : String
  fields : List RoutineField
  /-- Members without an entry take their default values. -/
  completes : Bool
deriving DecidableEq, Repr

def ElementReader.ofTarget (field : String) : Target TypeId → ElementReader
  | .scalar type => .scalar type.kind type.named.isSome field
  | .struct id => .routine id.expandName

/-- The expression that reads a field of a shape. -/
def ReadExpr.ofShape (field : String) : FieldShape TypeId → ReadExpr
  | ⟨.plain, .scalar type⟩ => .scalar type.kind type.named.isSome field
  | ⟨.pointer, .scalar type⟩ => .optionalScalar type.kind type.named.isSome field
  | ⟨.plain, .struct id⟩ => .block id.expandName field
  | ⟨.pointer, .struct id⟩ => .optionalBlock id.expandName field
  | ⟨.list, target⟩ => .list field (.ofTarget field target)
  | ⟨.map, target⟩ => .map field (.ofTarget field target)

/-- Texts are cloned and other scalars copied. -/
def Taking.ofType (type : ScalarType) : Taking :=
  if type.named.isSome then .converted type.kind
  else if type.kind = .string then .cloned
  else .plain

def ElementWriter.ofTarget : Target TypeId → ElementWriter
  | .scalar type => .scalar (.ofType type)
  | .struct id => .routine id.flattenName

/-- The expression that writes a field of a shape. -/
def WriteExpr.ofShape : FieldShape TypeId → WriteExpr
  | ⟨.plain, .scalar type⟩ => .scalar (.ofType type)
  | ⟨.pointer, .scalar type⟩ => .optionalScalar (.ofType type)
  | ⟨.plain, .struct id⟩ => .block id.flattenName
  | ⟨.pointer, .struct id⟩ => .optionalBlock id.flattenName
  | ⟨.list, target⟩ => .list (.ofTarget target)
  | ⟨.map, target⟩ => .map (.ofTarget target)

/-- A target with the nested conversion named by its type. -/
def Target.named : Target Conversion → Target TypeId
  | .scalar type => .scalar type
  | .struct nested => .struct nested.typeId

def RoutineField.ofEntry (entry : FieldConversion Conversion) : RoutineField :=
  let shape : FieldShape TypeId := ⟨entry.shape.arity, entry.shape.target.named⟩
  { member := Name.member entry.declared
    external := entry.external
    read := if entry.readsInput then .ofShape entry.external shape else .default
    write := .ofShape shape }

theorem RoutineField.ofEntry_member (entry : FieldConversion Conversion) :
    (RoutineField.ofEntry entry).member = Name.member entry.declared := by
  rw [RoutineField.ofEntry]

theorem RoutineField.ofEntry_external (entry : FieldConversion Conversion) :
    (RoutineField.ofEntry entry).external = entry.external := by
  rw [RoutineField.ofEntry]

def Routine.ofConversion (conversion : Conversion) : Routine where
  typeId := conversion.typeId
  structName := conversion.typeId.modelName
  expandName := conversion.typeId.expandName
  flattenName := conversion.typeId.flattenName
  fields := conversion.fields.map .ofEntry
  completes := !conversion.omitted.isEmpty

theorem Routine.ofConversion_members (conversion : Conversion) :
    (Routine.ofConversion conversion).fields.map RoutineField.member =
      conversion.fields.map fun field => Name.member field.declared := by
  rw [ofConversion, List.map_map]
  exact List.map_congr_left fun entry _ => RoutineField.ofEntry_member entry

end BlockSchema
