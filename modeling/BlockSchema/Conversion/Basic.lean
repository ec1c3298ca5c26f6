import BlockSchema.Building
import BlockSchema.Graph.Node

/-!
Contract: conversions between generic values and the structures of a type.

A conversion has one entry for every field of its node. The entry's shape serves both
directions: it says how the field is read from a block and how it is written back. A
computed-only field is written and never read.

Before an entry is made, its field is checked for what would break the round trip.
-/

set_option autoImplicit false

namespace BlockSchema

/-- How one field is converted; `κ` is what stands for the conversion of a nested type. -/
structure FieldConversion (κ : Type) where
  declared : String
  external : String
  shape : FieldShape κ
  /-- Whether expanding reads the field; if not, it is always the zero value. -/
  readsInput : Bool

/-- How the structures of a type are converted. -/
structure Conversion where
  typeId : TypeId
  fields : List (FieldConversion Conversion)
  /-- The declared names of fields that no entry touches. -/
  omitted : List String

def Conversion.field? (conversion : Conversion) (declared : String) :
    Option (FieldConversion Conversion) :=
  conversion.fields.find? fun field => field.declared = declared

def TypeNode.firstRequired? (node : TypeNode) : Option (FieldNode TypeNode) :=
  node.fields.find? fun field => field.effects.required

/-- Why a field could not survive a round trip. -/
def FieldNode.roundTripFault? (field : FieldNode TypeNode) : Option RoundTripFault :=
  if field.effects.nullable && !field.shape.isPointer then
    some (.nullableWithoutPointer field.shape.isCollection)
  else if field.effects.computedOnly then
    field.shape.nested?.bind fun nested =>
      nested.firstRequired?.map fun required =>
        .requiredBelowComputed required.declared nested.id
  else none

/-- Refuses a field that could not survive a round trip. -/
def FieldNode.checkRoundTrip (owner : TypeId) (field : FieldNode TypeNode) :
    Except CompileError Unit :=
  match field.roundTripFault? with
  | some fault => .error (.roundTrip (.field owner field.declared) fault)
  | none => .ok ()

abbrev Deriving (α : Type) := Building CompileError (List Conversion) α

mutual

/-- Derives the conversion of a node, once a type. -/
def Conversion.derive : TypeNode → Deriving Conversion
  | ⟨id, _, _, _, _, _, fields, excluded⟩ =>
      Building.once (fun conversion => conversion.typeId == id)
        ((Conversion.deriveFields id fields).bind fun entries =>
          Building.pure ⟨id, entries, excluded⟩)

def Conversion.deriveFields (owner : TypeId) :
    List (FieldNode TypeNode) → Deriving (List (FieldConversion Conversion))
  | [] => Building.pure []
  | field :: rest =>
      (Conversion.deriveField owner field).bind fun entry =>
        (Conversion.deriveFields owner rest).bind fun entries =>
          Building.pure (entry :: entries)

def Conversion.deriveField (owner : TypeId) :
    FieldNode TypeNode → Deriving (FieldConversion Conversion)
  | ⟨declared, external, ⟨arity, target⟩, effects, version, description⟩ =>
      (Building.ofExcept
          (FieldNode.checkRoundTrip owner
            ⟨declared, external, ⟨arity, target⟩, effects, version, description⟩)).bind
        fun _ =>
          (Conversion.deriveTarget target).bind fun nested =>
            Building.pure ⟨declared, external, ⟨arity, nested⟩, !effects.computedOnly⟩

def Conversion.deriveTarget : Target TypeNode → Deriving (Target Conversion)
  | .scalar type => Building.pure (.scalar type)
  | .struct nested =>
      (Conversion.derive nested).bind fun conversion => Building.pure (.struct conversion)

end

/-- Derives the conversions of a graph, every conversion after those it nests. -/
def TypeGraph.conversions (graph : TypeGraph) : Except CompileError (List Conversion) :=
  match Building.each Conversion.derive graph.nodes [] with
  | (.ok _, built) => .ok built
  | (.error error, _) => .error error

end BlockSchema
