import BlockSchema.Building
import BlockSchema.Graph.Node
import BlockSchema.Value.Basic

/-!
Contract: schemas, which say what a user may write for a type.

A schema has one element for every field of its node, in order, and an element that
holds blocks has the schema of their type inside. In a read-only schema everything is
computed that is not required.
-/

set_option autoImplicit false

namespace BlockSchema

/-- Who gives the value of an element. -/
inductive Optionality where
  | required
  | optional
  | computed
  /-- Optional, and computed when left unset. -/
  | optionalComputed
deriving DecidableEq, Repr

/-- What an element holds; `σ` is what stands for the schema of a nested type. -/
inductive ElementKind (σ : Type) where
  | scalar (kind : ScalarKind) (oneOf : List String)
  | list (element : ScalarKind)
  | map (element : ScalarKind)
  /-- A single block, written as a list of at most `limit` blocks. -/
  | block (limit : Nat) (schema : σ)
  | blockList (schema : σ)
  | blockMap (schema : σ)
deriving DecidableEq, Repr

/-- One element of a schema. -/
structure SchemaElement (σ : Type) where
  name : String
  kind : ElementKind σ
  optionality : Optionality
  nullable : Bool
  sensitive : Bool
  forceNew : Bool
  default : Option Scalar
  /-- The least model revision that has the element. -/
  version : UInt32
  description : Option String

/-- The schema of a type. -/
structure Schema where
  typeId : TypeId
  version : UInt32
  elements : List (SchemaElement Schema)

/-- The schema of the blocks that an element holds. -/
def ElementKind.nested? {σ : Type} : ElementKind σ → Option σ
  | .scalar _ _ | .list _ | .map _ => none
  | .block _ schema | .blockList schema | .blockMap schema => some schema

def ElementKind.label {σ : Type} : ElementKind σ → String
  | .scalar kind _ => kind.label
  | .list element => "list(" ++ element.label ++ ")"
  | .map element => "map(" ++ element.label ++ ")"
  | .block _ _ => "block"
  | .blockList _ => "list(block)"
  | .blockMap _ => "map(block)"

def Schema.element? (schema : Schema) (name : String) : Option (SchemaElement Schema) :=
  schema.elements.find? fun element => element.name = name

/-! ## Derivation -/

/-- Who gives the value of a field, by the effects on it. -/
def Optionality.ofEffects (readOnly : Bool) (effects : FieldEffects) : Optionality :=
  if effects.computedOnly then .computed
  else if effects.required then .required
  else if readOnly then .computed
  else if effects.computed then .optionalComputed
  else .optional

def ElementKind.ofShape {σ : Type} : FieldShape σ → ElementKind σ
  | ⟨.plain, .scalar type⟩ | ⟨.pointer, .scalar type⟩ => .scalar type.kind type.values
  | ⟨.plain, .struct schema⟩ | ⟨.pointer, .struct schema⟩ => .block 1 schema
  | ⟨.list, .scalar type⟩ => .list type.kind
  | ⟨.map, .scalar type⟩ => .map type.kind
  | ⟨.list, .struct schema⟩ => .blockList schema
  | ⟨.map, .struct schema⟩ => .blockMap schema

/-- The value that a plain optional scalar has when nothing is written for it. -/
def SchemaElement.defaultOf {σ : Type} (optionality : Optionality) (nullable : Bool) :
    FieldShape σ → Option Scalar
  | ⟨.plain, .scalar type⟩ =>
      if optionality = .optional ∧ nullable = false then some (.zero type.kind) else none
  | _ => none

/-- The element of a field, once its shape has the schema of the nested type. -/
def SchemaElement.ofField
    {σ : Type}
    (readOnly : Bool)
    (field : FieldNode σ) :
    SchemaElement σ :=
  let optionality := Optionality.ofEffects readOnly field.effects
  let nullable :=
    optionality == .optional && (field.effects.nullable || field.shape.isPointer)
  { name := field.external
    kind := .ofShape field.shape
    optionality := optionality
    nullable := nullable
    sensitive := field.effects.sensitive
    forceNew := field.effects.forceNew
    default := SchemaElement.defaultOf optionality nullable field.shape
    version := field.version
    description := field.description }

/-- A derivation of schemas, which cannot fail. -/
abbrev SchemaDeriving (α : Type) := Building Empty (List Schema) α

mutual

/-- Derives the schema of a node, once a type. -/
def Schema.derive (readOnly : Bool) : TypeNode → SchemaDeriving Schema
  | ⟨id, _, version, _, _, _, fields, _⟩ =>
      Building.once (fun schema => schema.typeId == id)
        ((Schema.deriveFields readOnly fields).bind fun elements =>
          Building.pure ⟨id, version, elements⟩)

/-- Derives the elements of fields, in order. -/
def Schema.deriveFields (readOnly : Bool) :
    List (FieldNode TypeNode) → SchemaDeriving (List (SchemaElement Schema))
  | [] => Building.pure []
  | ⟨declared, external, ⟨arity, target⟩, effects, version, description⟩ :: rest =>
      (Schema.deriveTarget readOnly target).bind fun nested =>
        (Schema.deriveFields readOnly rest).bind fun elements =>
          Building.pure
            (SchemaElement.ofField readOnly
              ⟨declared, external, ⟨arity, nested⟩, effects, version, description⟩ ::
              elements)

def Schema.deriveTarget (readOnly : Bool) :
    Target TypeNode → SchemaDeriving (Target Schema)
  | .scalar type => Building.pure (.scalar type)
  | .struct nested =>
      (Schema.derive readOnly nested).bind fun schema => Building.pure (.struct schema)

end

/-- The value of a computation that cannot fail, with the memory it leaves. -/
def Building.value {σ α : Type} (computation : Building Empty σ α) (memory : σ) : α × σ :=
  match computation memory with
  | (.ok value, later) => (value, later)
  | (.error impossible, _) => nomatch impossible

end BlockSchema
