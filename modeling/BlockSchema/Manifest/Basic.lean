import BlockSchema.Name.Identifier

/-!
Contract: the model of record types that a compilation works on.

Owns type identities, the shapes of fields, record types and manifests. A manifest
defines each type once and each type in it declares each field once; both facts are
part of the manifest, so what is derived from one may rely on them.
-/

set_option autoImplicit false

namespace BlockSchema

/-- The identity of a record type: its package, a dot and its name. -/
structure TypeId where
  text : String
deriving DecidableEq, Repr, Inhabited

/-- Kinds of scalars. -/
inductive ScalarKind where
  | string
  | int
  | bool
  | float
deriving DecidableEq, Repr, Inhabited

def ScalarKind.label : ScalarKind → String
  | .string => "string"
  | .int => "int"
  | .bool => "bool"
  | .float => "float"

/-- A scalar type: its kind, the named type of the model that wraps it, and the
literals it is limited to. -/
structure ScalarType where
  kind : ScalarKind
  named : Option String
  values : List String
deriving DecidableEq, Repr, Inhabited

/-- The scalar type of a kind without a name or a limit. -/
def ScalarType.plain (kind : ScalarKind) : ScalarType := ⟨kind, none, []⟩

/-- The shape of a field's values. -/
inductive Shape where
  | scalar (type : ScalarType)
  | pointer (inner : Shape)
  | struct (id : TypeId)
  | list (element : Shape)
  | map (element : Shape)
deriving DecidableEq, Repr, Inhabited

/-- The record type that a shape refers to, at any depth. -/
def Shape.reference? : Shape → Option TypeId
  | .scalar _ => none
  | .struct id => some id
  | .pointer inner | .list inner | .map inner => inner.reference?

/-- A declared field. -/
structure FieldDef where
  name : String
  shape : Shape
  description : Option String
  /-- The revision of the model that introduced the field. -/
  since : Option UInt32
deriving DecidableEq, Repr, Inhabited

/-- A record type. -/
structure TypeDef where
  name : String
  package : String
  description : Option String
  fields : List FieldDef
deriving DecidableEq, Repr, Inhabited

namespace TypeId

def ofParts (package name : String) : TypeId := ⟨package ++ "." ++ name⟩

/-- The characters before and after the last dot; without a dot all of them come
after. -/
def splitLast : List Char → Option (List Char × List Char)
  | [] => none
  | character :: rest =>
      match splitLast rest with
      | some (front, back) => some (character :: front, back)
      | none => if character = '.' then some ([], rest) else none

/-- The part before the last dot, empty without a dot. -/
def package (id : TypeId) : String :=
  match splitLast id.text.toList with
  | some (front, _) => String.ofList front
  | none => ""

def name (id : TypeId) : String :=
  match splitLast id.text.toList with
  | some (_, back) => String.ofList back
  | none => id.text

/-- The module that emitted code names after the package. -/
def packageModule (id : TypeId) : String :=
  Name.snake id.package

/-- The stem of the names that emitted code gives to what belongs to the type. -/
def stem (id : TypeId) : String :=
  id.packageModule ++ "_" ++ Name.snake id.name

end TypeId

namespace TypeDef

def id (definition : TypeDef) : TypeId :=
  TypeId.ofParts definition.package definition.name

def fieldNames (definition : TypeDef) : List String :=
  definition.fields.map FieldDef.name

def field? (definition : TypeDef) (name : String) : Option FieldDef :=
  definition.fields.find? fun field => field.name = name

end TypeDef

/-- The types of a model, in the order in which they were first seen. -/
structure Manifest where
  types : List TypeDef
  distinct : (types.map TypeDef.id).Nodup
  fieldsDistinct : ∀ definition ∈ types, definition.fieldNames.Nodup

/-- Why a type cannot join a manifest. -/
inductive ManifestFault where
  | typeTwice (id : TypeId)
  | fieldTwice (id : TypeId) (field : String)
deriving DecidableEq, Repr

namespace Manifest

def empty : Manifest := ⟨[], by simp, by simp⟩

instance : Inhabited Manifest := ⟨empty⟩

def get? (manifest : Manifest) (id : TypeId) : Option TypeDef :=
  manifest.types.find? fun definition => definition.id = id

def defines (manifest : Manifest) (id : TypeId) : Bool :=
  (manifest.types.map TypeDef.id).contains id

/-- The first name that repeats an earlier one; `seen` holds the earlier ones. -/
def firstRepeat (seen : List String) : List String → Option String
  | [] => none
  | name :: rest =>
      if seen.contains name then some name else firstRepeat (name :: seen) rest

def insert (manifest : Manifest) (definition : TypeDef) : Except ManifestFault Manifest :=
  if known : definition.id ∈ manifest.types.map TypeDef.id then
    .error (.typeTwice definition.id)
  else if unique : definition.fieldNames.Nodup then
    .ok
      { types := manifest.types ++ [definition]
        distinct := by
          have apart : ∀ id ∈ manifest.types.map TypeDef.id, id ≠ definition.id :=
            fun id member equal => known (equal ▸ member)
          simp only [List.map_append, List.map_cons, List.map_nil, List.nodup_append]
          refine ⟨manifest.distinct, by simp, ?_⟩
          intro id member other last
          simp only [List.mem_singleton] at last
          exact last ▸ apart id member
        fieldsDistinct := by
          intro other member
          rcases List.mem_append.mp member with earlier | last
          · exact manifest.fieldsDistinct other earlier
          · simp only [List.mem_singleton] at last
            exact last ▸ unique }
  else
    .error (.fieldTwice definition.id ((firstRepeat [] definition.fieldNames).getD ""))

/-- Adds types in order up to the first that cannot join; what was added stays. -/
def insertAll (manifest : Manifest) : List TypeDef → Manifest × Option ManifestFault
  | [] => (manifest, none)
  | definition :: rest =>
      match manifest.insert definition with
      | .ok next => next.insertAll rest
      | .error fault => (manifest, some fault)

def ofTypes (types : List TypeDef) : Except ManifestFault Manifest :=
  match empty.insertAll types with
  | (manifest, none) => .ok manifest
  | (_, some fault) => .error fault

/-- Adds the types of another manifest; what was added before a failure stays. -/
def merge (manifest other : Manifest) : Manifest × Option ManifestFault :=
  manifest.insertAll other.types

/-- A reference that no type of the manifest answers. -/
structure Dangling where
  owner : TypeId
  field : String
  missing : TypeId
deriving DecidableEq, Repr

/-- The dangling reference of a field, if it has one. -/
def dangling? (manifest : Manifest) (owner : TypeId) (field : FieldDef) : Option Dangling :=
  match field.shape.reference? with
  | some id => if manifest.defines id then none else some ⟨owner, field.name, id⟩
  | none => none

/-- The first dangling reference in the order of types and fields. -/
def firstDangling? (manifest : Manifest) : Option Dangling :=
  manifest.types.findSome? fun definition =>
    definition.fields.findSome? fun field => manifest.dangling? definition.id field

end Manifest

end BlockSchema
