import BlockSchema.Document.Decode
import BlockSchema.Manifest.Basic

/-!
Contract: record types and manifests as documents.

The encoder leaves out the parts that reading fills in by itself: absent
descriptions, revisions and type names, and empty lists of literals. The decoder
ignores entries it does not know.
-/

set_option autoImplicit false

namespace BlockSchema

/-! ## Encoding -/

/-- The entry of a part that is written only when it is there. -/
def optionalEntry {α : Type} (key : String) (encode : α → Document) :
    Option α → List (String × Document)
  | none => []
  | some value => [(key, encode value)]

def ScalarType.toDocument (type : ScalarType) : Document :=
  .object
    ([("kind", .text type.kind.label)] ++ optionalEntry "alias" .text type.named ++
      (if type.values.isEmpty then [] else [("values", .list (type.values.map .text))]))

/-- A shape as a document with its constructor as the only key. -/
def Shape.toDocument : Shape → Document
  | .scalar type => .object [("scalar", type.toDocument)]
  | .pointer inner => .object [("pointer", inner.toDocument)]
  | .struct id => .object [("struct", .text id.text)]
  | .list element => .object [("list", element.toDocument)]
  | .map element => .object [("map", element.toDocument)]

def revisionDocument (revision : UInt32) : Document :=
  .nat revision.toNat

def FieldDef.toDocument (field : FieldDef) : Document :=
  .object
    ([("name", .text field.name), ("shape", field.shape.toDocument)] ++
      optionalEntry "doc" .text field.description ++
      optionalEntry "since" revisionDocument field.since)

def TypeDef.toDocument (definition : TypeDef) : Document :=
  .object
    ([("name", .text definition.name), ("package", .text definition.package)] ++
      optionalEntry "doc" .text definition.description ++
      [("fields", .list (definition.fields.map FieldDef.toDocument))])

def Manifest.toDocument (manifest : Manifest) : Document :=
  .object [("types", .list (manifest.types.map TypeDef.toDocument))]

/-! ## Decoding -/

/-- The kinds by name, in the order in which errors list them. -/
def ScalarKind.all : List ScalarKind := [.string, .int, .bool, .float]

/-- Reads a kind: its name, or an object with the name as its key and nothing in it. -/
def ScalarKind.read (path : Path) (tree : Tree) : Decoded ScalarKind := do
  let choice ← tree.readChoice (ScalarKind.all.map ScalarKind.label) path
  match choice.content with
  | none => pure ()
  | some content =>
      match content with
      | .atom scalar =>
          if scalar.absent? = some true then pure ()
          else content.refuse (path ++ [.field choice.name]) "unit"
      | _ => content.refuse (path ++ [.field choice.name]) "unit"
  return (ScalarKind.all.find? fun kind => kind.label = choice.name).getD .string

def ScalarType.record : Record ScalarType where
  name := "ScalarType"
  strict := false
  start := .plain .string
  fields :=
    [⟨"kind", false, fun path tree type => do
        return { type with kind := ← ScalarKind.read path tree }⟩,
     ⟨"alias", true, fun path tree type => do
        return { type with named := ← Tree.readOptional Tree.readText path tree }⟩,
     ⟨"values", true, fun path tree type => do
        return { type with values := ← Tree.readList Tree.readText path tree }⟩]

/-- The constructors of shapes by name, in the order in which errors list them. -/
def Shape.names : List String := ["scalar", "pointer", "struct", "list", "map"]

mutual

def Shape.read (path : Path) : Tree → Decoded Shape
  | .atom atom => do
      let choice ← (Tree.atom atom).readChoice Shape.names path
      .error (.misfit (path ++ [.field choice.name]) (path ++ [.field choice.name])
        (.wrongType .bareVariant "newtype variant"))
  | .object [entry] _ => Shape.readEntry path entry
  | tree => do
      let choice ← tree.readChoice Shape.names path
      .error (.misfit path path (.unknownVariant choice.name Shape.names))

/-- Reads a shape from the only entry of an object. -/
def Shape.readEntry (path : Path) : Key × Tree → Decoded Shape
  | (.text name, content) =>
      match name with
      | "scalar" => do
          return .scalar (← ScalarType.record.read .document (path ++ [.field name]) content)
      | "pointer" => do return .pointer (← Shape.read (path ++ [.field name]) content)
      | "struct" => do return .struct ⟨← content.readText (path ++ [.field name])⟩
      | "list" => do return .list (← Shape.read (path ++ [.field name]) content)
      | "map" => do return .map (← Shape.read (path ++ [.field name]) content)
      | _ => .error (.misfit path path (.unknownVariant name Shape.names))
  | _ => .error (.misfit path path (.wrongValue .object "map with a single key"))

end

def FieldDef.record : Record FieldDef where
  name := "FieldDef"
  strict := false
  start := ⟨"", .scalar (.plain .string), none, none⟩
  fields :=
    [⟨"name", false, fun path tree field => do
        return { field with name := ← tree.readText path }⟩,
     ⟨"shape", false, fun path tree field => do
        return { field with shape := ← Shape.read path tree }⟩,
     ⟨"doc", true, fun path tree field => do
        return { field with description := ← Tree.readOptional Tree.readText path tree }⟩,
     ⟨"since", true, fun path tree field => do
        return { field with
          since := ← Tree.readOptional (Tree.readRevision .document) path tree }⟩]

def TypeDef.record : Record TypeDef where
  name := "TypeDef"
  strict := false
  start := ⟨"", "", none, []⟩
  fields :=
    [⟨"name", false, fun path tree definition => do
        return { definition with name := ← tree.readText path }⟩,
     ⟨"package", false, fun path tree definition => do
        return { definition with package := ← tree.readText path }⟩,
     ⟨"doc", true, fun path tree definition => do
        return { definition with description := ← Tree.readOptional Tree.readText path tree }⟩,
     ⟨"fields", true, fun path tree definition => do
        return { definition with
          fields := ← Tree.readList (FieldDef.record.read .document) path tree }⟩]

/-- The record format of manifest documents, whose only field lists the types. -/
def Manifest.record : Record (List TypeDef) where
  name := "ManifestDocument"
  strict := false
  start := []
  fields :=
    [⟨"types", false, fun path tree _ =>
        Tree.readList (TypeDef.record.read .document) path tree⟩]

def TypeDef.ofDocument? (document : Document) : Decoded TypeDef :=
  TypeDef.record.read .document [] document.toTree

/-- Why a document is no manifest. -/
inductive ManifestError where
  | malformed (error : DecodeError)
  | fault (fault : ManifestFault)
deriving DecidableEq, Repr

def Manifest.ofDocument? (document : Document) : Except ManifestError Manifest :=
  match Manifest.record.read .document [] document.toTree with
  | .error error => .error (.malformed error)
  | .ok types =>
      match Manifest.ofTypes types with
      | .error fault => .error (.fault fault)
      | .ok manifest => .ok manifest

end BlockSchema
