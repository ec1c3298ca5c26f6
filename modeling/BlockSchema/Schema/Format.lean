import BlockSchema.Document.Json.Writer
import BlockSchema.Manifest.Format
import BlockSchema.Schema.Basic

/-!
Contract: schemas as documents and as the text of schema files.

An element's entries stand in a fixed order. Flags that are not set, a revision of
zero, and parts that are absent are left out. Nested schemas stand inline.
-/

set_option autoImplicit false

namespace BlockSchema

/-- The mark at the top of every file that is written. -/
def generatedMarker : String := "generated by schemac, do not edit"

def Optionality.label : Optionality → String
  | .required => "required"
  | .optional => "optional"
  | .computed => "computed"
  | .optionalComputed => "optional_computed"

def Scalar.toDocument : Scalar → Document
  | .bool value => .bool value
  | .int value => .number (.int value.toInt)
  | .float value => .number (.real value)
  | .string value => .text value

def flagEntry (key : String) (isSet : Bool) : List (String × Document) :=
  if isSet then [(key, .bool true)] else []

def revisionEntry (version : UInt32) : List (String × Document) :=
  if version = 0 then [] else [("version", revisionDocument version)]

/-- The entry of a list of literals that is not empty. -/
def oneOfEntry (values : List String) : List (String × Document) :=
  if values.isEmpty then [] else [("one_of", .list (values.map .text))]

/-- The entries that say what an element holds; nested schemas are documents already. -/
def ElementKind.entries : ElementKind Document → List (String × Document)
  | .scalar kind oneOf =>
      [("type", .text "scalar"), ("kind", .text kind.label)] ++ oneOfEntry oneOf
  | .list element => [("type", .text "list"), ("elem", .text element.label)]
  | .map element => [("type", .text "map"), ("elem", .text element.label)]
  | .block limit schema =>
      [("type", .text "block"), ("max_items", .nat limit), ("schema", schema)]
  | .blockList schema => [("type", .text "block_list"), ("schema", schema)]
  | .blockMap schema => [("type", .text "block_map"), ("schema", schema)]

def SchemaElement.toDocument (element : SchemaElement Document) : Document :=
  .object
    ([("name", .text element.name)] ++ element.kind.entries ++
      [("optionality", .text element.optionality.label)] ++
      flagEntry "nullable" element.nullable ++
      flagEntry "sensitive" element.sensitive ++
      flagEntry "force_new" element.forceNew ++
      optionalEntry "default" Scalar.toDocument element.default ++
      revisionEntry element.version ++
      optionalEntry "description" .text element.description)

mutual

def Schema.entries : Schema → List (String × Document)
  | ⟨typeId, version, elements⟩ =>
      [("type_id", .text typeId.text), ("version", revisionDocument version),
        ("elements", .list (Schema.elementDocuments elements))]

def Schema.elementDocuments : List (SchemaElement Schema) → List Document
  | [] => []
  | ⟨name, kind, optionality, nullable, sensitive, forceNew, default, version, description⟩ ::
      rest =>
      SchemaElement.toDocument
          ⟨name, Schema.kindDocuments kind, optionality, nullable, sensitive, forceNew, default,
            version, description⟩ ::
        Schema.elementDocuments rest

/-- What an element holds, over the document of the nested schema. -/
def Schema.kindDocuments : ElementKind Schema → ElementKind Document
  | .scalar kind oneOf => .scalar kind oneOf
  | .list element => .list element
  | .map element => .map element
  | .block limit schema => .block limit (.object (Schema.entries schema))
  | .blockList schema => .blockList (.object (Schema.entries schema))
  | .blockMap schema => .blockMap (.object (Schema.entries schema))

end

def Schema.toDocument (group : String) (schema : Schema) : Document :=
  .object ([("$comment", .text generatedMarker), ("group", .text group)] ++ schema.entries)

def Schema.render (group : String) (schema : Schema) : String :=
  Json.pretty (schema.toDocument group) ++ "\n"

end BlockSchema
