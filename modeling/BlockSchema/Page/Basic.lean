import BlockSchema.Schema.Basic

/-!
Contract: doc pages, which show a schema to its users.

A page has a section for its root and one for every type nested in it, each type once,
in the order in which a reader going down from the root first meets them. A section
has a record for every element of its schema.
-/

set_option autoImplicit false

namespace BlockSchema

/-- One element on a page. -/
structure DocRecord where
  name : String
  optionality : Optionality
  sensitive : Bool
  forceNew : Bool
  /-- A short name of what the element holds. -/
  kind : String
  description : Option String
  /-- The type in whose section the reader finds more. -/
  nested : Option TypeId
deriving DecidableEq, Repr

/-- The elements of one type on a page. -/
structure DocSection where
  typeId : TypeId
  records : List DocRecord
deriving DecidableEq, Repr

/-- The page of a root. -/
structure DocPage where
  wrapper : DocWrapper
  root : DocSection
  nested : List DocSection
deriving DecidableEq, Repr

def DocRecord.ofElement (element : SchemaElement Schema) : DocRecord where
  name := element.name
  optionality := element.optionality
  sensitive := element.sensitive
  forceNew := element.forceNew
  kind := element.kind.label
  description := element.description
  nested := element.kind.nested?.map Schema.typeId

def DocSection.ofSchema (schema : Schema) : DocSection :=
  ⟨schema.typeId, schema.elements.map DocRecord.ofElement⟩

def DocSection.covers (sections : List DocSection) (id : TypeId) : Bool :=
  sections.any fun known => known.typeId == id

mutual

/-- Adds the sections of a schema and of the types nested in it, unless it has one. -/
def DocSection.collect (root : TypeId) : Schema → List DocSection → List DocSection
  | ⟨typeId, version, elements⟩, found =>
      if typeId = root || DocSection.covers found typeId then found
      else
        DocSection.collectElements root elements
          (found ++ [DocSection.ofSchema ⟨typeId, version, elements⟩])

/-- Adds the sections of what elements nest, in order. -/
def DocSection.collectElements (root : TypeId) :
    List (SchemaElement Schema) → List DocSection → List DocSection
  | [], found => found
  | ⟨_, kind, _, _, _, _, _, _, _⟩ :: rest, found =>
      DocSection.collectElements root rest (DocSection.collectKind root kind found)

/-- Adds the sections of what one element nests. -/
def DocSection.collectKind (root : TypeId) :
    ElementKind Schema → List DocSection → List DocSection
  | .scalar _ _, found | .list _, found | .map _, found => found
  | .block _ schema, found | .blockList schema, found | .blockMap schema, found =>
      DocSection.collect root schema found

end

def DocPage.ofSchema (schema : Schema) (wrapper : DocWrapper) : DocPage where
  wrapper := wrapper
  root := .ofSchema schema
  nested := DocSection.collectElements schema.typeId schema.elements []

/-- How the value of an element comes about, with the modifiers that apply. -/
def DocRecord.classLabel (record : DocRecord) : String :=
  (match record.optionality with
    | .required => "Required"
    | .optional => "Optional"
    | .computed => "Computed"
    | .optionalComputed => "Optional, Computed") ++
    (if record.forceNew then ", ForceNew" else "") ++
    (if record.sensitive then ", Sensitive" else "")

end BlockSchema
