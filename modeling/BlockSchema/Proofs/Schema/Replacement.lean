import BlockSchema.Page.Basic
import BlockSchema.Proofs.Graph.Replacement
import BlockSchema.Proofs.Schema.Nesting

/-!
Contract: schemas of nodes in which another node was put, and the sections that show them.

A schema embeds schemas as its node embeds nodes. A section shows the elements of one schema
and names the types that they hold, so it shows nothing of what is replaced inside them.
-/

set_option autoImplicit false

namespace BlockSchema

/-! ## Elements with other schemas inside -/

/-- The same kind over what stands for nested types elsewhere. -/
def ElementKind.mapNested {σ τ : Type} (change : σ → τ) : ElementKind σ → ElementKind τ
  | .scalar kind oneOf => .scalar kind oneOf
  | .list element => .list element
  | .map element => .map element
  | .block limit schema => .block limit (change schema)
  | .blockList schema => .blockList (change schema)
  | .blockMap schema => .blockMap (change schema)

@[simp] theorem ElementKind.nested?_mapNested
    {σ τ : Type}
    (change : σ → τ)
    (kind : ElementKind σ) :
    (kind.mapNested change).nested? = kind.nested?.map change := by
  cases kind <;> rfl

@[simp] theorem ElementKind.label_mapNested
    {σ τ : Type}
    (change : σ → τ)
    (kind : ElementKind σ) :
    (kind.mapNested change).label = kind.label := by
  cases kind <;> rfl

/-- The element with its nested schema changed. -/
def SchemaElement.withNested
    (change : Schema → Schema)
    (element : SchemaElement Schema) :
    SchemaElement Schema :=
  { element with kind := element.kind.mapNested change }

/-- Changing the schema in a shape changes it in the element, and nothing else there. -/
theorem SchemaElement.ofField_withShape
    (readOnly : Bool)
    (field : FieldNode Schema)
    (change : Schema → Schema) :
    ofField readOnly (field.withShape (field.shape.map change)) =
      (ofField readOnly field).withNested change := by
  obtain ⟨declared, external, ⟨arity, target⟩, effects, version, description⟩ := field
  cases arity <;> cases target <;> rfl

namespace Schema

/-- The schema without an element. -/
def without (name : String) (schema : Schema) : Schema :=
  { schema with elements := schema.elements.filter fun element => element.name ≠ name }

mutual

/-- The schema with another one in place of the schema of that one's type, at any depth. -/
def replacing : Schema → Schema → Schema
  | ⟨typeId, version, elements⟩, new =>
      if typeId = new.typeId then new else ⟨typeId, version, replacingElements elements new⟩

def replacingElements : List (SchemaElement Schema) → Schema → List (SchemaElement Schema)
  | [], _ => []
  | ⟨name, kind, optionality, nullable, sensitive, forceNew, default, version,
      description⟩ :: rest, new =>
      ⟨name, replacingKind kind new, optionality, nullable, sensitive, forceNew, default, version,
        description⟩ :: replacingElements rest new

def replacingKind : ElementKind Schema → Schema → ElementKind Schema
  | .scalar kind oneOf, _ => .scalar kind oneOf
  | .list element, _ => .list element
  | .map element, _ => .map element
  | .block limit schema, new => .block limit (replacing schema new)
  | .blockList schema, new => .blockList (replacing schema new)
  | .blockMap schema, new => .blockMap (replacing schema new)

end

variable {schema new : Schema}

private theorem replacing_of_typeId_eq (same : schema.typeId = new.typeId) :
    schema.replacing new = new := by
  cases schema with
  | mk => rw [replacing, if_pos same]

private theorem replacing_of_typeId_ne (apart : schema.typeId ≠ new.typeId) :
    schema.replacing new =
      { schema with
        elements := schema.elements.map (.withNested fun nested => nested.replacing new) } := by
  have kind : ∀ kind, replacingKind kind new =
      kind.mapNested fun nested => nested.replacing new := by
    intro kind
    cases kind <;> rfl
  have elements : ∀ elements, replacingElements elements new =
      elements.map (.withNested fun nested => nested.replacing new) := by
    intro elements
    induction elements with
    | nil => rfl
    | cons element rest inductionHypothesis =>
        rw [replacingElements, inductionHypothesis, kind]
        rfl
  cases schema with
  | mk => rw [replacing, if_neg apart, elements]

@[simp] theorem replacing_typeId (schema new : Schema) :
    (schema.replacing new).typeId = schema.typeId := by
  by_cases same : schema.typeId = new.typeId
  · rw [replacing_of_typeId_eq same, same]
  · rw [replacing_of_typeId_ne same]

end Schema

/-! ## Schemas of nodes -/

namespace TypeNode

/-- A field of a node that is told apart from the others by either of its names. -/
structure Lists (node : TypeNode) (field : FieldNode TypeNode) : Prop where
  member : field ∈ node.fields
  declared : (node.fields.map FieldNode.declared).Nodup
  external : (node.fields.map FieldNode.external).Nodup

/-- The schema of a node without a field is that of the node without the field's element. -/
theorem schema_without
    {node : TypeNode}
    {field : FieldNode TypeNode}
    (lists : node.Lists field)
    (definition : TypeDef)
    (readOnly : Bool) :
    (node.without definition field.declared).schema readOnly =
      (node.schema readOnly).without field.external := by
  rw [schema_eq, schema_eq, Schema.without, List.filter_map]
  refine congrArg (Schema.mk node.id node.version) (congrArg (List.map _) ?_)
  refine List.filter_congr fun other isOther => decide_eq_decide.mpr (not_congr ⟨?_, ?_⟩)
  · intro sameDeclared
    rw [List.inj_on_of_nodup_map lists.declared isOther lists.member sameDeclared]
    rfl
  · intro sameExternal
    rw [List.inj_on_of_nodup_map lists.external isOther lists.member sameExternal]

/-- With another node put in a node, its schema has that one's schema put in. -/
theorem schema_replacing (readOnly : Bool) (node new : TypeNode) :
    (node.replacing new).schema readOnly =
      (node.schema readOnly).replacing (new.schema readOnly) := by
  induction node using TypeNode.induction with
  | step node inductionHypothesis =>
      by_cases same : node.id = new.id
      · rw [replacing_of_id_eq same, Schema.replacing_of_typeId_eq (by simp [same])]
      · rw [replacing_of_id_ne same, Schema.replacing_of_typeId_ne (by simp [same]),
          schema_eq, schema_eq, Schema.mk.injEq, List.map_map, List.map_map]
        refine ⟨rfl, rfl, List.map_congr_left fun field member => ?_⟩
        have sameShape :
            (field.shape.map fun inner => inner.replacing new).map (schema readOnly) =
              (field.shape.map (schema readOnly)).map fun nested =>
                nested.replacing (new.schema readOnly) := by
          rw [FieldShape.map_map, FieldShape.map_map]
          exact FieldShape.map_congr fun inner isNested =>
            inductionHypothesis inner (mem_nested.mpr ⟨field, member, isNested⟩)
        have changed := SchemaElement.ofField_withShape readOnly
          (field.withShape (field.shape.map (schema readOnly))) fun nested =>
            nested.replacing (new.schema readOnly)
        refine Eq.trans ?_ changed
        exact congrArg (fun shape => SchemaElement.ofField readOnly (field.withShape shape))
          sameShape

end TypeNode

/-! ## Sections -/

namespace DocSection

/-- The section without a record. -/
def without (name : String) (docSection : DocSection) : DocSection :=
  { docSection with records := docSection.records.filter fun record => record.name ≠ name }

theorem ofSchema_without (name : String) (schema : Schema) :
    ofSchema (schema.without name) = (ofSchema schema).without name := by
  rw [ofSchema, ofSchema, without, Schema.without, List.filter_map]
  rfl

/-- The section of another type shows what it showed. -/
theorem ofSchema_replacing {schema new : Schema} (apart : schema.typeId ≠ new.typeId) :
    ofSchema (schema.replacing new) = ofSchema schema := by
  have sameRecord : ∀ element : SchemaElement Schema,
      DocRecord.ofElement (element.withNested fun nested => nested.replacing new) =
        DocRecord.ofElement element := by
    intro element
    simp [DocRecord.ofElement, SchemaElement.withNested, Function.comp_def]
  rw [Schema.replacing_of_typeId_ne apart, ofSchema, ofSchema, List.map_map]
  exact congrArg (DocSection.mk schema.typeId)
    (List.map_congr_left fun element _ => sameRecord element)

/-- The section of one type without a record, and that of any other type. -/
def withoutOf (type : TypeId) (name : String) (docSection : DocSection) : DocSection :=
  if docSection.typeId = type then docSection.without name else docSection

/-- With a field left out of one node, the section of that node loses a record and that of
another one is as it was. -/
theorem ofSchema_withoutOf
    {node own : TypeNode}
    (isOwn : node.id = own.id → node = own)
    {field : FieldNode TypeNode}
    (lists : own.Lists field)
    (definition : TypeDef)
    (readOnly : Bool) :
    ofSchema ((node.replacing (own.without definition field.declared)).schema readOnly) =
      (ofSchema (node.schema readOnly)).withoutOf own.id field.external := by
  have typed : (ofSchema (node.schema readOnly)).typeId = node.id := node.schema_typeId readOnly
  by_cases same : node.id = own.id
  · obtain rfl := isOwn same
    rw [withoutOf, if_pos typed, TypeNode.replacing_without_self, TypeNode.schema_without lists,
      ofSchema_without]
  · have apart : (node.schema readOnly).typeId ≠
        ((own.without definition field.declared).schema readOnly).typeId := by
      rw [TypeNode.schema_typeId, TypeNode.schema_typeId]
      exact same
    rw [withoutOf, if_neg (typed ▸ same), TypeNode.schema_replacing, ofSchema_replacing apart]

end DocSection

end BlockSchema
