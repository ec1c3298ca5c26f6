import BlockSchema.Proofs.Schema.Derivation
import Mathlib.Logic.Relation

/-!
Contract: schemas inside schemas.

An element that holds blocks embeds the schema of their type. Whatever stands inside the
schema of a node, at any depth, is the schema of a node as well.
-/

set_option autoImplicit false

namespace BlockSchema

@[simp] theorem TypeNode.schema_typeId (readOnly : Bool) (node : TypeNode) :
    (node.schema readOnly).typeId = node.id := by
  rw [TypeNode.schema_eq]

/-- An element holds the blocks of the type that its shape nests. -/
@[simp] theorem ElementKind.nested?_ofShape {σ : Type} (shape : FieldShape σ) :
    (ElementKind.ofShape shape).nested? = shape.nested? := by
  obtain ⟨arity, target⟩ := shape
  cases arity <;> cases target <;> rfl

theorem FieldNode.element_nested? (readOnly : Bool) (field : FieldNode TypeNode) :
    (field.element readOnly).kind.nested? =
      field.shape.nested?.map (TypeNode.schema readOnly) := by
  rw [← FieldShape.nested?_map, ← ElementKind.nested?_ofShape]
  rfl

namespace Schema

/-- The schemas that the elements embed, in the order of the elements. -/
def nested (schema : Schema) : List Schema :=
  schema.elements.filterMap fun element => element.kind.nested?

theorem mem_nested {schema inner : Schema} :
    inner ∈ schema.nested ↔ ∃ element ∈ schema.elements, element.kind.nested? = some inner := by
  simp [nested, List.mem_filterMap]

/-- A schema is another one or stands inside it, at any depth. -/
def Within (inner outer : Schema) : Prop :=
  Relation.ReflTransGen (fun nested schema => nested ∈ schema.nested) inner outer

/-- What passes from the embedded schemas to the schema around them holds of every
schema. -/
theorem induction
    {motive : Schema → Prop}
    (step : ∀ schema, (∀ inner ∈ schema.nested, motive inner) → motive schema)
    (schema : Schema) :
    motive schema := by
  refine @Schema.rec
    motive
    (fun elements => ∀ element ∈ elements, ∀ inner,
      element.kind.nested? = some inner → motive inner)
    (fun element => ∀ inner, element.kind.nested? = some inner → motive inner)
    (fun kind => ∀ inner, kind.nested? = some inner → motive inner)
    ?schema ?nil ?cons ?element ?scalar ?list ?map ?block ?blockList ?blockMap schema
  case schema =>
    intro typeId version elements ofElements
    refine step _ fun inner member => ?_
    obtain ⟨element, isElement, found⟩ := mem_nested.mp member
    exact ofElements element isElement inner found
  case nil =>
    intro element member
    cases member
  case cons =>
    intro head tail ofHead ofTail element member
    rcases List.mem_cons.mp member with rfl | later
    · exact ofHead
    · exact ofTail element later
  case element => exact fun _ _ _ _ _ _ _ _ _ ofKind => ofKind
  case scalar => exact fun _ _ _ impossible => by cases impossible
  case list => exact fun _ _ impossible => by cases impossible
  case map => exact fun _ _ impossible => by cases impossible
  case block => exact fun _ schema ofSchema inner found => Option.some.inj found ▸ ofSchema
  case blockList => exact fun schema ofSchema inner found => Option.some.inj found ▸ ofSchema
  case blockMap => exact fun schema ofSchema inner found => Option.some.inj found ▸ ofSchema

end Schema

theorem TypeNode.mem_schema_nested {readOnly : Bool} {node : TypeNode} {inner : Schema} :
    inner ∈ (node.schema readOnly).nested ↔
      ∃ found ∈ node.nested, found.schema readOnly = inner := by
  rw [Schema.mem_nested, schema_eq]
  constructor
  · rintro ⟨_, isElement, isNested⟩
    obtain ⟨field, member, rfl⟩ := List.mem_map.mp isElement
    rw [FieldNode.element_nested?] at isNested
    obtain ⟨found, isFound, derived⟩ := Option.map_eq_some_iff.mp isNested
    exact ⟨found, TypeNode.mem_nested.mpr ⟨field, member, isFound⟩, derived⟩
  · rintro ⟨found, isNested, rfl⟩
    obtain ⟨field, member, isFound⟩ := TypeNode.mem_nested.mp isNested
    refine ⟨field.element readOnly, List.mem_map_of_mem member, ?_⟩
    rw [FieldNode.element_nested?, isFound]
    rfl

/-- What stands inside the schema of a node is the schema of a node. -/
theorem Coherent.node_of_schema_within
    {nodes : List TypeNode}
    (coherent : Coherent nodes)
    {readOnly : Bool}
    {node : TypeNode}
    (member : node ∈ nodes)
    {inner : Schema}
    (within : inner.Within (node.schema readOnly)) :
    ∃ found ∈ nodes, found.schema readOnly = inner := by
  induction within using Relation.ReflTransGen.head_induction_on with
  | refl => exact ⟨node, member, rfl⟩
  | head nests _ inductionHypothesis =>
      obtain ⟨outer, isOuter, rfl⟩ := inductionHypothesis
      obtain ⟨found, isNested, derived⟩ := TypeNode.mem_schema_nested.mp nests
      exact ⟨found, coherent.nested_mem outer isOuter found isNested, derived⟩

end BlockSchema
