import BlockSchema.Proofs.Graph.Reach

/-!
Contract: one node put in the place of another one, wherever that is embedded.

A node holds copies of the nodes that it nests, so a change to the node of one type shows in
every node around it, and in no other one. `TypeNode.replacing` says what it looks like there.
-/

set_option autoImplicit false

namespace BlockSchema

/-! ## Fields with other nodes inside -/

section Changes

variable {change : TypeNode → TypeNode}

private theorem Target.eq_map
    {target other : Target TypeNode}
    (sameType : other.map TypeNode.id = target.map TypeNode.id)
    (changed : ∀ inner, target.nested? = some inner → ∀ found, other.nested? = some found →
      found.id = inner.id → found = change inner) :
    other = target.map change := by
  cases target with
  | scalar type =>
      cases other with
      | scalar _ => exact congrArg Target.scalar (Target.scalar.inj sameType)
      | struct _ => cases sameType
  | struct inner =>
      cases other with
      | scalar _ => cases sameType
      | struct found =>
          have sameId : found.id = inner.id := Target.struct.inj sameType
          exact congrArg Target.struct (changed inner rfl found rfl sameId)

namespace FieldNode

variable {field other : FieldNode TypeNode}

/-- A field that says the same by itself is the field with its nested node changed, when it
nests the changed node. -/
theorem eq_withShape
    (sameOutline : other.outline = field.outline)
    (changed : ∀ inner, field.shape.nested? = some inner → ∀ found,
      other.shape.nested? = some found → found.id = inner.id → found = change inner) :
    other = field.withShape (field.shape.map change) := by
  obtain ⟨declared, external, ⟨arity, target⟩, effects, version, description⟩ := other
  obtain ⟨rfl, rfl, sameShape, rfl, rfl, rfl⟩ := FieldNode.mk.inj sameOutline
  obtain ⟨rfl, sameTarget⟩ := FieldShape.mk.inj sameShape
  obtain rfl : target = field.shape.target.map change := Target.eq_map sameTarget changed
  rfl

private theorem withShape_eq_self
    (unchanged : ∀ inner, field.shape.nested? = some inner → change inner = inner) :
    field.withShape (field.shape.map change) = field := by
  rw [FieldShape.map_congr unchanged, FieldShape.map_id]
  rfl

/-- Fields that say by themselves what other fields say are those fields with their nested
nodes changed, when they nest the changed nodes. -/
theorem map_withShape
    {fields others : List (FieldNode TypeNode)}
    (sameOutlines : others.map outline = fields.map outline)
    (changed : ∀ field ∈ fields, ∀ inner, field.shape.nested? = some inner →
      ∀ other ∈ others, ∀ found, other.shape.nested? = some found → found.id = inner.id →
        found = change inner) :
    others = fields.map fun field => field.withShape (field.shape.map change) := by
  induction fields generalizing others with
  | nil => exact List.map_eq_nil_iff.mp sameOutlines
  | cons field rest inductionHypothesis =>
      obtain ⟨other, later, rfl, sameOutline, sameLater⟩ := List.map_eq_cons_iff.mp sameOutlines
      have isHead := eq_withShape sameOutline fun inner isNested found =>
        changed field List.mem_cons_self inner isNested other List.mem_cons_self found
      have isRest := inductionHypothesis sameLater fun field member inner isNested other isOther =>
        changed field (List.mem_cons_of_mem _ member) inner isNested other
          (List.mem_cons_of_mem _ isOther)
      rw [List.map_cons, ← isHead, ← isRest]

/-- Fields that say by themselves what other fields say are those fields, when they nest the
same nodes. -/
theorem eq_of_outlines
    {fields others : List (FieldNode TypeNode)}
    (sameOutlines : others.map outline = fields.map outline)
    (unchanged : ∀ field ∈ fields, ∀ inner, field.shape.nested? = some inner →
      ∀ other ∈ others, ∀ found, other.shape.nested? = some found → found.id = inner.id →
        found = inner) :
    others = fields := by
  have sameShapes : ∀ field ∈ fields,
      field.withShape (field.shape.map fun inner => inner) = field :=
    fun field _ => field.withShape_eq_self fun _ _ => rfl
  rw [map_withShape sameOutlines unchanged, List.map_congr_left sameShapes, List.map_id']

end FieldNode

end Changes

/-! ## Nodes with another node inside -/

/-- Some declared names and one more, in the order in which the fields are declared. -/
def TypeDef.insertName (definition : TypeDef) (name : String) (names : List String) :
    List String :=
  definition.fieldNames.filter fun other => other = name || names.contains other

namespace TypeNode

/-- The node without a field, which it lists as excluded in its place among the declared
fields. -/
def without (definition : TypeDef) (name : String) (node : TypeNode) : TypeNode :=
  { node with
    fields := node.fields.filter fun field => field.declared ≠ name
    excluded := definition.insertName name node.excluded }

/-- The node with another one in place of the node of that one's type, at any depth. -/
def replacing (node new : TypeNode) : TypeNode :=
  node.fold fun node fields => if node.id = new.id then new else { node with fields := fields }

variable {node new : TypeNode}

theorem replacing_of_id_eq (same : node.id = new.id) : node.replacing new = new := by
  rw [replacing, fold_eq, if_pos same]

theorem replacing_of_id_ne (apart : node.id ≠ new.id) :
    node.replacing new =
      { node with
        fields := node.fields.map fun field =>
          field.withShape (field.shape.map fun inner => inner.replacing new) } := by
  rw [replacing, fold_eq, if_neg apart]
  rfl

@[simp] theorem replacing_id (node new : TypeNode) : (node.replacing new).id = node.id := by
  by_cases same : node.id = new.id
  · rw [replacing_of_id_eq same, same]
  · rw [replacing_of_id_ne same]

theorem replacing_without_self (definition : TypeDef) (name : String) (node : TypeNode) :
    node.replacing (node.without definition name) = node.without definition name :=
  replacing_of_id_eq rfl

end TypeNode

/-- Among built nodes, nothing is replaced by a node of another type. -/
theorem WellBuilt.replacing_eq_self
    {manifest : Manifest}
    {registry : Registry}
    {nodes : List TypeNode}
    (built : WellBuilt manifest registry nodes)
    {new : TypeNode}
    (absent : new.id ∉ nodes.map TypeNode.id)
    {node : TypeNode}
    (member : node ∈ nodes) :
    node.replacing new = node := by
  induction node using TypeNode.induction with
  | step node inductionHypothesis =>
      have apart : node.id ≠ new.id := fun same => absent (same ▸ List.mem_map_of_mem member)
      have unchanged : ∀ field ∈ node.fields,
          field.withShape (field.shape.map fun inner => inner.replacing new) = field := by
        intro field isField
        refine field.withShape_eq_self fun inner isNested => ?_
        have nests := TypeNode.mem_nested.mpr ⟨field, isField, isNested⟩
        exact inductionHypothesis inner nests (built.nested_mem member nests)
      rw [TypeNode.replacing_of_id_ne apart, List.map_congr_left unchanged, List.map_id']
      cases node
      rfl

end BlockSchema
