import BlockSchema.Graph.Node

/-!
Contract: the nodes that a node nests directly, and reasoning from nested nodes to the
ones around them.

A node holds the nodes of the types that its fields nest, so what is true of a node
whenever it is true of those it nests is true of every node.
-/

set_option autoImplicit false

namespace BlockSchema

section Shapes

variable {ν μ κ : Type}

/-- The same target over what stands for nested types elsewhere. -/
def Target.map (change : ν → μ) : Target ν → Target μ
  | .scalar type => .scalar type
  | .struct nested => .struct (change nested)

/-- The same shape over what stands for nested types elsewhere. -/
def FieldShape.map (change : ν → μ) (shape : FieldShape ν) : FieldShape μ :=
  ⟨shape.arity, shape.target.map change⟩

@[simp] theorem Target.nested?_map (change : ν → μ) (target : Target ν) :
    (target.map change).nested? = target.nested?.map change := by
  cases target <;> rfl

@[simp] theorem FieldShape.nested?_map (change : ν → μ) (shape : FieldShape ν) :
    (shape.map change).nested? = shape.nested?.map change :=
  Target.nested?_map change shape.target

@[simp] theorem FieldShape.map_map
    (first : ν → μ)
    (second : μ → κ)
    (shape : FieldShape ν) :
    (shape.map first).map second = shape.map fun nested => second (first nested) := by
  obtain ⟨arity, target⟩ := shape
  cases target <;> rfl

/-- Changes that agree on what a shape nests change it alike. -/
theorem FieldShape.map_congr
    {first second : ν → μ}
    {shape : FieldShape ν}
    (same : ∀ nested, shape.nested? = some nested → first nested = second nested) :
    shape.map first = shape.map second := by
  obtain ⟨arity, target⟩ := shape
  cases target with
  | scalar type => rfl
  | struct nested => exact congrArg (FieldShape.mk arity ∘ Target.struct) (same nested rfl)

theorem FieldShape.map_id (shape : FieldShape ν) : (shape.map fun nested => nested) = shape := by
  obtain ⟨arity, target⟩ := shape
  cases target <;> rfl

end Shapes

namespace TypeNode

/-- The nodes that the fields of a node nest, in the order of the fields. -/
def nested (node : TypeNode) : List TypeNode :=
  node.fields.filterMap fun field => field.shape.nested?

theorem mem_nested {node inner : TypeNode} :
    inner ∈ node.nested ↔ ∃ field ∈ node.fields, field.shape.nested? = some inner := by
  simp [nested, List.mem_filterMap]

/-- What passes from the nested nodes to the node around them holds of every node. -/
theorem induction
    {motive : TypeNode → Prop}
    (step : ∀ node, (∀ inner ∈ node.nested, motive inner) → motive node)
    (node : TypeNode) :
    motive node := by
  refine @TypeNode.rec
    motive
    (fun fields => ∀ field ∈ fields, ∀ inner, field.shape.nested? = some inner → motive inner)
    (fun field => ∀ inner, field.shape.nested? = some inner → motive inner)
    (fun shape => ∀ inner, shape.nested? = some inner → motive inner)
    (fun target => ∀ inner, target.nested? = some inner → motive inner)
    ?node ?nil ?cons ?field ?shape ?scalar ?struct node
  case node =>
    intro id description version noSchema doc registered fields excluded ofFields
    refine step _ fun inner member => ?_
    obtain ⟨field, fieldMember, found⟩ := mem_nested.mp member
    exact ofFields field fieldMember inner found
  case nil =>
    intro field member
    cases member
  case cons =>
    intro head tail ofHead ofTail field member
    rcases List.mem_cons.mp member with rfl | later
    · exact ofHead
    · exact ofTail field later
  case field => exact fun _ _ _ _ _ _ ofShape => ofShape
  case shape => exact fun _ _ ofTarget => ofTarget
  case scalar => exact fun _ _ impossible => by cases impossible
  case struct =>
    intro nested ofNested inner found
    exact Option.some.inj found ▸ ofNested

mutual

/-- What is computed for a node from its fields, given what is computed for the nodes that
they nest. -/
def fold {ρ : Type} (make : TypeNode → List (FieldNode ρ) → ρ) : TypeNode → ρ
  | ⟨id, description, version, noSchema, doc, registered, fields, excluded⟩ =>
      make ⟨id, description, version, noSchema, doc, registered, fields, excluded⟩
        (foldFields make fields)

/-- The fields with what is computed for the nodes that they nest. -/
def foldFields {ρ : Type} (make : TypeNode → List (FieldNode ρ) → ρ) :
    List (FieldNode TypeNode) → List (FieldNode ρ)
  | [] => []
  | ⟨declared, external, ⟨arity, target⟩, effects, version, description⟩ :: rest =>
      ⟨declared, external, ⟨arity, foldTarget make target⟩, effects, version, description⟩ ::
        foldFields make rest

/-- The target with what is computed for the node in it. -/
def foldTarget {ρ : Type} (make : TypeNode → List (FieldNode ρ) → ρ) :
    Target TypeNode → Target ρ
  | .scalar type => .scalar type
  | .struct nested => .struct (fold make nested)

end

theorem fold_eq {ρ : Type} (make : TypeNode → List (FieldNode ρ) → ρ) (node : TypeNode) :
    node.fold make =
      make node (node.fields.map fun field => field.withShape (field.shape.map (fold make))) := by
  have target : ∀ target, foldTarget make target = target.map (fold make) := by
    intro target
    cases target <;> rfl
  have fields : ∀ fields, foldFields make fields =
      fields.map fun field => field.withShape (field.shape.map (fold make)) := by
    intro fields
    induction fields with
    | nil => rfl
    | cons field rest inductionHypothesis =>
        rw [foldFields, inductionHypothesis, target]
        rfl
  cases node with
  | mk => rw [fold, fields]

end TypeNode

end BlockSchema
