import BlockSchema.Building
import BlockSchema.Graph.Outline

/-!
Contract: building the nodes of a type and of everything it nests.

Each type is built once in a run. A type whose building is under way may not come up
again below itself; `stack` lists those types, outermost first. Every step down adds a
type of the manifest that was not on the stack before, so the walk ends.
-/

set_option autoImplicit false

namespace BlockSchema

abbrev Walk (α : Type) := Building CompileError (List TypeNode) α

section Resolution

variable {σ : Type}

/-- The target of a field, with the node of its type built by `visit`. -/
def Target.resolve (visit : TypeId → Building CompileError σ TypeNode) :
    Target TypeId → Building CompileError σ (Target TypeNode)
  | .scalar type => Building.pure (.scalar type)
  | .struct id => (visit id).bind fun node => Building.pure (.struct node)

def FieldNode.resolve
    (visit : TypeId → Building CompileError σ TypeNode)
    (field : FieldNode TypeId) :
    Building CompileError σ (FieldNode TypeNode) :=
  (field.shape.target.resolve visit).bind fun target =>
    Building.pure (field.withShape ⟨field.shape.arity, target⟩)

/-- The node of a type, once its fields are known. -/
def TypeDef.node
    (definition : TypeDef)
    (registry : Registry)
    (fields : List (FieldNode TypeNode)) :
    TypeNode :=
  let table := registry.table definition.id
  { id := definition.id
    description := definition.description
    version := table.version
    noSchema := table.noSchema
    doc := table.doc
    registered := registry.registers definition.id
    fields := fields
    excluded := Outline.excluded definition table }

/-- The outline of a type under the tables of a registry. -/
def TypeDef.outline (definition : TypeDef) (registry : Registry) : Outline :=
  Outline.ofType definition (registry.table definition.id)

/-- The node of a type, once the nodes that it nests can be built by `visit`. -/
def TypeDef.resolve
    (definition : TypeDef)
    (registry : Registry)
    (visit : TypeId → Building CompileError σ TypeNode) :
    Building CompileError σ TypeNode :=
  (Building.each (FieldNode.resolve visit) (definition.outline registry).fields).bind
    fun fields =>
      match (definition.outline registry).fault? with
      | some error => Building.fail error
      | none => Building.pure (definition.node registry fields)

end Resolution

/-- The types of the manifest that are not on a stack. -/
def Manifest.free (manifest : Manifest) (stack : List TypeId) : List TypeDef :=
  manifest.types.filter fun definition => definition.id ∉ stack

/-- The part of a stack from a type on, closed by that type. -/
def cycleFrom (stack : List TypeId) (id : TypeId) : List TypeId :=
  (stack.dropWhile fun other => other ≠ id) ++ [id]

private theorem length_filter_lt_length_filter
    {α : Type}
    (narrow wide : α → Bool)
    (items : List α)
    (narrower : ∀ item ∈ items, narrow item = true → wide item = true)
    (witness : α)
    (member : witness ∈ items)
    (isWide : wide witness = true)
    (isNotNarrow : narrow witness = false) :
    (items.filter narrow).length < (items.filter wide).length := by
  have sublist : (items.filter narrow).Sublist (items.filter wide) := by
    have same : items.filter narrow = (items.filter wide).filter narrow := by
      rw [List.filter_filter]
      apply List.filter_congr
      intro item itemMember
      by_cases holds : narrow item = true
      · simp [holds, narrower item itemMember holds]
      · simp [holds]
    rw [same]
    exact List.filter_sublist
  rcases Nat.lt_or_ge (items.filter narrow).length (items.filter wide).length with less | more
  · exact less
  · have equal := sublist.eq_of_length (Nat.le_antisymm sublist.length_le more)
    have inside : witness ∈ items.filter wide := List.mem_filter.mpr ⟨member, isWide⟩
    rw [← equal] at inside
    have holds := (List.mem_filter.mp inside).2
    rw [isNotNarrow] at holds
    cases holds

/-- A step down to a type of the manifest leaves fewer types free. -/
theorem Manifest.free_length_lt
    {manifest : Manifest}
    {stack : List TypeId}
    {id : TypeId}
    {definition : TypeDef}
    (outside : id ∉ stack)
    (found : manifest.get? id = some definition) :
    (manifest.free (stack ++ [id])).length < (manifest.free stack).length := by
  have member : definition ∈ manifest.types := List.mem_of_find?_eq_some found
  have named : definition.id = id := by
    have holds := List.find?_some found
    simpa using holds
  apply length_filter_lt_length_filter _ _ _ _ definition member
  · simpa [named] using outside
  · simp [named]
  · intro item _ holds
    simp only [List.mem_append, List.mem_singleton, decide_eq_true_eq, not_or] at holds
    simpa using holds.1

/-- Builds the node of a type below the types on a stack. -/
def walk
    (manifest : Manifest)
    (registry : Registry)
    (stack : List TypeId)
    (id : TypeId) :
    Walk TypeNode :=
  Building.once (fun node => node.id == id)
    (if inside : id ∈ stack then
      Building.fail (.unsupportedShape (.type id) (.nestsItself (cycleFrom stack id)))
    else
      match found : manifest.get? id with
      | none => Building.fail (.unsupportedShape (.type id) .undefinedType)
      | some definition =>
          have := Manifest.free_length_lt inside found
          definition.resolve registry (walk manifest registry (stack ++ [id])))
termination_by (manifest.free stack).length

/-- Builds the nodes of types and of everything they nest. -/
def walkAll (manifest : Manifest) (registry : Registry) (ids : List TypeId) :
    Walk (List TypeNode) :=
  Building.each (walk manifest registry []) ids

end BlockSchema
