import BlockSchema.Proofs.Graph.Reference

/-!
Contract: where a type that cannot be built goes wrong.

A type fails because it is under way already, because it is not defined, because of a fault of
its own, or because a type that it nests fails below it. So every error comes from one type
that is reached through nested types, and it tells which of these it is.
-/

set_option autoImplicit false

namespace BlockSchema

/-! ## Faults of shapes and outlines -/

/-- The reasons why a shape is refused for what it is made of. -/
def ShapeFault.ofShapes : List ShapeFault :=
  [.pointerToPointer, .pointerToCollection, .collectionOfPointers, .nestedCollection]

theorem Shape.mem_ofShapes
    {shape : Shape}
    {fault : ShapeFault}
    (refused : shape.classify = .error fault) :
    fault ∈ ShapeFault.ofShapes := by
  cases shape with
  | scalar type => cases refused
  | struct id => cases refused
  | pointer inner => cases inner <;> cases refused <;> decide
  | list element | map element => cases element <;> cases refused <;> decide

namespace Outline

variable {id : TypeId} {table : DirectiveTable} {error : CompileError}

/-- A fault of the fields of a type: of an external name, or of a shape. -/
inductive IsFault (id : TypeId) (fields : List FieldDef) : CompileError → Prop where
  | name (issue : ConfigurationIssue) : IsFault id fields (.configuration id issue)
  | shape {field : FieldDef} {fault : ShapeFault}
      (member : field ∈ fields)
      (refused : field.shape.classify = .error fault) :
      IsFault id fields (.unsupportedShape (.field id field.name) fault)

private theorem isFault_of_field?
    {taken : List (String × String)}
    {field : FieldDef}
    {fields : List FieldDef}
    (member : field ∈ fields)
    (faulty : field? id table taken field = .error error) :
    IsFault id fields error := by
  unfold field? at faulty
  dsimp only at faulty
  split at faulty
  next => exact Except.error.inj faulty ▸ .name _
  next =>
    split at faulty
    next => exact Except.error.inj faulty ▸ .name _
    next =>
      split at faulty
      next fault refused => exact Except.error.inj faulty ▸ .shape member refused
      next => cases faulty

/-- The fault of an outline is one of the fields that the table leaves in. -/
theorem isFault_of_fault?
    {taken : List (String × String)}
    {fields left : List FieldDef}
    (among : ∀ field ∈ table.included fields, field ∈ left)
    (faulty : (ofFields id table taken fields).fault? = some error) :
    IsFault id left error := by
  induction fields generalizing taken with
  | nil => cases faulty
  | cons field rest inductionHypothesis =>
      cases leftIn : table.excludes field.name with
      | true =>
          rw [ofFields_of_excluded leftIn] at faulty
          rw [DirectiveTable.included_of_excluded leftIn] at among
          exact inductionHypothesis among faulty
      | false =>
          rw [DirectiveTable.included_of_left_in leftIn] at among
          obtain ⟨member, amongRest⟩ := List.forall_mem_cons.mp among
          cases made : field? id table taken field with
          | error other =>
              rw [ofFields_of_fault leftIn made] at faulty
              exact isFault_of_field? member (Option.some.inj faulty ▸ made)
          | ok node =>
              rw [ofFields_of_field leftIn made] at faulty
              exact inductionHypothesis amongRest faulty

end Outline

/-! ## Failing types -/

variable {manifest : Manifest} {registry : Registry} {stack : List TypeId} {id : TypeId}
  {error : CompileError}

/-- A type cannot be built below the types on a stack, and the error says why. -/
inductive BuildFails (manifest : Manifest) (registry : Registry) :
    List TypeId → TypeId → CompileError → Prop where
  | underWay {stack : List TypeId} {id : TypeId} (inside : id ∈ stack) :
      BuildFails manifest registry stack id
        (.unsupportedShape (.type id) (.nestsItself (cycleFrom stack id)))
  | undefined {stack : List TypeId} {id : TypeId}
      (outside : id ∉ stack)
      (missing : manifest.get? id = none) :
      BuildFails manifest registry stack id (.unsupportedShape (.type id) .undefinedType)
  | own {stack : List TypeId} {id : TypeId} {definition : TypeDef} {error : CompileError}
      (outside : id ∉ stack)
      (found : manifest.get? id = some definition)
      (fault : Outline.IsFault id ((registry.table id).included definition.fields) error) :
      BuildFails manifest registry stack id error
  | nested {stack : List TypeId} {id inner : TypeId} {error : CompileError}
      (outside : id ∉ stack)
      (refers : Refers manifest registry id inner)
      (fails : BuildFails manifest registry (stack ++ [id]) inner error) :
      BuildFails manifest registry stack id error

private theorem FieldNode.resolve_failsOnly
    {σ : Type}
    {visit : TypeId → Building CompileError σ TypeNode}
    {allowed : CompileError → Prop}
    (field : FieldNode TypeId)
    (below : ∀ inner, field.shape.nested? = some inner → (visit inner).FailsOnly allowed) :
    (field.resolve visit).FailsOnly allowed := by
  obtain ⟨declared, external, ⟨arity, target⟩, effects, version, description⟩ := field
  refine .bind ?_ fun target => .pure _
  cases target with
  | scalar type => exact .pure _
  | struct inner => exact .bind (below inner rfl) fun node => .pure _

/-- A walk fails only where a type cannot be built. -/
theorem walk_failsOnly (stack : List TypeId) (id : TypeId) :
    (walk manifest registry stack id).FailsOnly (BuildFails manifest registry stack id) := by
  by_cases inside : id ∈ stack
  · rw [walk_of_mem inside]
    exact .once (.fail (.underWay inside))
  · cases found : manifest.get? id with
    | none =>
        rw [walk_of_undefined inside found]
        exact .once (.fail (.undefined inside found))
    | some definition =>
        have shorter := Manifest.free_length_lt inside found
        rw [walk_of_defined inside found]
        -- The fields before the fault of the type are built first, and each may fail below it.
        refine .once (.bind (.each fun field member => ?_) fun fields => ?_)
        · refine field.resolve_failsOnly fun inner isNested => ?_
          have refers : Refers manifest registry id inner :=
            Nests.refers ⟨definition, found, field, member, isNested⟩
          exact (walk_failsOnly (stack ++ [id]) inner).weaken fun error => .nested inside refers
        · rw [Manifest.outline_of_get? found]
          split
          next error faulty =>
            have fault := Outline.isFault_of_fault? (fun _ member => member) faulty
            exact .fail (.own inside found fault)
          next => exact .pure _
termination_by (manifest.free stack).length

/-- Walks of several types fail only where one of them cannot be built by itself. -/
theorem walkAll_failsOnly (ids : List TypeId) :
    (walkAll manifest registry ids).FailsOnly fun error =>
      ∃ id ∈ ids, BuildFails manifest registry [] id error :=
  .each fun id isAsked => (walk_failsOnly [] id).weaken fun _ fails => ⟨id, isAsked, fails⟩

/-- The error for a type without a definition comes from such a type, which is referred to. -/
theorem BuildFails.exists_undefined
    {site : Site}
    (fails : BuildFails manifest registry stack id error)
    (isUndefined : error = .unsupportedShape site .undefinedType) :
    ∃ type, Relation.ReflTransGen (Refers manifest registry) id type ∧
      manifest.get? type = none := by
  induction fails with
  | underWay => cases isUndefined
  | undefined outside missing => exact ⟨_, .refl, missing⟩
  | own outside found fault =>
      cases fault with
      | name issue => cases isUndefined
      | shape member refused =>
          obtain ⟨-, rfl⟩ := CompileError.unsupportedShape.inj isUndefined
          exact absurd (Shape.mem_ofShapes refused) (by decide)
  | nested outside refers _ inductionHypothesis =>
      obtain ⟨type, path, missing⟩ := inductionHypothesis isUndefined
      exact ⟨type, path.head refers, missing⟩

end BlockSchema
