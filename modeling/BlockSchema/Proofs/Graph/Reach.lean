import BlockSchema.Proofs.Graph.Acceptance

/-!
Contract: which nodes a walk leaves, and in which order.

A walk only visits types that those asked for refer to, so no other type is ever
remembered; and what a remembered type refers to is remembered with it. Every node stands
after the nodes that it nests, and a type is found again by its one node.
-/

set_option autoImplicit false

namespace BlockSchema

/-- A result, when it is a node, is the node of a type. -/
def OfType (id : TypeId) (result : Except CompileError TypeNode) : Prop :=
  ∀ node, result = .ok node → node.id = id

private theorem OfType.error {id : TypeId} (error : CompileError) : OfType id (.error error) :=
  fun _ impossible => by cases impossible

private theorem OfType.ok
    {id : TypeId}
    {node : TypeNode}
    (named : node.id = id) :
    OfType id (.ok node) :=
  fun _ same => Except.ok.inj same ▸ named

section Resolution

variable
  {registry : Registry}
  {invariant : List TypeNode → Prop}
  {visit : TypeId → Walk TypeNode}
  {before : List TypeNode}

private theorem FieldNode.resolve_keeps
    (field : FieldNode TypeId)
    (holds : invariant before)
    (visited : ∀ inner, field.shape.nested? = some inner →
      Building.Keeps invariant before (visit inner before)) :
    Building.Keeps invariant before (field.resolve visit before) := by
  have target : Building.Keeps invariant before (field.shape.target.resolve visit before) := by
    cases held : field.shape.target with
    | scalar type => exact .pure holds
    | struct inner =>
        have isNested : field.shape.nested? = some inner := by
          rw [FieldShape.nested?, held]
          rfl
        exact .bind (visited inner isNested) fun _ _ holdsLater => .pure holdsLater
  exact .bind target fun _ _ holdsLater => .pure holdsLater

/-- Resolving a type keeps what visiting the types that it nests keeps. -/
theorem TypeDef.resolve_keeps
    (definition : TypeDef)
    (holds : invariant before)
    (visited : ∀ field ∈ (definition.outline registry).fields, ∀ inner,
      field.shape.nested? = some inner → ∀ middle, invariant middle →
        Building.Keeps invariant middle (visit inner middle)) :
    Building.Advances invariant before (definition.resolve registry visit before)
      fun result _ => OfType definition.id result := by
  have fields : Building.Keeps invariant before
      (Building.each (FieldNode.resolve visit) (definition.outline registry).fields before) :=
    .each (definition.outline registry).fields
      (fun field member middle holdsMiddle =>
        field.resolve_keeps holdsMiddle fun inner isNested =>
          visited field member inner isNested middle holdsMiddle)
      holds
  refine .bind fields (fun error _ _ => .error error) fun values later holdsLater _ => ?_
  cases (definition.outline registry).fault? with
  | some error => exact .fail holdsLater (.error error)
  | none => exact .pure holdsLater (.ok rfl)

end Resolution

section Graphs

variable {manifest : Manifest} {registry : Registry} {nodes : List TypeNode}

/-! ## No other nodes -/

/-- However the node of a type is made, that type is the only one that is added. -/
theorem once_advances_ofType
    {holdsOf : TypeId → Prop}
    {id : TypeId}
    (holds : holdsOf id)
    {before : List TypeNode}
    (kept : ∀ node ∈ before, holdsOf node.id)
    {make : Walk TypeNode}
    (made : Building.Advances (fun nodes => ∀ node ∈ nodes, holdsOf node.id) before (make before)
      fun result _ => OfType id result) :
    Building.Advances (fun nodes => ∀ node ∈ nodes, holdsOf node.id) before
      (Building.once (fun node => node.id == id) make before) fun result _ =>
        OfType id result := by
  refine .once kept (fun node _ isSought => .ok (beq_iff_eq.mp isSought)) (fun _ => made)
    (fun error later keptLater _ => ⟨keptLater, .error error⟩) ?_
  intro node later keptLater ofType
  refine ⟨fun other member => ?_, ofType⟩
  rcases List.mem_append.mp member with earlier | isNew
  · exact keptLater other earlier
  · rw [List.mem_singleton.mp isNew, ofType node rfl]
    exact holds

/-- A walk to a reached type keeps to types that are reached, when references do. -/
theorem walk_keeps_reached
    {reached : TypeId → Prop}
    (closed : ∀ outer inner, reached outer → Refers manifest registry outer inner →
      reached inner)
    (stack : List TypeId)
    (id : TypeId)
    (isReached : reached id)
    {before : List TypeNode}
    (kept : ∀ node ∈ before, reached node.id) :
    Building.Advances (fun nodes => ∀ node ∈ nodes, reached node.id) before
      (walk manifest registry stack id before) fun result _ => OfType id result := by
  by_cases inside : id ∈ stack
  · rw [walk_of_mem inside]
    exact once_advances_ofType isReached kept (.fail kept (.error _))
  · cases found : manifest.get? id with
    | none =>
        rw [walk_of_undefined inside found]
        exact once_advances_ofType isReached kept (.fail kept (.error _))
    | some definition =>
        have shorter := Manifest.free_length_lt inside found
        have named : definition.id = id := Manifest.id_of_get? found
        have below : ∀ field ∈ (definition.outline registry).fields, ∀ inner,
            field.shape.nested? = some inner → ∀ middle : List TypeNode,
              (∀ node ∈ middle, reached node.id) →
              Building.Keeps (fun nodes => ∀ node ∈ nodes, reached node.id) middle
                (walk manifest registry (stack ++ [id]) inner middle) := by
          intro field member inner isNested middle keptMiddle
          have refers : Refers manifest registry id inner :=
            Nests.refers ⟨definition, found, field, member, isNested⟩
          have isReachedInner := closed id inner isReached refers
          exact .of_advances
            (walk_keeps_reached closed (stack ++ [id]) inner isReachedInner keptMiddle)
        rw [walk_of_defined inside found]
        refine once_advances_ofType isReached kept ?_
        exact (definition.resolve_keeps kept below).weaken fun ofType => named ▸ ofType
termination_by (manifest.free stack).length

/-! ## The order of the nodes -/

namespace WellBuilt

/-- Wherever a node stands, the nodes before it are well built by themselves, its type is
not among theirs and what it nests is. -/
theorem before_place
    (built : WellBuilt manifest registry nodes)
    {earlier later : List TypeNode}
    {node : TypeNode}
    (place : nodes = earlier ++ node :: later) :
    WellBuilt manifest registry earlier ∧ node.id ∉ earlier.map TypeNode.id ∧
      ∀ inner ∈ node.nested, inner ∈ earlier := by
  induction built generalizing later with
  | nothing => simp at place
  | add before isNew _ nests inductionHypothesis =>
      -- The place is that of the last node, or it lies among the nodes before.
      cases later using List.reverseRecOn with
      | nil =>
          obtain ⟨rfl, same⟩ := List.append_inj' place rfl
          obtain rfl := List.singleton_injective same
          exact ⟨before, isNew, nests⟩
      | append_singleton between last =>
          rw [← List.cons_append, ← List.append_assoc] at place
          exact inductionHypothesis (List.append_inj' place rfl).1

/-- A node is the one that is found by its type. -/
theorem find?_eq
    (built : WellBuilt manifest registry nodes)
    {node : TypeNode}
    (member : node ∈ nodes) :
    nodes.find? (fun other => other.id == node.id) = some node := by
  cases found : nodes.find? fun other => other.id == node.id with
  | none =>
      have missing := List.find?_eq_none.mp found node member
      simp at missing
  | some other =>
      have named : other.id = node.id := by simpa using List.find?_some found
      have same := built.eq_of_id_eq (List.mem_of_find?_eq_some found) member named
      rw [same]

theorem get?_eq
    (built : WellBuilt manifest registry nodes)
    {node : TypeNode}
    (member : node ∈ nodes) :
    TypeGraph.get? ⟨nodes⟩ node.id = some node :=
  built.find?_eq member

end WellBuilt

end Graphs

end BlockSchema
