import BlockSchema.Proofs.Graph.Rebuild

/-!
Contract: a walk that remembers nodes gives what a walk without a memory gives.

The invariant is `Below`: the list of nodes is well built and holds no type that is under
way. It makes a remembered node harmless, because a built type never nests a type that is
under way, so no node at hand hides a cycle.
-/

set_option autoImplicit false

namespace BlockSchema

variable {manifest : Manifest} {registry : Registry}

/-- Nodes that may have been built while the types on a stack are under way. -/
structure Below
    (manifest : Manifest)
    (registry : Registry)
    (stack : List TypeId)
    (nodes : List TypeNode) :
    Prop where
  built : WellBuilt manifest registry nodes
  apart : ∀ type ∈ stack, type ∉ nodes.map TypeNode.id

/-- A type that is not remembered may be put under way. -/
theorem Below.under
    {stack : List TypeId}
    {nodes : List TypeNode}
    (below : Below manifest registry stack nodes)
    {id : TypeId}
    (absent : ∀ node ∈ nodes, node.id ≠ id) :
    Below manifest registry (stack ++ [id]) nodes := by
  refine ⟨below.built, fun type onStack inside => ?_⟩
  rcases List.mem_append.mp onStack with onOld | isOwn
  · exact below.apart type onOld inside
  · obtain ⟨node, member, named⟩ := List.mem_map.mp inside
    exact absent node member (named.trans (List.mem_singleton.mp isOwn))

/-- What visiting a type gives: the result of `alone`, and a node that is remembered. -/
def Visited
    (alone : TypeId → Except CompileError TypeNode)
    (id : TypeId)
    (result : Except CompileError TypeNode)
    (nodes : List TypeNode) :
    Prop :=
  result = alone id ∧ ∀ node, result = .ok node → node ∈ nodes ∧ node.id = id

section Resolution

variable
  {invariant : List TypeNode → Prop}
  {visit : TypeId → Walk TypeNode}
  {alone : TypeId → Except CompileError TypeNode}

private theorem Target.resolve_advances
    (visited : ∀ id before, invariant before →
      Building.Advances invariant before (visit id before) (Visited alone id))
    (target : Target TypeId)
    {before : List TypeNode}
    (holds : invariant before) :
    Building.Advances invariant before (target.resolve visit before) fun result later =>
      result = target.rebuild alone ∧
        ∀ found, result = .ok found →
          found.map TypeNode.id = target ∧ ∀ inner, found.nested? = some inner → inner ∈ later := by
  cases target with
  | scalar type =>
      refine .pure holds ⟨rfl, fun found equal => ?_⟩
      obtain rfl := Except.ok.inj equal
      exact ⟨rfl, fun inner impossible => by cases impossible⟩
  | struct id =>
      refine .bind (visited id before holds) ?_ ?_
      · intro error later given
        rw [Target.rebuild, ← given.1]
        exact ⟨rfl, fun found impossible => by cases impossible⟩
      · intro node later holdsLater given
        obtain ⟨member, named⟩ := given.2 node rfl
        rw [Target.rebuild, ← given.1]
        refine .pure holdsLater ⟨rfl, fun found equal => ?_⟩
        obtain rfl := Except.ok.inj equal
        refine ⟨congrArg Target.struct named, fun inner isInner => ?_⟩
        obtain rfl := Option.some.inj isInner
        exact member

theorem FieldNode.resolve_advances
    (visited : ∀ id before, invariant before →
      Building.Advances invariant before (visit id before) (Visited alone id))
    (field : FieldNode TypeId)
    {before : List TypeNode}
    (holds : invariant before) :
    Building.Advances invariant before (field.resolve visit before) fun result later =>
      result = field.rebuild alone ∧
        ∀ found, result = .ok found →
          found.outline = field ∧ ∀ inner, found.shape.nested? = some inner → inner ∈ later := by
  refine .bind (field.shape.target.resolve_advances visited holds) ?_ ?_
  · intro error later given
    rw [FieldNode.rebuild, ← given.1]
    exact ⟨rfl, fun found impossible => by cases impossible⟩
  · intro target later holdsLater given
    obtain ⟨forgotten, nestedMember⟩ := given.2 target rfl
    rw [FieldNode.rebuild, ← given.1]
    refine .pure holdsLater ⟨rfl, fun found equal => ?_⟩
    obtain rfl := Except.ok.inj equal
    refine ⟨?_, nestedMember⟩
    simp [FieldNode.outline, FieldNode.withShape, FieldShape.map, forgotten]

/-- A type is resolved as it is rebuilt. The node says what its outline says, and what it
nests is remembered. -/
theorem TypeDef.resolve_advances
    (visited : ∀ id before, invariant before →
      Building.Advances invariant before (visit id before) (Visited alone id))
    (definition : TypeDef)
    {before : List TypeNode}
    (holds : invariant before) :
    Building.Advances invariant before (definition.resolve registry visit before)
      fun result later =>
        result = definition.rebuild registry alone ∧
          ∀ node, result = .ok node →
            node = definition.node registry node.fields ∧
            definition.outline registry = ⟨node.fields.map FieldNode.outline, none⟩ ∧
            ∀ inner ∈ node.nested, inner ∈ later := by
  have fieldsAdvance := Building.Advances.each
    (fun (field : FieldNode TypeId) (found : FieldNode TypeNode) later =>
      found.outline = field ∧ ∀ inner, found.shape.nested? = some inner → inner ∈ later)
    (fun _ _ _ _ grown held =>
      ⟨held.1, fun inner isInner => grown.subset (held.2 inner isInner)⟩)
    (definition.outline registry).fields
    (fun field _ _ => field.resolve_advances visited)
    holds
  refine .bind fieldsAdvance ?_ ?_
  · intro error later given
    rw [TypeDef.rebuild, ← given.1]
    exact ⟨rfl, fun node impossible => by cases impossible⟩
  · intro fields later holdsLater given
    have pairs := given.2 fields rfl
    have outlined : (definition.outline registry).fields = fields.map FieldNode.outline := by
      rw [← List.forall₂_eq_eq_eq, List.forall₂_map_right_iff]
      exact pairs.imp fun _ _ held => held.1.symm
    rw [TypeDef.rebuild, ← given.1]
    cases faulty : (definition.outline registry).fault? with
    | some error =>
        refine .fail holdsLater ⟨?_, fun node impossible => by cases impossible⟩
        simp [bind, Except.bind]
    | none =>
        refine .pure holdsLater ⟨?_, ?_⟩
        · simp [bind, Except.bind]
        · intro node equal
          obtain rfl := Except.ok.inj equal
          refine ⟨rfl, ?_, fun inner isNested => ?_⟩
          · change _ = Outline.mk (fields.map FieldNode.outline) none
            rw [← outlined, ← faulty]
          · obtain ⟨field, member, isInner⟩ := TypeNode.mem_nested.mp isNested
            obtain ⟨_, _, held⟩ := Results.exists_of_mem_right pairs member
            exact held.2 inner isInner

end Resolution

/-- What making the node of a type gives before the node is put into the memory. -/
def Made
    (manifest : Manifest)
    (registry : Registry)
    (stack : List TypeId)
    (id : TypeId)
    (result : Except CompileError TypeNode)
    (nodes : List TypeNode) :
    Prop :=
  result = TypeNode.rebuild manifest registry stack id ∧
    ∀ node, result = .ok node →
      id ∉ stack ∧ node.id = id ∧ node.Matches manifest registry ∧
        ∀ inner ∈ node.nested, inner ∈ nodes

/-- A walk looks for the node and else makes it, with its type on the stack. -/
theorem walk_opens
    (stack : List TypeId)
    (id : TypeId)
    (visited : id ∉ stack → (∃ definition, manifest.get? id = some definition) →
      ∀ other before, Below manifest registry (stack ++ [id]) before →
        Building.Advances (Below manifest registry (stack ++ [id])) before
          (walk manifest registry (stack ++ [id]) other before)
          (Visited (TypeNode.rebuild manifest registry (stack ++ [id])) other)) :
    ∃ make, walk manifest registry stack id = Building.once (fun node => node.id == id) make ∧
      ∀ before, Below manifest registry (stack ++ [id]) before →
        Building.Advances (Below manifest registry (stack ++ [id])) before (make before)
          (Made manifest registry stack id) := by
  by_cases inside : id ∈ stack
  · refine ⟨_, walk_of_mem inside, fun before below => .fail below ?_⟩
    exact ⟨(TypeNode.rebuild_of_mem inside).symm, fun node impossible => by cases impossible⟩
  · cases found : manifest.get? id with
    | none =>
        refine ⟨_, walk_of_undefined inside found, fun before below => .fail below ?_⟩
        exact ⟨(TypeNode.rebuild_of_undefined inside found).symm,
          fun node impossible => by cases impossible⟩
    | some definition =>
        refine ⟨_, walk_of_defined inside found, fun before below => ?_⟩
        refine (definition.resolve_advances (visited inside ⟨definition, found⟩) below).weaken
          fun given => ⟨?_, fun node equal => ?_⟩
        · rw [given.1, TypeNode.rebuild_of_defined inside found]
        · obtain ⟨isNode, outlined, nests⟩ := given.2 node equal
          have named : node.id = id := by
            rw [isNode]
            exact Manifest.id_of_get? found
          exact ⟨inside, named, ⟨definition, named ▸ found, outlined, isNode⟩, nests⟩

/-- A walk below a stack gives what rebuilding below the stack gives, and leaves nodes
that may have been built below the stack. -/
theorem walk_advances
    (stack : List TypeId)
    (id : TypeId)
    {before : List TypeNode}
    (below : Below manifest registry stack before) :
    Building.Advances (Below manifest registry stack) before
      (walk manifest registry stack id before)
      (Visited (TypeNode.rebuild manifest registry stack) id) := by
  have visited : id ∉ stack → (∃ definition, manifest.get? id = some definition) →
      ∀ other earlier, Below manifest registry (stack ++ [id]) earlier →
        Building.Advances (Below manifest registry (stack ++ [id])) earlier
          (walk manifest registry (stack ++ [id]) other earlier)
          (Visited (TypeNode.rebuild manifest registry (stack ++ [id])) other) := by
    rintro outside ⟨definition, found⟩ other earlier belowOwn
    have shorter := Manifest.free_length_lt outside found
    exact walk_advances (stack ++ [id]) other belowOwn
  obtain ⟨make, opened, made⟩ := walk_opens stack id visited
  rw [opened]
  refine .once below ?found (fun absent => made before (below.under ?absent)) ?failed ?added
  case found =>
    intro node member named
    obtain rfl := beq_iff_eq.mp named
    have given := below.built.rebuild_remembered below.apart member
    exact ⟨given.symm, fun other equal => Except.ok.inj equal ▸ ⟨member, rfl⟩⟩
  case absent => exact fun node member => by simpa using absent node member
  case failed =>
    intro error later belowOwn given
    refine ⟨⟨belowOwn.built, fun type onStack => ?_⟩, given.1,
      fun node impossible => by cases impossible⟩
    exact belowOwn.apart type (List.mem_append_left _ onStack)
  case added =>
    intro node later belowOwn given
    obtain ⟨offStack, named, matching, nests⟩ := given.2 node rfl
    have isNew : node.id ∉ later.map TypeNode.id :=
      belowOwn.apart node.id (by simp [named])
    refine ⟨⟨.add belowOwn.built isNew matching nests, fun type onStack inside => ?_⟩,
      given.1, fun other equal => Except.ok.inj equal ▸ ⟨by simp, named⟩⟩
    rw [List.map_append, List.map_singleton] at inside
    rcases List.mem_append.mp inside with earlier | isOwn
    · exact belowOwn.apart type (List.mem_append_left _ onStack) earlier
    · exact offStack (named ▸ List.mem_singleton.mp isOwn ▸ onStack)
termination_by (manifest.free stack).length

end BlockSchema
