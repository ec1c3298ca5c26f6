import BlockSchema.Proofs.Group.Closure
import BlockSchema.Proofs.Group.Policy

/-!
Contract: which groups compile.

A compilation fails where a table cannot be resolved, where a type cannot be built or where
a conversion has a fault. Which of these comes first depends on the order of the work. That
none of them comes up can be said of the registered types one by one: each of them has a
node of its own, and nothing in that node stands in the way of its conversion.
-/

set_option autoImplicit false

namespace BlockSchema

variable {manifest : Manifest} {registry : Registry} {group : GroupPlan}

/-! ## Nodes without a fault -/

/-- A node can be converted when none of its fields has a fault and every node that it nests
can be. -/
theorem TypeNode.conversionFault?_eq_none {node : TypeNode} :
    node.conversionFault? = none ↔
      (∀ field ∈ node.fields, field.roundTripFault? = none) ∧
        ∀ inner ∈ node.nested, inner.conversionFault? = none := by
  have ofField : ∀ field : FieldNode TypeNode,
      field.faultAtOrBelow? node.id = none ↔
        field.roundTripFault? = none ∧
          ∀ inner, field.shape.nested? = some inner → inner.conversionFault? = none := by
    intro field
    rw [FieldNode.faultAtOrBelow?, FieldNode.conversionFault?, Option.or_eq_none_iff,
      Option.map_eq_none_iff, Option.bind_eq_none_iff]
  rw [TypeNode.conversionFault?_eq, List.findSome?_eq_none_iff]
  simp only [ofField, TypeNode.mem_nested]
  constructor
  · intro faultless
    refine ⟨fun field member => (faultless field member).1, ?_⟩
    rintro inner ⟨field, member, isNested⟩
    exact (faultless field member).2 inner isNested
  · rintro ⟨atFields, below⟩ field member
    exact ⟨atFields field member, fun inner isNested => below inner ⟨field, member, isNested⟩⟩

/-! ## Walks -/

/-- Types asked for in order are given as they are rebuilt, up to the first failure. -/
theorem walkAll_result (ids : List TypeId) :
    (walkAll manifest registry ids []).1 =
      ids.mapM (TypeNode.rebuild manifest registry []) := by
  have start : Below manifest registry [] [] := ⟨.nothing, by simp⟩
  have advanced := Building.Advances.eachAlone ids
    (fun id _ before below => (walk_advances [] id below).weaken And.left) start
  exact advanced.ensured

/-- The nodes left by a walk have no fault when those that were asked for have none. -/
theorem walkAll_faultless
    {ids : List TypeId}
    {roots nodes : List TypeNode}
    (walked : walkAll manifest registry ids [] = (.ok roots, nodes))
    (faultless : ∀ root ∈ roots, root.conversionFault? = none) :
    ∀ node ∈ nodes, node.conversionFault? = none := by
  obtain ⟨built, walkedRoots⟩ := walkAll_eq_ok walked
  -- A fault is passed on to all nodes around it, and every node lies below a root.
  have reached : ∀ id ∈ ids, ∀ type, Relation.ReflTransGen (Refers manifest registry) id type →
      ∃ node ∈ nodes, node.id = type ∧ node.conversionFault? = none := by
    intro id isAsked type path
    induction path with
    | refl =>
        obtain ⟨root, isRoot, member, named⟩ := Results.exists_of_mem_left walkedRoots isAsked
        exact ⟨root, member, named, faultless root isRoot⟩
    | tail _ refers inductionHypothesis =>
        obtain ⟨outer, isOuter, rfl, outerFaultless⟩ := inductionHypothesis
        have nests := built.nests_of_refers (List.mem_map_of_mem isOuter) refers
        obtain ⟨inner, isNested, named⟩ :=
          (built.matches_of_mem isOuter).nested_of_nests nests
        exact ⟨inner, built.nested_mem isOuter isNested, named,
          (TypeNode.conversionFault?_eq_none.mp outerFaultless).2 inner isNested⟩
  intro node member
  obtain ⟨id, isAsked, path⟩ := (walkAll_reaches walked node.id).mp (List.mem_map_of_mem member)
  obtain ⟨other, isOther, named, otherFaultless⟩ := reached id isAsked node.id path
  exact built.eq_of_id_eq isOther member named ▸ otherFaultless

/-! ## Conversions -/

/-- Nodes without faults have conversions, and so has a selection of them afterwards. -/
theorem WellBuilt.exists_deriveGroup
    {nodes roots : List TypeNode}
    (built : WellBuilt manifest registry nodes)
    (among : ∀ root ∈ roots, root ∈ nodes)
    (faultless : ∀ node ∈ nodes, node.conversionFault? = none) :
    ∃ ofRoots conversions,
      Conversion.deriveGroup ⟨nodes⟩ roots [] = (.ok ofRoots, conversions) := by
  have advanced := DerivesAlone.each (Conversion.derive_alone built.coherent) nodes
    (fun node member => member) Remembers.nothing
  have converted : nodes.mapM TypeNode.converted = .ok (nodes.map TypeNode.conversion) :=
    Results.mapM_eq_map fun node member =>
      TypeNode.converted_eq_ok.mpr ⟨faultless node member, rfl⟩
  have given := advanced.ensured.1.trans converted
  generalize ran : Building.each Conversion.derive nodes [] = outcome at given
  obtain ⟨result, between⟩ := outcome
  obtain rfl : result = .ok (nodes.map TypeNode.conversion) := given
  have inOrder : between = nodes.map TypeNode.conversion :=
    @derive_each manifest registry [] nodes built Remembers.nothing _ between ran
  refine ⟨roots.map TypeNode.conversion, between, Building.bind_eq_ok.mpr ⟨_, _, ran, ?_⟩⟩
  rw [inOrder]
  exact built.derive_again roots among

/-! ## Groups -/

/-- A node of a compiled group is what its type gives when it is rebuilt by itself. -/
theorem CompiledGroup.Derived.rebuild_eq
    {compiled : CompiledGroup}
    (derived : compiled.Derived manifest registry)
    {node : TypeNode}
    (member : node ∈ compiled.graph.nodes) :
    TypeNode.rebuild manifest registry [] node.id = .ok node :=
  derived.built.rebuild_remembered (by simp) member

/-- A group with resolved tables compiles exactly when every registered type has a node of
its own that can be converted. -/
theorem GroupPlan.compiles_iff (resolved : Registry.ofGroup manifest group = .ok registry) :
    (∃ compiled, group.compile manifest = .ok compiled) ↔
      ∀ id ∈ registry.ids, ∃ node, TypeNode.rebuild manifest registry [] id = .ok node ∧
        node.conversionFault? = none := by
  constructor
  · rintro ⟨compiled, accepted⟩ id isAsked
    obtain ⟨found, roots, ofRoots, steps⟩ := GroupPlan.compile_steps accepted
    obtain rfl := Except.ok.inj (steps.resolved.symm.trans resolved)
    obtain ⟨_, walkedRoots⟩ := walkAll_eq_ok steps.walked
    obtain ⟨root, _, member, rfl⟩ := Results.exists_of_mem_left walkedRoots isAsked
    exact ⟨root, steps.derives.rebuild_eq member, steps.faultless member⟩
  · intro eachNode
    have result := @walkAll_result manifest registry registry.ids
    obtain ⟨roots, rebuilt⟩ := Results.exists_mapM_eq_ok fun id isAsked =>
      (eachNode id isAsked).imp fun _ => And.left
    generalize walked : walkAll manifest registry registry.ids [] = outcome at result
    obtain ⟨_, nodes⟩ := outcome
    obtain rfl := result.trans rebuilt
    obtain ⟨built, walkedRoots⟩ := walkAll_eq_ok walked
    have rootsFaultless : ∀ root ∈ roots, root.conversionFault? = none := by
      intro root isRoot
      obtain ⟨id, isAsked, given⟩ :=
        Results.exists_of_mem_right (Results.mapM_eq_ok.mp rebuilt) isRoot
      obtain ⟨node, isNode, faultless⟩ := eachNode id isAsked
      obtain rfl := Except.ok.inj (given.symm.trans isNode)
      exact faultless
    have among : ∀ root ∈ roots, root ∈ nodes := by
      intro root isRoot
      obtain ⟨_, _, member, _⟩ := Results.exists_of_mem_right walkedRoots isRoot
      exact member
    obtain ⟨ofRoots, conversions, derived⟩ :=
      built.exists_deriveGroup among (walkAll_faultless walked rootsFaultless)
    rw [GroupPlan.compile, resolved]
    simp only [bind, Except.bind, walked, derived]
    exact ⟨_, rfl⟩

end BlockSchema
