import BlockSchema.Proofs.Conversion.Order
import BlockSchema.Proofs.Group.Conversions

/-!
Contract: a compiled group is what its registered types reach, each type in its place.

The graph has one node for every type that a registered type reaches, after the nodes that
it nests. The conversions stand in the order of the graph, and whatever a node, a rule or a
root holds of a type is the entry of that type. So what refers to a type by its name finds
the very thing that was compiled for it.
-/

set_option autoImplicit false

namespace BlockSchema

variable {manifest : Manifest} {registry : Registry} {group : GroupPlan}

/-! ## Registered types -/

namespace Registry

theorem registers_iff {id : TypeId} : registry.registers id = true ↔ id ∈ registry.ids := by
  unfold registers
  induction registry with
  | nil => simp [ids]
  | cons entry rest inductionHypothesis =>
      obtain ⟨type, table⟩ := entry
      rw [ids, List.map_cons, List.mem_cons, ← ids, ← inductionHypothesis]
      by_cases same : id = type
      · simp [same]
      · simp [List.lookup_cons, same, beq_eq_false_iff_ne.mpr same]

private theorem extend_ids
    {name : String}
    {registrations : List Registration}
    {later : Registry}
    (extended : Registry.extend manifest name registry registrations = .ok later) :
    later.ids = registry.ids ++ registrations.map Registration.typeId := by
  induction registrations generalizing registry with
  | nil =>
      obtain rfl := Except.ok.inj extended
      simp
  | cons registration rest inductionHypothesis =>
      obtain ⟨table, _, extendedRest⟩ := Results.bind_eq_ok.mp extended
      rw [inductionHypothesis extendedRest]
      simp [ids]

/-- The registry of a group has the types that its plan registers, in their order. -/
theorem ofGroup_ids (resolved : Registry.ofGroup manifest group = .ok registry) :
    registry.ids = group.types.map Registration.typeId := by
  have extended := extend_ids resolved
  simpa [ids] using extended

end Registry

private theorem WellBuilt.registered_iff
    {nodes : List TypeNode}
    (built : WellBuilt manifest registry nodes)
    {node : TypeNode}
    (member : node ∈ nodes) :
    node.registered = true ↔ node.id ∈ registry.ids := by
  obtain ⟨definition, found, _, isNode⟩ := built.matches_of_mem member
  have named : definition.id = node.id := Manifest.id_of_get? found
  have marked : node.registered = registry.registers definition.id := by rw [isNode]; rfl
  rw [marked, named, Registry.registers_iff]

/-! ## Nodes, conversions and roots -/

/-- The nodes left by walking types are those of the types that these reach. -/
theorem walkAll_reaches
    {ids : List TypeId}
    {roots nodes : List TypeNode}
    (walked : walkAll manifest registry ids [] = (.ok roots, nodes))
    (type : TypeId) :
    type ∈ nodes.map TypeNode.id ↔
      ∃ id ∈ ids, Relation.ReflTransGen (Refers manifest registry) id type := by
  constructor
  · intro member
    have closed : ∀ outer inner,
        (∃ id ∈ ids, Relation.ReflTransGen (Refers manifest registry) id outer) →
        Refers manifest registry outer inner →
        ∃ id ∈ ids, Relation.ReflTransGen (Refers manifest registry) id inner := by
      intro outer inner reached refers
      obtain ⟨id, isAsked, path⟩ := reached
      exact ⟨id, isAsked, path.tail refers⟩
    have kept : Building.Keeps
        (fun nodes : List TypeNode => ∀ node ∈ nodes,
          ∃ id ∈ ids, Relation.ReflTransGen (Refers manifest registry) id node.id)
        [] (walkAll manifest registry ids []) := by
      refine .each ids (fun id isAsked before kept => ?_) (by simp)
      exact .of_advances (walk_keeps_reached closed [] id ⟨id, isAsked, .refl⟩ kept)
    rw [walked] at kept
    obtain ⟨node, isNode, rfl⟩ := List.mem_map.mp member
    exact kept.kept node isNode
  · rintro ⟨id, isAsked, path⟩
    obtain ⟨built, walkedRoots⟩ := walkAll_eq_ok walked
    obtain ⟨root, _, isNode, rfl⟩ := Results.exists_of_mem_left walkedRoots isAsked
    exact built.closed (List.mem_map_of_mem isNode) path

/-- The conversions of a group are those of the nodes, in their order. -/
theorem WellBuilt.deriveGroup_eq
    {nodes roots : List TypeNode}
    (built : WellBuilt manifest registry nodes)
    (among : ∀ root ∈ roots, root ∈ nodes)
    {ofRoots conversions : List Conversion}
    (derived : Conversion.deriveGroup ⟨nodes⟩ roots [] = (.ok ofRoots, conversions)) :
    conversions = nodes.map TypeNode.conversion ∧ ofRoots = roots.map TypeNode.conversion := by
  obtain ⟨values, between, ofNodes, again⟩ := Building.bind_eq_ok.mp derived
  have inOrder : between = nodes.map TypeNode.conversion :=
    @derive_each manifest registry [] nodes built Remembers.nothing values between ofNodes
  subst inOrder
  rw [built.derive_again roots among] at again
  obtain ⟨same, rfl⟩ := Prod.mk.inj again
  exact ⟨rfl, (Except.ok.inj same).symm⟩

/-- What a compiled group consists of. -/
theorem GroupPlan.compile_parts
    {compiled : CompiledGroup}
    (accepted : group.compile manifest = .ok compiled)
    (resolved : Registry.ofGroup manifest group = .ok registry) :
    (∀ type, type ∈ compiled.graph.ids ↔
      ∃ id ∈ registry.ids, Relation.ReflTransGen (Refers manifest registry) id type) ∧
    compiled.conversions = compiled.graph.nodes.map TypeNode.conversion ∧
    compiled.roots.map (fun root => root.node.id) = registry.ids := by
  obtain ⟨found, roots, ofRoots, steps⟩ := GroupPlan.compile_steps accepted
  obtain rfl := Except.ok.inj (steps.resolved.symm.trans resolved)
  obtain ⟨built, walkedRoots⟩ := walkAll_eq_ok steps.walked
  obtain ⟨inOrder, rfl⟩ := built.deriveGroup_eq steps.roots_among steps.derived
  have rootIds : roots.map TypeNode.id = found.ids := by
    rw [← List.forall₂_eq_eq_eq, List.forall₂_map_left_iff]
    exact (walkedRoots.imp fun _ _ held => held.2).flip
  have ofPairs := CompiledType.ofNodes_pairs compiled.readOnly []
    (roots.zip (roots.map TypeNode.conversion))
  rw [← steps.rooted] at ofPairs
  have ofNodes := congrArg (List.map Prod.fst) ofPairs
  rw [List.map_map, List.map_fst_zip (by simp)] at ofNodes
  have named := congrArg (List.map TypeNode.id) ofNodes
  rw [List.map_map, rootIds] at named
  exact ⟨walkAll_reaches steps.walked, inOrder, named⟩

/-! ## Closed groups -/

/-- The conversion that a group lists for a type. -/
def CompiledGroup.conversion? (compiled : CompiledGroup) (id : TypeId) : Option Conversion :=
  compiled.conversions.find? fun conversion => conversion.typeId = id

/-- A compiled group has what its registered types reach, once and in order, and holds
everywhere the entries of its graph and of its conversions. -/
structure CompiledGroup.Closed
    (manifest : Manifest)
    (registry : Registry)
    (group : GroupPlan)
    (compiled : CompiledGroup) :
    Prop where
  distinct : compiled.graph.ids.Nodup
  reached : ∀ type, type ∈ compiled.graph.ids ↔
    ∃ registration ∈ group.types,
      Relation.ReflTransGen (Refers manifest registry) registration.typeId type
  /-- What a node nests is in the graph, and stands before the node. -/
  nested : ∀ earlier node later, compiled.graph.nodes = earlier ++ node :: later →
    ∀ inner ∈ node.nested, inner ∈ earlier ∧ compiled.graph.get? inner.id = some inner
  conversionIds : compiled.conversions.map Conversion.typeId = compiled.graph.ids
  /-- What the rules of a conversion hold is listed as well. -/
  embedded : ∀ conversion ∈ compiled.conversions, ∀ inner ∈ conversion.nested,
    compiled.conversion? inner.typeId = some inner
  rootIds : compiled.roots.map (fun root => root.node.id) = group.types.map Registration.typeId
  roots : ∀ root ∈ compiled.roots,
    compiled.graph.get? root.node.id = some root.node ∧
      compiled.conversion? root.node.id = some root.conversion
  registered : ∀ node ∈ compiled.graph.nodes,
    node.registered = true ↔ ∃ registration ∈ group.types, registration.typeId = node.id

/-- A compiled group has precisely the types that its registered types reach through fields
that are not excluded. -/
theorem GroupPlan.compile_closed
    {compiled : CompiledGroup}
    (accepted : group.compile manifest = .ok compiled) :
    ∃ registry, Registry.ofGroup manifest group = .ok registry ∧
      compiled.Closed manifest registry group := by
  obtain ⟨registry, resolved, derived⟩ := GroupPlan.compile_derived accepted
  obtain ⟨reached, inOrder, rootIds⟩ := GroupPlan.compile_parts accepted resolved
  have registeredIds := Registry.ofGroup_ids resolved
  have built := derived.built
  have registeredIff : ∀ {property : TypeId → Prop},
      (∃ id ∈ registry.ids, property id) ↔
        ∃ registration ∈ group.types, property registration.typeId := by
    intro property
    simp [registeredIds]
  have listed : ∀ node ∈ compiled.graph.nodes,
      compiled.conversion? node.id = some node.conversion := fun node member =>
    derived.find?_conversion member
  refine ⟨registry, resolved, ?_⟩
  exact
    { distinct := built.distinct
      reached := fun type => (reached type).trans registeredIff
      nested := by
        intro earlier node later place inner isNested
        have isEarlier := (built.before_place place).2.2 inner isNested
        refine ⟨isEarlier, built.get?_eq ?_⟩
        rw [place]
        exact List.mem_append_left _ isEarlier
      conversionIds := by
        rw [inOrder, List.map_map]
        exact List.map_congr_left fun node _ => node.conversion_typeId
      embedded := by
        intro conversion member inner isNested
        obtain ⟨node, isNode, rfl⟩ := derived.nodeOf conversion member
        obtain ⟨found, nests, rfl⟩ := TypeNode.mem_conversion_nested.mp isNested
        rw [TypeNode.conversion_typeId]
        exact listed found (built.nested_mem isNode nests)
      rootIds := rootIds.trans registeredIds
      roots := by
        intro root member
        obtain ⟨isNode, converted⟩ := derived.rooted root member
        exact ⟨built.get?_eq isNode, converted ▸ listed root.node isNode⟩
      registered := by
        intro node member
        rw [built.registered_iff member, registeredIds, List.mem_map] }

/-- Ordered items stand before the orders, which alone are registered. -/
theorem GroupPlan.compile_closed_orders :
    ∃ compiled registry, Orders.group.compile Orders.manifest = .ok compiled ∧
      Registry.ofGroup Orders.manifest Orders.group = .ok registry ∧
      compiled.Closed Orders.manifest registry Orders.group ∧
      compiled.graph.ids = [Orders.item.id, Orders.order.id] := by
  have passes : (Orders.group.compile Orders.manifest).toOption.any (fun compiled =>
      compiled.graph.ids == [Orders.item.id, Orders.order.id]) = true := by decide +kernel
  obtain ⟨compiled, accepted, inOrder⟩ := Orders.compiles passes
  obtain ⟨registry, resolved, closed⟩ := GroupPlan.compile_closed accepted
  exact ⟨compiled, registry, accepted, resolved, closed, beq_iff_eq.mp inOrder⟩

end BlockSchema
