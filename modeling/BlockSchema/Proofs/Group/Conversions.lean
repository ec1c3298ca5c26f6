import BlockSchema.Group.Compile
import BlockSchema.Proofs.Conversion.Nesting
import BlockSchema.Proofs.Graph.Memory

/-!
Contract: the conversions of a compiled group.

The graph of a compiled group is well built, its conversions are those of its nodes, and
so is every conversion inside them.
-/

set_option autoImplicit false

namespace BlockSchema

/-- A conversion of a group: one that it lists, one of its roots', or one inside those. -/
def CompiledGroup.Converts (group : CompiledGroup) (conversion : Conversion) : Prop :=
  ∃ outer, (outer ∈ group.conversions ∨ ∃ root ∈ group.roots, root.conversion = outer) ∧
    conversion.Within outer

/-- Walking types from nothing leaves well built nodes, the ones asked for among them. -/
theorem walkAll_eq_ok
    {manifest : Manifest}
    {registry : Registry}
    {ids : List TypeId}
    {roots nodes : List TypeNode}
    (walked : walkAll manifest registry ids [] = (.ok roots, nodes)) :
    WellBuilt manifest registry nodes ∧
      List.Forall₂ (fun id root => root ∈ nodes ∧ root.id = id) ids roots := by
  have start : Below manifest registry [] [] := ⟨.nothing, by simp⟩
  have advanced := Building.Advances.each
    (fun (id : TypeId) (node : TypeNode) later => node ∈ later ∧ node.id = id)
    (fun _ _ _ _ grown held => ⟨grown.subset held.1, held.2⟩)
    ids
    (fun id _ before below => walk_advances [] id below)
    start
  change Building.Advances _ _ (walkAll manifest registry ids []) _ at advanced
  rw [walked] at advanced
  exact ⟨advanced.kept.built, advanced.ensured.2 roots rfl⟩

/-- How a group was compiled: what its registered types reach was walked, and everything
else derived from the nodes found. -/
structure CompiledGroup.Steps
    (manifest : Manifest)
    (group : GroupPlan)
    (registry : Registry)
    (roots : List TypeNode)
    (ofRoots : List Conversion)
    (compiled : CompiledGroup) :
    Prop where
  resolved : Registry.ofGroup manifest group = .ok registry
  walked : walkAll manifest registry registry.ids [] = (.ok roots, compiled.graph.nodes)
  derived : Conversion.deriveGroup compiled.graph roots [] = (.ok ofRoots, compiled.conversions)
  rooted : compiled.roots = CompiledType.ofNodes compiled.readOnly [] (roots.zip ofRoots)
  name : compiled.name = group.name
  readOnly : compiled.readOnly = group.readOnly
  docs : compiled.docs = group.docs

theorem GroupPlan.compile_steps
    {manifest : Manifest}
    {group : GroupPlan}
    {compiled : CompiledGroup}
    (accepted : group.compile manifest = .ok compiled) :
    ∃ registry roots ofRoots, compiled.Steps manifest group registry roots ofRoots := by
  obtain ⟨registry, resolved, accepted⟩ := Results.bind_eq_ok.mp accepted
  split at accepted
  next => cases accepted
  next roots nodes walked =>
    split at accepted
    next => cases accepted
    next ofRoots conversions derived =>
      obtain rfl := Except.ok.inj accepted
      exact ⟨registry, roots, ofRoots, resolved, walked, derived, rfl, rfl, rfl, rfl⟩

/-- The roots that were walked are in the graph. -/
theorem CompiledGroup.Steps.roots_among
    {manifest : Manifest}
    {group : GroupPlan}
    {registry : Registry}
    {roots : List TypeNode}
    {ofRoots : List Conversion}
    {compiled : CompiledGroup}
    (steps : compiled.Steps manifest group registry roots ofRoots) :
    ∀ root ∈ roots, root ∈ compiled.graph.nodes := by
  intro root member
  obtain ⟨_, walkedRoots⟩ := walkAll_eq_ok steps.walked
  obtain ⟨_, _, isNode, _⟩ := Results.exists_of_mem_right walkedRoots member
  exact isNode

/-- A compiled group has a conversion for every node of its graph and no others. -/
structure CompiledGroup.Derived
    (manifest : Manifest)
    (registry : Registry)
    (compiled : CompiledGroup) :
    Prop where
  built : WellBuilt manifest registry compiled.graph.nodes
  conversionOf : ∀ node ∈ compiled.graph.nodes, node.conversion ∈ compiled.conversions
  nodeOf : ∀ conversion ∈ compiled.conversions, ∃ node ∈ compiled.graph.nodes,
    node.conversion = conversion
  rooted : ∀ root ∈ compiled.roots, root.node ∈ compiled.graph.nodes ∧
    root.node.conversion = root.conversion

/-- The roots have the nodes and conversions that they were made of. -/
theorem CompiledType.ofNodes_pairs
    (readOnly : Bool)
    (schemas : List Schema)
    (pairs : List (TypeNode × Conversion)) :
    (CompiledType.ofNodes readOnly schemas pairs).map
      (fun root => (root.node, root.conversion)) = pairs := by
  induction pairs generalizing schemas with
  | nil => rfl
  | cons pair rest inductionHypothesis =>
      obtain ⟨node, conversion⟩ := pair
      have kept : (CompiledType.ofNode readOnly node conversion schemas).1.node = node ∧
          (CompiledType.ofNode readOnly node conversion schemas).1.conversion = conversion := by
        unfold CompiledType.ofNode
        split <;> exact ⟨rfl, rfl⟩
      rw [CompiledType.ofNodes, List.map_cons, inductionHypothesis, kept.1, kept.2]

/-- Deriving the conversions of a group derives every node of the graph by itself. -/
theorem Conversion.deriveGroup_eq_ok
    {nodes roots : List TypeNode}
    (coherent : Coherent nodes)
    (among : ∀ root ∈ roots, root ∈ nodes)
    {ofRoots conversions : List Conversion}
    (derived : Conversion.deriveGroup ⟨nodes⟩ roots [] = (.ok ofRoots, conversions)) :
    Remembers TypeNode.converted nodes conversions ∧
      (∀ node ∈ nodes, node.conversion ∈ conversions) ∧
      roots.mapM TypeNode.converted = .ok ofRoots := by
  have ofNodes : Building.Advances (Remembers TypeNode.converted nodes) []
      (Building.each Conversion.derive nodes []) fun result later =>
        ∀ values, result = .ok values → ∀ node ∈ nodes, node.conversion ∈ later := by
    refine (DerivesAlone.each (Conversion.derive_alone coherent) nodes (fun _ => id)
      Remembers.nothing).weaken fun given values equal node member => ?_
    obtain ⟨allDerived, allRemembered⟩ := given
    have pairs := Results.mapM_eq_ok.mp (allDerived.symm.trans equal)
    obtain ⟨conversion, inside, converted⟩ := Results.exists_of_mem_left pairs member
    obtain ⟨_, rfl⟩ := TypeNode.converted_eq_ok.mp converted
    exact allRemembered values equal _ inside
  have advanced : Building.Advances (Remembers TypeNode.converted nodes) []
      (Conversion.deriveGroup ⟨nodes⟩ roots []) fun result later =>
        ∀ values, result = .ok values →
          (∀ node ∈ nodes, node.conversion ∈ later) ∧
            roots.mapM TypeNode.converted = .ok values := by
    refine ofNodes.bind (fun error later _ values impossible => by cases impossible) ?_
    intro values later remembers allRemembered
    refine (DerivesAlone.each (Conversion.derive_alone coherent) roots among
      remembers).withGrowth.weaken fun given ofRoots equal => ⟨fun node member => ?_, ?_⟩
    · exact given.1.subset (allRemembered values rfl node member)
    · exact given.2.1.symm.trans equal
  rw [derived] at advanced
  exact ⟨advanced.kept, advanced.ensured ofRoots rfl⟩

theorem CompiledGroup.Steps.derives
    {manifest : Manifest}
    {group : GroupPlan}
    {registry : Registry}
    {roots : List TypeNode}
    {ofRoots : List Conversion}
    {compiled : CompiledGroup}
    (steps : compiled.Steps manifest group registry roots ofRoots) :
    compiled.Derived manifest registry := by
  have built := (walkAll_eq_ok steps.walked).1
  obtain ⟨remembers, allRemembered, convertedRoots⟩ :=
    Conversion.deriveGroup_eq_ok built.coherent steps.roots_among steps.derived
  refine ⟨built, allRemembered, fun conversion member => ?_, fun root member => ?_⟩
  · obtain ⟨node, isNode, converted⟩ := remembers conversion member
    exact ⟨node, isNode, (TypeNode.converted_eq_ok.mp converted).2⟩
  · have pair : (root.node, root.conversion) ∈ roots.zip ofRoots := by
      rw [← CompiledType.ofNodes_pairs compiled.readOnly [] (roots.zip ofRoots), ← steps.rooted]
      exact List.mem_map_of_mem member
    have converted := List.forall₂_iff_zip.mp (Results.mapM_eq_ok.mp convertedRoots)
    exact ⟨steps.roots_among root.node (List.of_mem_zip pair).1,
      (TypeNode.converted_eq_ok.mp (converted.2 pair)).2⟩

theorem GroupPlan.compile_derived
    {manifest : Manifest}
    {group : GroupPlan}
    {compiled : CompiledGroup}
    (accepted : group.compile manifest = .ok compiled) :
    ∃ registry, Registry.ofGroup manifest group = .ok registry ∧
      compiled.Derived manifest registry := by
  obtain ⟨registry, roots, ofRoots, steps⟩ := GroupPlan.compile_steps accepted
  exact ⟨registry, steps.resolved, steps.derives⟩

/-- Every conversion of a compiled group is the conversion of a node of its graph. -/
theorem CompiledGroup.Derived.node_of_converts
    {manifest : Manifest}
    {registry : Registry}
    {compiled : CompiledGroup}
    (derived : compiled.Derived manifest registry)
    {conversion : Conversion}
    (converts : compiled.Converts conversion) :
    ∃ node ∈ compiled.graph.nodes, node.conversion = conversion := by
  obtain ⟨outer, isOuter, within⟩ := converts
  have ofNode : ∃ node ∈ compiled.graph.nodes, node.conversion = outer := by
    rcases isOuter with listed | ⟨root, member, rfl⟩
    · exact derived.nodeOf outer listed
    · exact ⟨root.node, derived.rooted root member⟩
  obtain ⟨node, member, rfl⟩ := ofNode
  exact derived.built.node_of_within member within

/-- The conversion that a compiled group lists for a node of its graph. -/
theorem CompiledGroup.Derived.find?_conversion
    {manifest : Manifest}
    {registry : Registry}
    {compiled : CompiledGroup}
    (derived : compiled.Derived manifest registry)
    {node : TypeNode}
    (member : node ∈ compiled.graph.nodes) :
    compiled.conversions.find? (fun conversion => conversion.typeId = node.id) =
      some node.conversion :=
  derived.built.coherent.find?_conversion derived.conversionOf derived.nodeOf member

theorem GroupPlan.converts_unambiguous
    {manifest : Manifest}
    {group : GroupPlan}
    {compiled : CompiledGroup}
    (accepted : group.compile manifest = .ok compiled)
    {conversion : Conversion}
    (converts : compiled.Converts conversion) :
    conversion.Unambiguous := by
  obtain ⟨registry, _, derived⟩ := GroupPlan.compile_derived accepted
  obtain ⟨node, member, rfl⟩ := derived.node_of_converts converts
  exact derived.built.conversion_unambiguous member

/-- The fields of a conversion are the declared fields of its type that it does not omit,
in declaration order. -/
theorem GroupPlan.converts_declared
    {manifest : Manifest}
    {group : GroupPlan}
    {compiled : CompiledGroup}
    (accepted : group.compile manifest = .ok compiled)
    {conversion : Conversion}
    (converts : compiled.Converts conversion) :
    ∃ definition, manifest.get? conversion.typeId = some definition ∧
      conversion.fields.map FieldConversion.declared =
        definition.fieldNames.filter fun name => !conversion.omitted.contains name := by
  obtain ⟨registry, _, derived⟩ := GroupPlan.compile_derived accepted
  obtain ⟨node, member, rfl⟩ := derived.node_of_converts converts
  rw [TypeNode.conversion_eq, List.map_map]
  exact (derived.built.matches_of_mem member).declared_eq_filter

/-! ## A group at hand -/

namespace Orders

/-- A field without a description. -/
def field (name : String) (shape : Shape) : FieldDef :=
  ⟨name, shape, none, none⟩

/-- What is ordered. -/
def item : TypeDef :=
  { name := "Item"
    package := "shop"
    description := none
    fields :=
      [field "Name" (.scalar (.plain .string)),
        field "Count" (.pointer (.scalar (.plain .int)))] }

/-- An order of some items. -/
def order : TypeDef :=
  { name := "Order"
    package := "shop"
    description := none
    fields :=
      [field "Number" (.scalar (.plain .int)),
        field "Main" (.struct item.id),
        field "Spare" (.pointer (.struct item.id)),
        field "Items" (.list (.struct item.id)),
        field "Prices" (.map (.scalar (.plain .float))),
        field "Total" (.scalar (.plain .float)),
        field "Note" (.scalar (.plain .string))] }

def manifest : Manifest :=
  ⟨[item, order], by decide, by decide⟩

/-- Orders are registered with a computed total and without their notes. -/
def group : GroupPlan :=
  { name := "orders"
    docs := none
    readOnly := false
    types := [⟨order.id, [.mark .computedOnly ["Total"], .mark .exclude ["Note"]]⟩] }

/-- The group compiles, to a group that passes a test. -/
theorem compiles
    {test : CompiledGroup → Bool}
    (passes : (group.compile manifest).toOption.any test = true) :
    ∃ compiled, group.compile manifest = .ok compiled ∧ test compiled = true :=
  Results.exists_of_any passes

/-- The group compiles, and some conversion of it passes a test. -/
theorem converts
    {test : Conversion → Bool}
    (passes : (group.compile manifest).toOption.any (fun compiled =>
      compiled.conversions.any test) = true) :
    ∃ compiled conversion, group.compile manifest = .ok compiled ∧
      compiled.Converts conversion ∧ test conversion = true := by
  obtain ⟨compiled, accepted, anyPasses⟩ := compiles passes
  obtain ⟨conversion, member, holds⟩ := List.any_eq_true.mp anyPasses
  exact ⟨compiled, conversion, accepted, ⟨conversion, .inl member, .refl⟩, holds⟩

end Orders

end BlockSchema
