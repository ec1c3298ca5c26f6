import BlockSchema.Proofs.Group.Schemas

/-!
Contract: schemas, conversions and doc pages show the same fields.

Whatever a compiled group has for a type shows the fields of the type's node one for one,
under one name and with one nested type, and those fields are what the directives leave of
the declared ones. There is one schema, one conversion and one section for the type, so every
copy inside another schema, conversion or page shows the same.
-/

set_option autoImplicit false

namespace BlockSchema

/-! ## What shows a field -/

/-- The type of the blocks that a field holds. -/
def FieldNode.nestedId? (field : FieldNode TypeNode) : Option TypeId :=
  field.shape.nested?.map TypeNode.id

/-- An element shows a field. -/
structure SchemaElement.Shows
    (readOnly : Bool)
    (element : SchemaElement Schema)
    (field : FieldNode TypeNode) :
    Prop where
  name : element.name = field.external
  nested : element.kind.nested?.map Schema.typeId = field.nestedId?
  sensitive : element.sensitive = field.effects.sensitive
  forceNew : element.forceNew = field.effects.forceNew
  optionality : element.optionality = .ofEffects readOnly field.effects
  version : element.version = field.version
  description : element.description = field.description

/-- A record shows a field. -/
structure DocRecord.Shows
    (readOnly : Bool)
    (record : DocRecord)
    (field : FieldNode TypeNode) :
    Prop where
  name : record.name = field.external
  nested : record.nested = field.nestedId?
  sensitive : record.sensitive = field.effects.sensitive
  forceNew : record.forceNew = field.effects.forceNew
  optionality : record.optionality = .ofEffects readOnly field.effects
  description : record.description = field.description

/-- An entry converts a field. -/
structure FieldConversion.Shows
    (entry : FieldConversion Conversion)
    (field : FieldNode TypeNode) :
    Prop where
  name : entry.external = field.external
  declared : entry.declared = field.declared
  nested : entry.shape.nested?.map Conversion.typeId = field.nestedId?

namespace FieldNode

variable (readOnly : Bool) (field : FieldNode TypeNode)

private theorem element_nestedId? :
    (field.element readOnly).kind.nested?.map Schema.typeId = field.nestedId? := by
  have sameIds : Schema.typeId ∘ TypeNode.schema readOnly = TypeNode.id :=
    funext fun inner => inner.schema_typeId readOnly
  rw [element_nested?, Option.map_map, sameIds, nestedId?]

private theorem shows_element : (field.element readOnly).Shows readOnly field where
  name := rfl
  nested := field.element_nestedId? readOnly
  sensitive := rfl
  forceNew := rfl
  optionality := rfl
  version := rfl
  description := rfl

private theorem shows_record :
    (DocRecord.ofElement (field.element readOnly)).Shows readOnly field where
  name := rfl
  nested := field.element_nestedId? readOnly
  sensitive := rfl
  forceNew := rfl
  optionality := rfl
  description := rfl

private theorem shows_conversion : field.conversion.Shows field where
  name := rfl
  declared := rfl
  nested := by
    have sameIds : Conversion.typeId ∘ TypeNode.conversion = TypeNode.id :=
      funext fun inner => inner.conversion_typeId
    change (field.shape.map TypeNode.conversion).nested?.map Conversion.typeId = _
    rw [FieldShape.nested?_map, Option.map_map, sameIds, nestedId?]

end FieldNode

/-! ## What shows a type -/

/-- A schema, a conversion and a section show the fields of a node, in their order. -/
structure TypeNode.ShownBy
    (readOnly : Bool)
    (node : TypeNode)
    (schema : Schema)
    (conversion : Conversion)
    (docSection : DocSection) :
    Prop where
  elements : List.Forall₂ (fun field element => element.Shows readOnly field)
    node.fields schema.elements
  entries : List.Forall₂ (fun field entry => entry.Shows field) node.fields conversion.fields
  records : List.Forall₂ (fun field record => record.Shows readOnly field)
    node.fields docSection.records
  typeIds : schema.typeId = node.id ∧ conversion.typeId = node.id ∧ docSection.typeId = node.id
  omitted : conversion.omitted = node.excluded

private theorem TypeNode.shownBy (readOnly : Bool) (node : TypeNode) :
    node.ShownBy readOnly (node.schema readOnly) node.conversion
      (.ofSchema (node.schema readOnly)) := by
  rw [TypeNode.schema_eq, TypeNode.conversion_eq, DocSection.ofSchema]
  exact
    { elements := List.forall₂_map_right_iff.mpr <|
        List.forall₂_same.mpr fun field _ => field.shows_element readOnly
      entries := List.forall₂_map_right_iff.mpr <|
        List.forall₂_same.mpr fun field _ => field.shows_conversion
      records := by
        rw [List.map_map, List.forall₂_map_right_iff]
        exact List.forall₂_same.mpr fun field _ => field.shows_record readOnly
      typeIds := ⟨rfl, rfl, rfl⟩
      omitted := rfl }

/-! ## Compiled groups -/

/-- All that a group has for the type of a node: one schema, one conversion and one section.
A root of the type has just these. -/
structure CompiledGroup.HoldsOnly
    (compiled : CompiledGroup)
    (node : TypeNode)
    (schema : Schema)
    (conversion : Conversion)
    (docSection : DocSection) :
    Prop where
  schemas : ∀ other, compiled.Describes other ∧ other.typeId = node.id ↔ other = schema
  conversions : ∀ other, compiled.Converts other ∧ other.typeId = node.id ↔ other = conversion
  sections : ∀ other, compiled.Documents other ∧ other.typeId = node.id ↔ other = docSection
  roots : ∀ root ∈ compiled.roots, root.node.id = node.id →
    root.schema = (if node.noSchema then none else some schema) ∧
      root.conversion = conversion ∧ root.doc = node.doc.map (DocPage.ofSchema schema)

theorem CompiledGroup.Steps.holdsOnly
    {manifest : Manifest}
    {group : GroupPlan}
    {registry : Registry}
    {roots : List TypeNode}
    {ofRoots : List Conversion}
    {compiled : CompiledGroup}
    (steps : compiled.Steps manifest group registry roots ofRoots)
    {node : TypeNode}
    (member : node ∈ compiled.graph.nodes) :
    compiled.HoldsOnly node (node.schema compiled.readOnly) node.conversion
      (.ofSchema (node.schema compiled.readOnly)) := by
  have derived := steps.derives
  have typeIds := (node.shownBy compiled.readOnly).typeIds
  -- A node of the type is the node, so what is made of it is what is made of the node.
  have isNode : ∀ other ∈ compiled.graph.nodes, other.id = node.id → other = node :=
    fun other isOther => derived.built.coherent.eq_of_id_eq other isOther node member
  refine ⟨fun other => ⟨?_, ?_⟩, fun other => ⟨?_, ?_⟩, fun other => ⟨?_, ?_⟩,
    fun root isRoot named => ?_⟩
  · rintro ⟨describes, named⟩
    obtain ⟨outer, isOuter, rfl⟩ := steps.node_of_describes describes
    rw [isNode outer isOuter ((outer.schema_typeId _).symm.trans named)]
  · rintro rfl
    exact ⟨derived.describes member, typeIds.1⟩
  · rintro ⟨converts, named⟩
    obtain ⟨outer, isOuter, rfl⟩ := derived.node_of_converts converts
    rw [isNode outer isOuter (outer.conversion_typeId.symm.trans named)]
  · rintro rfl
    exact ⟨⟨_, .inl (derived.conversionOf node member), .refl⟩, typeIds.2.1⟩
  · rintro ⟨documents, named⟩
    obtain ⟨outer, isOuter, rfl⟩ := steps.node_of_documents documents
    rw [isNode outer isOuter ((outer.schema_typeId _).symm.trans named)]
  · rintro rfl
    exact ⟨.inr ⟨_, ⟨"", ""⟩, derived.describes member, List.mem_cons_self⟩, typeIds.2.2⟩
  · obtain ⟨isOuter, converted⟩ := derived.rooted root isRoot
    obtain ⟨isSchema, isDoc⟩ := steps.ofNode root isRoot
    have same := isNode root.node isOuter named
    rw [same] at isSchema isDoc converted
    exact ⟨isSchema, converted.symm, isDoc⟩

/-- The fields of every node of a compiled group are made of the declared fields that are not
excluded. There is one schema, one conversion and one section for the type of the node, and
each of them shows these fields one for one; the conversion names the excluded ones. -/
theorem GroupPlan.compile_aligned
    {manifest : Manifest}
    {group : GroupPlan}
    {compiled : CompiledGroup}
    (accepted : group.compile manifest = .ok compiled)
    {node : TypeNode}
    (member : node ∈ compiled.graph.nodes) :
    ∃ registry definition schema conversion docSection,
      Registry.ofGroup manifest group = .ok registry ∧
      manifest.get? node.id = some definition ∧
      List.Forall₂ (FieldNode.MadeOf (registry.table node.id))
        (definition.fields.filter fun declaration =>
          !(registry.table node.id).excludes declaration.name)
        node.fields ∧
      conversion.omitted = definition.fieldNames.filter (registry.table node.id).excludes ∧
      node.ShownBy group.readOnly schema conversion docSection ∧
      compiled.HoldsOnly node schema conversion docSection := by
  obtain ⟨registry, roots, ofRoots, steps⟩ := GroupPlan.compile_steps accepted
  have matching := steps.derives.built.matches_of_mem member
  obtain ⟨definition, found, made⟩ := matching.made
  obtain ⟨_, foundAgain, _, excluded⟩ := matching.declared_eq
  obtain rfl := Option.some.inj (foundAgain.symm.trans found)
  have shown := node.shownBy compiled.readOnly
  exact ⟨registry, _, _, _, _, steps.resolved, found, made, shown.omitted.trans excluded,
    steps.readOnly ▸ shown, steps.holdsOnly member⟩

/-- Orders are shown without their notes. -/
theorem GroupPlan.compile_aligned_orders :
    ∃ compiled node schema conversion docSection,
      Orders.group.compile Orders.manifest = .ok compiled ∧
      node ∈ compiled.graph.nodes ∧
      node.id = Orders.order.id ∧
      node.ShownBy false schema conversion docSection ∧
      compiled.HoldsOnly node schema conversion docSection ∧
      schema.elements.map SchemaElement.name =
        ["number", "main", "spare", "items", "prices", "total"] ∧
      conversion.omitted = ["Note"] := by
  obtain ⟨compiled, accepted, anyPasses⟩ :=
    @Orders.compiles
      (fun compiled => compiled.graph.nodes.any fun node =>
        node.id == Orders.order.id && node.excluded == ["Note"] &&
          node.fields.map FieldNode.external ==
            ["number", "main", "spare", "items", "prices", "total"])
      (by decide +kernel)
  obtain ⟨node, member, passes⟩ := List.any_eq_true.mp anyPasses
  simp only [Bool.and_eq_true, beq_iff_eq] at passes
  obtain ⟨⟨named, excluded⟩, names⟩ := passes
  obtain ⟨_, _, schema, conversion, docSection, _, _, _, _, shown, holdsOnly⟩ :=
    GroupPlan.compile_aligned accepted member
  have sameNames : schema.elements.map SchemaElement.name =
      node.fields.map FieldNode.external := by
    rw [← List.forall₂_eq_eq_eq, List.forall₂_map_left_iff, List.forall₂_map_right_iff]
    exact shown.elements.flip.imp fun _ _ held => held.name
  exact ⟨compiled, node, schema, conversion, docSection, accepted, member, named, shown,
    holdsOnly, sameNames.trans names, shown.omitted.trans excluded⟩

end BlockSchema
