import BlockSchema.Proofs.Conversion.Settled
import BlockSchema.Proofs.Group.Schemas

/-!
Contract: a schema says of a field what the conversion does with it.

A default is what expanding fills in for a missing key, a nullable element is a pointer that
is then absent, and computed is what expanding does not read. Defaults and optionality are
read off the effects on a field, zero values off its shape; they meet here.
-/

set_option autoImplicit false

namespace BlockSchema

private theorem FieldShape.isSingle_map {ν μ : Type} (change : ν → μ) (shape : FieldShape ν) :
    (shape.map change).isSingle = shape.isSingle := by
  obtain ⟨arity, target⟩ := shape
  cases arity <;> cases target <;> rfl

/-! ## Elements and entries of one field -/

namespace Optionality

variable {effects : FieldEffects}

private theorem ofEffects_of_computedOnly
    (readOnly : Bool)
    (computedOnly : effects.computedOnly = true) :
    ofEffects readOnly effects = .computed := by
  simp [ofEffects, computedOnly]

private theorem computedOnly_of_ofEffects (computed : ofEffects false effects = .computed) :
    effects.computedOnly = true := by
  by_contra accepted
  simp only [ofEffects, accepted, Bool.false_eq_true, if_false] at computed
  split at computed
  next => cases computed
  next => split at computed <;> cases computed

private theorem ofEffects_readOnly (effects : FieldEffects) :
    ofEffects true effects = .required ∨ ofEffects true effects = .computed := by
  unfold ofEffects
  by_cases computedOnly : effects.computedOnly
  · exact .inr (if_pos computedOnly)
  · by_cases required : effects.required <;> simp [computedOnly, required]

end Optionality

private theorem SchemaElement.optional_of_defaultOf
    {σ : Type}
    {optionality : Optionality}
    {nullable : Bool}
    {shape : FieldShape σ}
    {scalar : Scalar}
    (default : defaultOf optionality nullable shape = some scalar) :
    optionality = .optional ∧
      ∃ type, shape = ⟨.plain, .scalar type⟩ ∧ Scalar.zero type.kind = scalar := by
  obtain ⟨arity, target⟩ := shape
  cases arity with
  | plain =>
      cases target with
      | scalar type =>
          simp only [defaultOf] at default
          split at default
          next held => exact ⟨held.1, type, rfl, Option.some.inj default⟩
          next => cases default
      | struct nested => cases default
  | _ => cases default

namespace FieldNode

variable {readOnly : Bool} {field : FieldNode TypeNode}

private theorem optional_of_nullable (nullable : (field.element readOnly).nullable = true) :
    (field.element readOnly).optionality = .optional ∧
      (field.effects.nullable || field.shape.isPointer) = true := by
  obtain ⟨optional, held⟩ := Bool.and_eq_true_iff.mp nullable
  exact ⟨beq_iff_eq.mp optional, held⟩

/-- A default is the zero value of the field, and written the same. -/
theorem zero_of_default
    {scalar : Scalar}
    (default : (field.element readOnly).default = some scalar) :
    field.conversion.zero = .scalar scalar ∧ field.conversion.blank = .scalar scalar := by
  obtain ⟨_, type, isScalar, rfl⟩ := SchemaElement.optional_of_defaultOf default
  obtain ⟨declared, external, ⟨arity, target⟩, effects, version, description⟩ := field
  obtain ⟨rfl, isTarget⟩ := FieldShape.mk.inj isScalar
  cases target with
  | scalar own =>
      obtain rfl := Target.scalar.inj isTarget
      exact ⟨rfl, rfl⟩
  | struct nested => cases isTarget

/-- A nullable field that survives a round trip is a pointer. -/
theorem isPointer_of_nullable
    (faultless : field.roundTripFault? = none)
    (nullable : (field.element readOnly).nullable = true) :
    field.conversion.shape.isPointer = true := by
  change field.shape.isPointer = true
  cases pointer : field.shape.isPointer with
  | true => rfl
  | false =>
      have effect : field.effects.nullable = true := by
        simpa [pointer] using (optional_of_nullable nullable).2
      simp [roundTripFault?, effect, pointer] at faultless

private theorem zero_of_isPointer (pointer : field.conversion.shape.isPointer = true) :
    field.conversion.zero = .pointer none := by
  obtain ⟨declared, external, ⟨arity, target⟩, effects, version, description⟩ := field
  obtain rfl : arity = .pointer := beq_iff_eq.mp pointer
  cases target <;> rfl

private theorem isSingle_iff :
    (∃ nested, (field.element readOnly).kind = .block 1 nested) ↔
      field.conversion.shape.isSingle = true := by
  change (∃ nested, ElementKind.ofShape (field.shape.map (TypeNode.schema readOnly)) =
    .block 1 nested) ↔ (field.shape.map TypeNode.conversion).isSingle = true
  rw [FieldShape.isSingle_map]
  obtain ⟨declared, external, ⟨arity, target⟩, effects, version, description⟩ := field
  cases arity <;> cases target <;>
    simp [FieldShape.map, Target.map, ElementKind.ofShape, FieldShape.isSingle]

/-- What expanding does not read is computed. -/
theorem computed_of_ignored (ignored : field.conversion.readsInput = false) :
    (field.element readOnly).optionality = .computed := by
  have computedOnly : field.effects.computedOnly = true :=
    Bool.not_inj (show (!field.effects.computedOnly) = !true from ignored)
  exact Optionality.ofEffects_of_computedOnly readOnly computedOnly

private theorem ignored_of_computed (computed : (field.element false).optionality = .computed) :
    field.conversion.readsInput = false := by
  have computedOnly : field.effects.computedOnly = true :=
    Optionality.computedOnly_of_ofEffects computed
  exact congrArg not computedOnly

/-- Nothing that is read only is optional, so it has no default and is not nullable. -/
theorem element_readOnly (field : FieldNode TypeNode) :
    ((field.element true).optionality = .required ∨
      (field.element true).optionality = .computed) ∧
    (field.element true).default = none ∧ (field.element true).nullable = false := by
  have optionality : (field.element true).optionality = .required ∨
      (field.element true).optionality = .computed := Optionality.ofEffects_readOnly field.effects
  have notOptional : (field.element true).optionality ≠ .optional := by
    rcases optionality with required | computed
    · simp [required]
    · simp [computed]
  refine ⟨optionality, ?_, ?_⟩
  · refine Option.eq_none_iff_forall_ne_some.mpr fun scalar default => notOptional ?_
    exact (SchemaElement.optional_of_defaultOf default).1
  · exact Bool.eq_false_iff.mpr fun nullable => notOptional (optional_of_nullable nullable).1

end FieldNode

/-- A key that is not given leaves the zero value, which is written as blank. -/
theorem Conversion.Unambiguous.expand_missing
    {conversion : Conversion}
    (unambiguous : conversion.Unambiguous)
    {field : FieldConversion Conversion}
    (member : field ∈ conversion.fields)
    {block : Entries Value}
    {struct : TypedStruct}
    (expanded : conversion.expand (.block block) = .ok struct)
    (missing : block.get? field.external = none) :
    Entries.get? field.declared struct.fields = some field.zero ∧
      ∃ flat : Entries Value, conversion.flatten struct = .ok (.block flat) ∧
        flat.get? field.external = some field.blank := by
  have notGiven : field.shape.given? (block.get? field.external) = none := by
    rw [missing]
    exact FieldShape.given?_of_not_present rfl
  have isZero : field.expand block = .ok field.zero := by
    rw [FieldConversion.expand, Conversion.expandShape_of_not_given notGiven, FieldConversion.zero]
    split <;> rfl
  have isBlank : field.settled block = field.blank := by
    rw [FieldConversion.settled, Conversion.settledShape_of_none notGiven, FieldConversion.blank]
    split <;> rfl
  have flattened := (unambiguous.settles _ _ expanded).1
  rw [Conversion.settled_block] at flattened
  obtain ⟨declared, external, _⟩ := unambiguous
  obtain ⟨_, _, same, made⟩ := Conversion.expand_eq_ok.mp expanded
  obtain rfl := Value.block.inj same
  obtain ⟨value, isValue, found⟩ := Entries.get?_of_mapM declared made member
  obtain rfl := Except.ok.inj (isZero.symm.trans isValue)
  refine ⟨found, _, flattened, ?_⟩
  rw [Entries.get?_map_of_mem external (fun field => field.settled block) member, isBlank]

/-! ## Compiled groups -/

/-- An element says of a field what the conversion with the entry does. -/
structure SchemaElement.Governs
    (readOnly : Bool)
    (conversion : Conversion)
    (element : SchemaElement Schema)
    (entry : FieldConversion Conversion) :
    Prop where
  name : element.name = entry.external
  /-- A default fills in for a missing key, and is written back. -/
  default : ∀ scalar, element.default = some scalar →
    ∀ (block : Entries Value) struct, conversion.expand (.block block) = .ok struct →
      block.get? element.name = none →
        Entries.get? entry.declared struct.fields = some (.scalar scalar) ∧
          ∃ flat : Entries Value, conversion.flatten struct = .ok (.block flat) ∧
            flat.get? element.name = some (.scalar scalar)
  /-- Without its key, what is nullable is an absent pointer. -/
  nullable : element.nullable = true → entry.shape.isPointer = true ∧
    ∀ (block : Entries Value) struct, conversion.expand (.block block) = .ok struct →
      block.get? element.name = none →
        Entries.get? entry.declared struct.fields = some (.pointer none)
  single : (∃ nested, element.kind = .block 1 nested) ↔ entry.shape.isSingle = true
  computed : entry.readsInput = false → element.optionality = .computed
  ignored : readOnly = false → element.optionality = .computed → entry.readsInput = false

private theorem FieldNode.governs
    (readOnly : Bool)
    {field : FieldNode TypeNode}
    (faultless : field.roundTripFault? = none)
    {conversion : Conversion}
    (unambiguous : conversion.Unambiguous)
    (member : field.conversion ∈ conversion.fields) :
    (field.element readOnly).Governs readOnly conversion field.conversion where
  name := rfl
  default scalar default block struct expanded missing := by
    obtain ⟨isZero, isBlank⟩ := field.zero_of_default default
    obtain ⟨found, flat, flattened, written⟩ :=
      unambiguous.expand_missing member expanded missing
    exact ⟨isZero ▸ found, flat, flattened, isBlank ▸ written⟩
  nullable nullable := by
    have pointer := field.isPointer_of_nullable faultless nullable
    refine ⟨pointer, fun block struct expanded missing => ?_⟩
    rw [← field.zero_of_isPointer pointer]
    exact (unambiguous.expand_missing member expanded missing).1
  single := field.isSingle_iff
  computed := field.computed_of_ignored
  ignored writable computed := by
    subst writable
    exact field.ignored_of_computed computed

private theorem TypeNode.roundTripFault?_eq_none
    {node : TypeNode}
    (faultless : node.conversionFault? = none)
    {field : FieldNode TypeNode}
    (member : field ∈ node.fields) :
    field.roundTripFault? = none := by
  rw [TypeNode.conversionFault?_eq, List.findSome?_eq_none_iff] at faultless
  have none := faultless field member
  rw [FieldNode.faultAtOrBelow?, FieldNode.conversionFault?, Option.or_eq_none_iff,
    Option.map_eq_none_iff] at none
  exact none.1

/-- The nodes of a compiled group can be converted. -/
theorem CompiledGroup.Steps.faultless
    {manifest : Manifest}
    {group : GroupPlan}
    {registry : Registry}
    {roots : List TypeNode}
    {ofRoots : List Conversion}
    {compiled : CompiledGroup}
    (steps : compiled.Steps manifest group registry roots ofRoots)
    {node : TypeNode}
    (member : node ∈ compiled.graph.nodes) :
    node.conversionFault? = none := by
  have coherent := steps.derives.built.coherent
  obtain ⟨remembers, _, _⟩ :=
    Conversion.deriveGroup_eq_ok coherent steps.roots_among steps.derived
  obtain ⟨other, isOther, converted⟩ :=
    remembers node.conversion (steps.derives.conversionOf node member)
  obtain ⟨faultless, same⟩ := TypeNode.converted_eq_ok.mp converted
  have named : other.id = node.id := by
    rw [← other.conversion_typeId, same, node.conversion_typeId]
  exact coherent.eq_of_id_eq other isOther node member named ▸ faultless

/-- In a compiled group the elements of a schema govern the entries of the conversion of its
type. In a group that is read only nothing in any schema is optional. -/
theorem GroupPlan.compile_governed
    {manifest : Manifest}
    {group : GroupPlan}
    {compiled : CompiledGroup}
    (accepted : group.compile manifest = .ok compiled) :
    (∀ schema conversion, compiled.Describes schema → compiled.Converts conversion →
      schema.typeId = conversion.typeId →
        List.Forall₂ (SchemaElement.Governs group.readOnly conversion)
          schema.elements conversion.fields) ∧
    (group.readOnly = true → ∀ schema, compiled.Describes schema → ∀ element ∈ schema.elements,
      (element.optionality = .required ∨ element.optionality = .computed) ∧
        element.default = none ∧ element.nullable = false) := by
  obtain ⟨registry, roots, ofRoots, steps⟩ := GroupPlan.compile_steps accepted
  have derived := steps.derives
  rw [← steps.readOnly]
  constructor
  · intro schema conversion describes converts sameType
    obtain ⟨node, member, rfl⟩ := steps.node_of_describes describes
    obtain ⟨other, isOther, rfl⟩ := derived.node_of_converts converts
    rw [TypeNode.schema_typeId, TypeNode.conversion_typeId] at sameType
    obtain rfl := derived.built.coherent.eq_of_id_eq node member other isOther sameType
    have unambiguous := derived.built.conversion_unambiguous member
    have faultless := steps.faultless member
    have fieldsEq : node.conversion.fields = node.fields.map FieldNode.conversion := by
      rw [TypeNode.conversion_eq]
    rw [TypeNode.schema_eq, fieldsEq, List.forall₂_map_left_iff, List.forall₂_map_right_iff,
      List.forall₂_same]
    intro field isField
    refine FieldNode.governs compiled.readOnly (TypeNode.roundTripFault?_eq_none faultless isField)
      unambiguous ?_
    rw [fieldsEq]
    exact List.mem_map_of_mem isField
  · intro readOnly schema describes element member
    obtain ⟨node, _, rfl⟩ := steps.node_of_describes describes
    rw [readOnly, TypeNode.schema_eq] at member
    obtain ⟨field, _, rfl⟩ := List.mem_map.mp member
    exact field.element_readOnly

/-- Of an order, the number alone has a default. -/
theorem GroupPlan.compile_governed_orders :
    ∃ compiled schema conversion,
      Orders.group.compile Orders.manifest = .ok compiled ∧
      compiled.Describes schema ∧
      compiled.Converts conversion ∧
      schema.typeId = Orders.order.id ∧
      conversion.typeId = Orders.order.id ∧
      schema.elements.map SchemaElement.default = [some (.int 0), none, none, none, none, none] ∧
      List.Forall₂ (SchemaElement.Governs false conversion)
        schema.elements conversion.fields := by
  obtain ⟨compiled, accepted, anyPasses⟩ :=
    @Orders.compiles
      (fun compiled => compiled.graph.nodes.any fun node =>
        node.id == Orders.order.id &&
          (node.schema compiled.readOnly).elements.map SchemaElement.default ==
            [some (.int 0), none, none, none, none, none])
      (by decide +kernel)
  obtain ⟨node, member, passes⟩ := List.any_eq_true.mp anyPasses
  simp only [Bool.and_eq_true, beq_iff_eq] at passes
  obtain ⟨named, defaults⟩ := passes
  obtain ⟨_, _, derived⟩ := GroupPlan.compile_derived accepted
  have describes := derived.describes member
  have converts : compiled.Converts node.conversion :=
    ⟨_, .inl (derived.conversionOf node member), .refl⟩
  have sameType : (node.schema compiled.readOnly).typeId = node.conversion.typeId := by
    rw [TypeNode.schema_typeId, TypeNode.conversion_typeId]
  have governs :=
    (GroupPlan.compile_governed accepted).1 _ _ describes converts sameType
  exact ⟨compiled, _, _, accepted, describes, converts,
    (node.schema_typeId _).trans named, node.conversion_typeId.trans named, defaults, governs⟩

end BlockSchema
