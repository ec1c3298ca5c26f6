import BlockSchema.Proofs.Conversion.Fields
import BlockSchema.Proofs.Group.Conversions
import BlockSchema.Proofs.Schema.Derivation

/-!
Contract: the values that a schema admits are those that the conversion of the type takes
and gives.

A schema and a conversion are derived from one node by themselves. What the schema admits
the conversion expands, and what the conversion flattens the schema admits, at every depth.
-/

set_option autoImplicit false

namespace BlockSchema

/-! ## Admitted values -/

/-- Whether a value is a scalar of a kind. -/
def Value.isScalarOf (kind : ScalarKind) : Value → Bool
  | .scalar held => held.kind == kind
  | _ => false

mutual

/-- Whether a value is a block that holds under the name of every element what the element
admits. Other keys do not count. -/
def Schema.admits : Schema → Value → Bool
  | ⟨_, _, elements⟩, .block block => Schema.admitsElements elements block
  | _, _ => false

/-- Whether a block holds what every element admits. -/
def Schema.admitsElements : List (SchemaElement Schema) → Entries Value → Bool
  | [], _ => true
  | ⟨name, kind, _, _, _, _, _, _, _⟩ :: rest, block =>
      (block.get? name).all (Schema.admitsUnder kind) && Schema.admitsElements rest block

/-- Whether an element may hold a value. Every element may hold a null. -/
def Schema.admitsUnder : ElementKind Schema → Value → Bool
  | _, .null => true
  | .scalar kind _, value => value.isScalarOf kind
  | .list kind, .list items => items.all (Value.isScalarOf kind)
  | .map kind, .block entries => entries.all fun entry => entry.2.isScalarOf kind
  | .block limit schema, .list items => items.length ≤ limit && items.all schema.admits
  | .blockList schema, .list items => items.all schema.admits
  | .blockMap schema, .block entries => entries.all fun entry => schema.admits entry.2
  | _, _ => false

end

mutual

/-- Whether a value is a block without nulls other than under pointers to scalars, at every
depth. -/
def Conversion.nullsAtPointers : Conversion → Value → Bool
  | ⟨_, fields, _⟩, .block block => Conversion.nullsAtPointersIn fields block
  | _, _ => false

/-- Whether the nulls under fields all stand for pointers to scalars. -/
def Conversion.nullsAtPointersIn :
    List (FieldConversion Conversion) → Entries Value → Bool
  | [], _ => true
  | ⟨_, external, shape, _⟩ :: rest, block =>
      (block.get? external).all (Conversion.nullsAtPointersUnder shape) &&
        Conversion.nullsAtPointersIn rest block

/-- Whether a value has nulls only where the shape has pointers to scalars. -/
def Conversion.nullsAtPointersUnder : FieldShape Conversion → Value → Bool
  | ⟨.pointer, .scalar _⟩, .null => true
  | ⟨_, target⟩, .list items => items.all (Conversion.nullsAtPointersAt target)
  | ⟨_, target⟩, .block entries =>
      entries.all fun entry => Conversion.nullsAtPointersAt target entry.2
  | ⟨_, target⟩, value => Conversion.nullsAtPointersAt target value

/-- Whether a scalar is no null, or a nested block has none but under pointers. -/
def Conversion.nullsAtPointersAt : Target Conversion → Value → Bool
  | .scalar _, .scalar _ => true
  | .scalar _, _ => false
  | .struct nested, value => nested.nullsAtPointers value

end

private theorem Schema.admits_block {schema : Schema} {block : Entries Value} :
    schema.admits (.block block) = true ↔
      ∀ element ∈ schema.elements, ∀ value, block.get? element.name = some value →
        Schema.admitsUnder element.kind value = true := by
  have elementsAdmit : ∀ elements, Schema.admitsElements elements block = true ↔
      ∀ element ∈ elements, ∀ value, block.get? element.name = some value →
        Schema.admitsUnder element.kind value = true := by
    intro elements
    induction elements with
    | nil => simp [Schema.admitsElements]
    | cons element rest inductionHypothesis =>
        simp [Schema.admitsElements, inductionHypothesis, Option.all_eq_true]
  cases schema with
  | mk => rw [Schema.admits, elementsAdmit]

private theorem Conversion.nullsAtPointers_block {conversion : Conversion} {block : Entries Value} :
    conversion.nullsAtPointers (.block block) = true ↔
      ∀ field ∈ conversion.fields, ∀ value, block.get? field.external = some value →
        Conversion.nullsAtPointersUnder field.shape value = true := by
  have fieldsHold : ∀ fields, Conversion.nullsAtPointersIn fields block = true ↔
      ∀ field ∈ fields, ∀ value, block.get? field.external = some value →
        Conversion.nullsAtPointersUnder field.shape value = true := by
    intro fields
    induction fields with
    | nil => simp [Conversion.nullsAtPointersIn]
    | cons field rest inductionHypothesis =>
        simp [Conversion.nullsAtPointersIn, inductionHypothesis, Option.all_eq_true]
  cases conversion with
  | mk => rw [Conversion.nullsAtPointers, fieldsHold]

private theorem Schema.eq_block_of_admits {schema : Schema} {value : Value}
    (admitted : schema.admits value = true) :
    ∃ block, value = .block block := by
  cases value with
  | block entries => exact ⟨entries, rfl⟩
  | _ =>
      cases schema
      simp [Schema.admits] at admitted

private theorem Value.scalarAs?_of_isScalarOf {kind : ScalarKind} {value : Value}
    (isScalar : value.isScalarOf kind = true) :
    ∃ scalar, value.scalarAs? kind = some scalar := by
  cases value with
  | scalar scalar => exact ⟨scalar, Value.scalarAs?_of_kind (beq_iff_eq.mp isScalar)⟩
  | _ => cases isScalar

/-- What may stand in a list or a map of a target. -/
def Target.admits (readOnly : Bool) : Target TypeNode → Value → Bool
  | .scalar type, value => value.isScalarOf type.kind
  | .struct node, value => (node.schema readOnly).admits value

section Elements

variable {readOnly : Bool} {value : Value}

private theorem ElementKind.ofShape_pointer {σ : Type} (target : Target σ) :
    ElementKind.ofShape ⟨.pointer, target⟩ = .ofShape ⟨.plain, target⟩ := by
  cases target <;> rfl

/-- A field that holds at most one may hold no value or one by itself. -/
theorem Schema.admitsUnder_plain {target : Target TypeNode} :
    Schema.admitsUnder (.ofShape ⟨.plain, target.map (TypeNode.schema readOnly)⟩) value = true ↔
      value = .null ∨ value = target.absent ∨
        ∃ element, value = target.single element ∧ target.admits readOnly element = true := by
  cases target with
  | scalar type =>
      cases value <;>
        simp [Schema.admitsUnder, ElementKind.ofShape, Target.map, Target.admits,
          Target.absent, Target.single]
  | struct node =>
      cases value with
      | list items =>
          rcases items with _ | ⟨first, _ | ⟨second, rest⟩⟩ <;>
            simp [Schema.admitsUnder, ElementKind.ofShape, Target.map, Target.admits,
              Target.absent, Target.single]
      | _ =>
          simp [Schema.admitsUnder, ElementKind.ofShape, Target.map, Target.absent,
            Target.single]

private theorem Schema.admitsUnder_list {target : Target TypeNode} :
    Schema.admitsUnder (.ofShape ⟨.list, target.map (TypeNode.schema readOnly)⟩) value = true ↔
      value = .null ∨ ∃ items, value = .list items ∧
        ∀ item ∈ items, target.admits readOnly item = true := by
  cases target <;> cases value <;>
    simp [Schema.admitsUnder, ElementKind.ofShape, Target.map, Target.admits]

private theorem Schema.admitsUnder_map {target : Target TypeNode} :
    Schema.admitsUnder (.ofShape ⟨.map, target.map (TypeNode.schema readOnly)⟩) value = true ↔
      value = .null ∨ ∃ entries : Entries Value, value = .block entries ∧
        ∀ entry ∈ entries, target.admits readOnly entry.2 = true := by
  cases target <;> cases value <;>
    simp [Schema.admitsUnder, ElementKind.ofShape, Target.map, Target.admits]

end Elements

/-! ## Admitted values are expanded -/

/-- The conversion of the node expands what its schema admits. -/
def TypeNode.Expands (readOnly : Bool) (node : TypeNode) : Prop :=
  ∀ value, (node.schema readOnly).admits value = true →
    ∃ struct, node.conversion.expand value = .ok struct

section Expanding

variable {readOnly : Bool} {shape : FieldShape TypeNode} {field : String}

private theorem Conversion.expandElement_of_admits
    {target : Target TypeNode}
    (below : ∀ inner, target.nested? = some inner → inner.Expands readOnly)
    {value : Value}
    (admitted : target.admits readOnly value = true) :
    ∃ expanded, Conversion.expandElement field (target.map TypeNode.conversion) value =
      .ok expanded := by
  cases target with
  | scalar type =>
      obtain ⟨scalar, held⟩ := Value.scalarAs?_of_isScalarOf admitted
      exact ⟨_, Conversion.expandElement_scalar_eq_ok.mpr ⟨scalar, held, rfl⟩⟩
  | struct node =>
      obtain ⟨struct, expanded⟩ := below node rfl value admitted
      exact ⟨_, Conversion.expandElement_struct_eq_ok.mpr ⟨struct, expanded, rfl⟩⟩

/-- The value of a field is expanded when its element may hold it. -/
theorem Conversion.expandShape_of_admitsUnder
    (below : ∀ inner, shape.nested? = some inner → inner.Expands readOnly)
    {value : Value}
    (admitted :
      Schema.admitsUnder (.ofShape (shape.map (TypeNode.schema readOnly))) value = true) :
    ∃ expanded, Conversion.expandShape field (shape.map TypeNode.conversion) (some value) =
      .ok expanded := by
  by_cases isNull : value = .null
  · subst isNull
    exact ⟨_, Conversion.expandShape_of_not_given (FieldShape.given?_of_not_present rfl)⟩
  obtain ⟨arity, target⟩ := shape
  rw [FieldShape.map] at admitted ⊢
  cases arity with
  | plain =>
      rcases (Schema.admitsUnder_plain.mp admitted).resolve_left isNull with
        rfl | ⟨element, rfl, admittedElement⟩
      · exact ⟨_, Conversion.expandShape_of_not_given Target.given?_absent⟩
      · obtain ⟨expanded, isExpanded⟩ := Conversion.expandElement_of_admits below admittedElement
        refine ⟨_, Conversion.expandShape_plain_eq_ok.mpr (.inr ⟨element, ?_, isExpanded⟩)⟩
        rw [Target.single_map]
  | pointer =>
      rw [ElementKind.ofShape_pointer] at admitted
      rcases (Schema.admitsUnder_plain.mp admitted).resolve_left isNull with
        rfl | ⟨element, rfl, admittedElement⟩
      · exact ⟨_, Conversion.expandShape_of_not_given Target.given?_absent⟩
      · obtain ⟨expanded, isExpanded⟩ := Conversion.expandElement_of_admits below admittedElement
        refine ⟨_, Conversion.expandShape_pointer_eq_ok.mpr
          (.inr ⟨element, expanded, ?_, isExpanded, rfl⟩)⟩
        rw [Target.single_map]
  | list =>
      obtain ⟨items, rfl, each⟩ := (Schema.admitsUnder_list.mp admitted).resolve_left isNull
      obtain ⟨values, areRead⟩ := Results.exists_mapM_eq_ok fun item member =>
        Conversion.expandElement_of_admits below (each item member)
      exact ⟨_, Conversion.expandShape_list_eq_ok.mpr (.inr ⟨items, values, rfl, areRead, rfl⟩)⟩
  | map =>
      obtain ⟨entries, rfl, each⟩ := (Schema.admitsUnder_map.mp admitted).resolve_left isNull
      obtain ⟨values, areRead⟩ := Entries.exists_alike fun entry member =>
        Conversion.expandElement_of_admits below (each entry member)
      exact ⟨_, Conversion.expandShape_map_eq_ok.mpr
        (.inr ⟨entries, values, rfl, areRead, rfl⟩)⟩

end Expanding

private theorem TypeNode.expands (readOnly : Bool) (node : TypeNode) : node.Expands readOnly := by
  induction node using TypeNode.induction with
  | step node inductionHypothesis =>
      intro value admitted
      obtain ⟨block, rfl⟩ := Schema.eq_block_of_admits admitted
      rw [TypeNode.schema_eq, Schema.admits_block] at admitted
      rw [TypeNode.conversion_eq, Conversion.expand_block]
      obtain ⟨fields, made⟩ : ∃ fields, ((node.fields.map FieldNode.conversion).mapM fun field =>
          (field.expand block).map (Prod.mk field.declared)) = .ok fields := by
        refine Results.exists_mapM_eq_ok fun entry entryMember => ?_
        obtain ⟨field, member, rfl⟩ := List.mem_map.mp entryMember
        suffices expanded : ∃ value, field.conversion.expand block = .ok value by
          obtain ⟨value, isValue⟩ := expanded
          exact ⟨(field.declared, value), by rw [isValue]; rfl⟩
        rw [FieldConversion.expand]
        split
        next =>
          cases held : Entries.get? field.conversion.external block with
          | none =>
              exact ⟨_, Conversion.expandShape_of_not_given (FieldShape.given?_of_not_present rfl)⟩
          | some value =>
              refine Conversion.expandShape_of_admitsUnder (fun inner isNested =>
                inductionHypothesis inner (TypeNode.mem_nested.mpr ⟨field, member, isNested⟩)) ?_
              exact admitted (field.element readOnly) (List.mem_map_of_mem member) value held
        next => exact ⟨_, rfl⟩
      rw [made]
      exact ⟨_, rfl⟩

/-! ## Flattened values are admitted -/

/-- The schema of the node admits what its conversion flattens, and the flattened block has
no nulls but for absent pointers to scalars. -/
def TypeNode.Flattens (readOnly : Bool) (node : TypeNode) : Prop :=
  ∀ type given flat, node.conversion.flattenStruct type given = .ok flat →
    (node.schema readOnly).admits flat = true ∧ node.conversion.nullsAtPointers flat = true

section Flattening

variable {readOnly : Bool} {shape : FieldShape TypeNode} {field : String}

private theorem Conversion.admits_of_flattenElement
    {target : Target TypeNode}
    (below : ∀ inner, target.nested? = some inner → inner.Flattens readOnly)
    {value : TypedValue}
    {flat : Value}
    (flattened :
      Conversion.flattenElement field (target.map TypeNode.conversion) value = .ok flat) :
    target.admits readOnly flat = true ∧
      Conversion.nullsAtPointersAt (target.map TypeNode.conversion) flat = true := by
  cases target with
  | scalar type =>
      obtain ⟨scalar, rfl, same, rfl⟩ := Conversion.flattenElement_scalar_eq_ok.mp flattened
      exact ⟨beq_iff_eq.mpr same, rfl⟩
  | struct node =>
      obtain ⟨type, given, rfl, isFlat⟩ := Conversion.flattenElement_struct_eq_ok.mp flattened
      exact below node rfl type given flat isFlat

private theorem Conversion.nullsAtPointersUnder_list
    {arity : Arity}
    {target : Target Conversion}
    {items : List Value} :
    Conversion.nullsAtPointersUnder ⟨arity, target⟩ (.list items) = true ↔
      ∀ item ∈ items, Conversion.nullsAtPointersAt target item = true := by
  cases arity <;> cases target <;> exact List.all_eq_true

private theorem Conversion.nullsAtPointersUnder_block
    {arity : Arity}
    {target : Target Conversion}
    {entries : Entries Value} :
    Conversion.nullsAtPointersUnder ⟨arity, target⟩ (.block entries) = true ↔
      ∀ entry ∈ entries, Conversion.nullsAtPointersAt target entry.2 = true := by
  cases arity <;> cases target <;> exact List.all_eq_true

private theorem Conversion.nullsAtPointersUnder_single
    {arity : Arity}
    {target : Target Conversion}
    {element : Value}
    (held : Conversion.nullsAtPointersAt target element = true) :
    Conversion.nullsAtPointersUnder ⟨arity, target⟩ (target.single element) = true := by
  cases target with
  | scalar type =>
      cases element with
      | scalar scalar => cases arity <;> rfl
      | _ => cases held
  | struct nested =>
      refine Conversion.nullsAtPointersUnder_list.mpr fun item member => ?_
      exact List.mem_singleton.mp member ▸ held

private theorem Conversion.admitsUnder_of_flattenShape
    (below : ∀ inner, shape.nested? = some inner → inner.Flattens readOnly)
    {value : TypedValue}
    {flat : Value}
    (flattened :
      Conversion.flattenShape field (shape.map TypeNode.conversion) value = .ok flat) :
    Schema.admitsUnder (.ofShape (shape.map (TypeNode.schema readOnly))) flat = true ∧
      Conversion.nullsAtPointersUnder (shape.map TypeNode.conversion) flat = true := by
  obtain ⟨arity, target⟩ := shape
  rw [FieldShape.map] at flattened
  rw [FieldShape.map, FieldShape.map]
  cases arity with
  | plain =>
      obtain ⟨element, isFlat, rfl⟩ := Conversion.flattenShape_plain_eq_ok.mp flattened
      obtain ⟨admitted, held⟩ := Conversion.admits_of_flattenElement below isFlat
      refine ⟨Schema.admitsUnder_plain.mpr (.inr (.inr ⟨element, ?_, admitted⟩)),
        Conversion.nullsAtPointersUnder_single held⟩
      rw [Target.single_map]
  | pointer =>
      rw [ElementKind.ofShape_pointer]
      rcases Conversion.flattenShape_pointer_eq_ok.mp flattened with
        ⟨rfl, rfl⟩ | ⟨inner, element, rfl, isFlat, rfl⟩
      · cases target <;> exact ⟨rfl, rfl⟩
      · obtain ⟨admitted, held⟩ := Conversion.admits_of_flattenElement below isFlat
        refine ⟨Schema.admitsUnder_plain.mpr (.inr (.inr ⟨element, ?_, admitted⟩)),
          Conversion.nullsAtPointersUnder_single held⟩
        rw [Target.single_map]
  | list =>
      obtain ⟨items, flats, rfl, areFlats, rfl⟩ :=
        Conversion.flattenShape_list_eq_ok.mp flattened
      have each : ∀ flat ∈ flats, target.admits readOnly flat = true ∧
          Conversion.nullsAtPointersAt (target.map TypeNode.conversion) flat = true := by
        intro flat member
        obtain ⟨item, _, isFlat⟩ :=
          Results.exists_of_mem_right (Results.mapM_eq_ok.mp areFlats) member
        exact Conversion.admits_of_flattenElement below isFlat
      refine ⟨Schema.admitsUnder_list.mpr (.inr ⟨flats, rfl, fun flat member =>
        (each flat member).1⟩), ?_⟩
      rw [Conversion.nullsAtPointersUnder_list]
      exact fun flat member => (each flat member).2
  | map =>
      obtain ⟨entries, flats, rfl, areFlats, rfl⟩ :=
        Conversion.flattenShape_map_eq_ok.mp flattened
      have each : ∀ flat ∈ flats, target.admits readOnly flat.2 = true ∧
          Conversion.nullsAtPointersAt (target.map TypeNode.conversion) flat.2 = true := by
        intro flat member
        obtain ⟨entry, _, _, isFlat⟩ :=
          Results.exists_of_mem_right areFlats member
        exact Conversion.admits_of_flattenElement below isFlat
      refine ⟨Schema.admitsUnder_map.mpr (.inr ⟨flats, rfl, fun flat member =>
        (each flat member).1⟩), ?_⟩
      rw [Conversion.nullsAtPointersUnder_block]
      exact fun flat member => (each flat member).2

end Flattening

private theorem TypeNode.flattens (readOnly : Bool) (node : TypeNode)
    (unambiguous : node.conversion.Unambiguous) :
    node.Flattens readOnly := by
  induction node using TypeNode.induction with
  | step node inductionHypothesis =>
      intro type given flat flattened
      obtain ⟨declared, external, below⟩ := unambiguous
      obtain ⟨_, _, block, rfl, made⟩ := Conversion.flattenStruct_eq_ok.mp flattened
      have each : ∀ field ∈ node.fields, ∀ value,
          Entries.get? field.external block = some value →
          Schema.admitsUnder (field.element readOnly).kind value = true ∧
            Conversion.nullsAtPointersUnder field.conversion.shape value = true := by
        intro field member value found
        have entryMember : field.conversion ∈ node.conversion.fields := by
          rw [TypeNode.conversion_eq]
          exact List.mem_map_of_mem member
        obtain ⟨other, isFlat, foundOther⟩ := Entries.get?_of_mapM external made entryMember
        obtain rfl := Option.some.inj (found.symm.trans foundOther)
        refine Conversion.admitsUnder_of_flattenShape (fun inner isNested => ?_) isFlat
        have nests := TypeNode.mem_nested.mpr ⟨field, member, isNested⟩
        exact inductionHypothesis inner nests
          (below _ (TypeNode.mem_conversion_nested.mpr ⟨inner, nests, rfl⟩))
      rw [TypeNode.schema_eq, Schema.admits_block, Conversion.nullsAtPointers_block,
        TypeNode.conversion_eq]
      constructor
      · intro element elementMember
        obtain ⟨field, member, rfl⟩ := List.mem_map.mp elementMember
        exact fun value found => (each field member value found).1
      · intro entry entryMember
        obtain ⟨field, member, rfl⟩ := List.mem_map.mp entryMember
        exact fun value found => (each field member value found).2

/-! ## Compiled groups -/

/-- The schema and the conversion of a type in a compiled group agree on its values, whatever
schemas were derived before and whether they are read only. What the schema admits is
expanded. What is flattened is admitted, has the names of the elements as its keys in order,
and has no nulls but for absent pointers to scalars. -/
theorem GroupPlan.schema_agrees
    {manifest : Manifest}
    {group : GroupPlan}
    {compiled : CompiledGroup}
    (accepted : group.compile manifest = .ok compiled)
    {node : TypeNode}
    (member : node ∈ compiled.graph.nodes)
    (readOnly : Bool)
    {earlier : List TypeNode}
    (among : ∀ other ∈ earlier, other ∈ compiled.graph.nodes) :
    let schema := ((Schema.derive readOnly node).value (Schema.deriveAll readOnly earlier)).1
    ∃ conversion,
      compiled.conversions.find? (fun conversion => conversion.typeId = node.id) =
        some conversion ∧
      (∀ value, schema.admits value = true →
        ∃ struct, conversion.expand value = .ok struct) ∧
      (∀ struct flat, conversion.flatten struct = .ok flat →
        schema.admits flat = true ∧
        (∃ block : Entries Value, flat = .block block ∧
          block.keys = schema.elements.map SchemaElement.name) ∧
        conversion.nullsAtPointers flat = true) := by
  intro schema
  obtain ⟨registry, _, derived⟩ := GroupPlan.compile_derived accepted
  have isSchema : schema = node.schema readOnly :=
    Schema.derive_value derived.built.coherent among member
  rw [isSchema]
  refine ⟨node.conversion, derived.find?_conversion member, node.expands readOnly, ?_⟩
  intro struct flat flattened
  have unambiguous := derived.built.conversion_unambiguous member
  obtain ⟨admitted, nulls⟩ :=
    node.flattens readOnly unambiguous struct.type struct.fields flat flattened
  obtain ⟨_, _, block, rfl, made⟩ := Conversion.flattenStruct_eq_ok.mp flattened
  refine ⟨admitted, ⟨block, rfl, ?_⟩, nulls⟩
  rw [Entries.keys_of_mapM made, TypeNode.conversion_eq, TypeNode.schema_eq, List.map_map,
    List.map_map]
  rfl

/-- An order as its schema wants it, with a null and a key that is not known. -/
def Orders.plainOrder : Value :=
  .block
    [("number", .scalar (.int 7)),
      ("spare", .null),
      ("items", .list [.block [("name", .scalar (.string "nail")), ("count", .null)]]),
      ("colour", .scalar (.string "red"))]

theorem GroupPlan.schema_agrees_plainOrder :
    ∃ compiled node conversion struct,
      Orders.group.compile Orders.manifest = .ok compiled ∧
      node ∈ compiled.graph.nodes ∧
      ((Schema.derive true node).value
        (Schema.deriveAll true compiled.graph.nodes)).1.admits Orders.plainOrder = true ∧
      node.id = Orders.order.id ∧
      compiled.conversions.find? (fun conversion => conversion.typeId = node.id) =
        some conversion ∧
      conversion.expand Orders.plainOrder = .ok struct := by
  obtain ⟨compiled, accepted, anyPasses⟩ :=
    @Orders.compiles
      (fun compiled => compiled.graph.nodes.any fun node =>
        node.id == Orders.order.id &&
          ((Schema.derive true node).value
            (Schema.deriveAll true compiled.graph.nodes)).1.admits Orders.plainOrder)
      (by decide +kernel)
  obtain ⟨node, member, passes⟩ := List.any_eq_true.mp anyPasses
  obtain ⟨named, admitted⟩ := Bool.and_eq_true_iff.mp passes
  obtain ⟨conversion, found, expands, _⟩ :=
    GroupPlan.schema_agrees accepted member true fun _ => id
  obtain ⟨struct, expanded⟩ := expands Orders.plainOrder admitted
  exact ⟨compiled, node, conversion, struct, accepted, member, admitted, beq_iff_eq.mp named,
    found, expanded⟩

end BlockSchema
