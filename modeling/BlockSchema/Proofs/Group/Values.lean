import BlockSchema.Proofs.Conversion.Acceptance
import BlockSchema.Proofs.Conversion.Conformance
import BlockSchema.Proofs.Group.Supply

/-!
Contract: what the conversions of a compiled group take, and the errors for what they do not.

A conversion of a compiled group covers the declaration of its type: it converts the declared
fields in their order and omits the others. So the first field at fault is the first one in
declaration order, and the fields that a structure may have are the declared ones.
-/

set_option autoImplicit false

namespace BlockSchema

/-! ## Conversions and declarations -/

/-- The field converts what is declared, as the directives of a table say. -/
structure FieldConversion.Converts
    (table : DirectiveTable)
    (field : FieldConversion Conversion)
    (declaration : FieldDef) :
    Prop where
  declared : field.declared = declaration.name
  external : field.external = table.externalName declaration
  shape : declaration.shape.classify = .ok (field.shape.map Conversion.typeId)
  readsInput : field.readsInput = !(table.effectsOn declaration.name).computedOnly

/-- The conversion converts the declared fields of a type that a table leaves in, in their
order, and omits those that the table excludes. -/
structure Conversion.Covers
    (table : DirectiveTable)
    (definition : TypeDef)
    (conversion : Conversion) :
    Prop where
  fields : List.Forall₂ (FieldConversion.Converts table)
    conversion.fields (table.included definition.fields)
  omitted : conversion.omitted = definition.fieldNames.filter table.excludes

namespace Conversion.Covers

variable {table : DirectiveTable} {definition : TypeDef} {conversion : Conversion}

private theorem declared_eq (covers : conversion.Covers table definition) :
    conversion.fields.map FieldConversion.declared =
      definition.fieldNames.filter fun name => !table.excludes name := by
  have names : List.Forall₂ Eq (conversion.fields.map FieldConversion.declared)
      ((table.included definition.fields).map FieldDef.name) := by
    rw [List.forall₂_map_left_iff, List.forall₂_map_right_iff]
    exact covers.fields.imp fun field declaration converts => converts.declared
  rw [List.forall₂_eq_eq_eq] at names
  rw [names, DirectiveTable.included, TypeDef.fieldNames, List.filter_map]
  rfl

/-- What a conversion knows is what its type declares. -/
theorem knows_iff (covers : conversion.Covers table definition) (name : String) :
    conversion.Knows name ↔ name ∈ definition.fieldNames := by
  rw [Conversion.Knows, covers.declared_eq, covers.omitted, List.mem_filter, List.mem_filter,
    ← and_or_left, Bool.not_eq_true']
  exact and_iff_left (Bool.eq_false_or_eq_true (table.excludes name)).symm

/-- What a conversion omits it does not convert. -/
theorem unconverted (covers : conversion.Covers table definition) {name : String}
    (omitted : name ∈ conversion.omitted) :
    name ∉ conversion.fields.map FieldConversion.declared := by
  rw [covers.omitted, List.mem_filter] at omitted
  rw [covers.declared_eq, List.mem_filter]
  simp [omitted.2]

end Conversion.Covers

/-- The shape that a field converts names the types that the field nests. -/
theorem FieldNode.conversion_shape_ids (field : FieldNode TypeNode) :
    field.conversion.shape.map Conversion.typeId = field.shape.map TypeNode.id := by
  obtain ⟨declared, external, ⟨arity, target⟩, effects, version, description⟩ := field
  cases target with
  | scalar type => rfl
  | struct nested =>
      exact congrArg (fun id => FieldShape.mk arity (.struct id)) nested.conversion_typeId

section Groups

variable {manifest : Manifest} {registry : Registry} {nodes : List TypeNode}

theorem TypeNode.Matches.covers {node : TypeNode} (matching : node.Matches manifest registry) :
    ∃ definition, manifest.get? node.id = some definition ∧
      node.conversion.Covers (registry.table node.id) definition := by
  obtain ⟨definition, found, made⟩ := matching.made
  obtain ⟨other, same, _, excluded⟩ := matching.declared_eq
  obtain rfl := Option.some.inj (found.symm.trans same)
  rw [TypeNode.conversion_eq]
  refine ⟨definition, found, ?_, excluded⟩
  rw [List.forall₂_map_left_iff]
  exact made.flip.imp fun field declaration isMade =>
    { declared := isMade.declared
      external := isMade.external
      shape := field.conversion_shape_ids ▸ isMade.shape
      readsInput := by rw [← isMade.effects]; rfl }

/-- What stands properly inside the conversion of a node is of another type. -/
theorem WellBuilt.typeId_ne_of_inside
    (built : WellBuilt manifest registry nodes)
    {node : TypeNode}
    (member : node ∈ nodes)
    {inner : Conversion}
    (inside : Relation.TransGen (fun nested outer => nested ∈ outer.nested)
      inner node.conversion) :
    inner.typeId ≠ node.id := by
  have reached : ∃ found ∈ nodes, found.conversion = inner ∧
      Relation.TransGen (Refers manifest registry) node.id found.id := by
    induction inside using Relation.TransGen.head_induction_on with
    | single nests =>
        obtain ⟨found, isNested, converted⟩ := TypeNode.mem_conversion_nested.mp nests
        exact ⟨found, built.nested_mem member isNested, converted,
          .single ((built.matches_of_mem member).refers_of_nested isNested)⟩
    | head nests _ inductionHypothesis =>
        obtain ⟨outer, outerMember, rfl, path⟩ := inductionHypothesis
        obtain ⟨found, isNested, converted⟩ := TypeNode.mem_conversion_nested.mp nests
        exact ⟨found, built.nested_mem outerMember isNested, converted,
          path.tail ((built.matches_of_mem outerMember).refers_of_nested isNested)⟩
  obtain ⟨found, _, rfl, path⟩ := reached
  intro same
  rw [TypeNode.conversion_typeId] at same
  rw [same] at path
  exact built.acyclic (List.mem_map_of_mem member) path

end Groups

/-! ## Expanding -/

/-- A conversion of a compiled group says of a value that it is no block of its type exactly
when it is none. Any other value it expands exactly when every field that takes input accepts
what it is given, and the error for what it does not expand is that of the first field in
declaration order to reject what it is given, and inside it of the first element. Too many
blocks are two or more, as many as a list in the value has. -/
theorem GroupPlan.compile_expands_exactly
    {manifest : Manifest}
    {group : GroupPlan}
    {compiled : CompiledGroup}
    (accepted : group.compile manifest = .ok compiled)
    {conversion : Conversion}
    (converts : compiled.Converts conversion) :
    (∃ registry definition, Registry.ofGroup manifest group = .ok registry ∧
      manifest.get? conversion.typeId = some definition ∧
      conversion.Covers (registry.table conversion.typeId) definition) ∧
    (∀ value, (∃ found, conversion.expand value = .error (.notABlock conversion.typeId found)) ↔
      ¬ ∃ block, value = .block block) ∧
    (∀ block : Entries Value, (∃ struct, conversion.expand (.block block) = .ok struct) ↔
      ∀ field ∈ conversion.fields, field.readsInput = true → ∀ value,
        block.get? field.external = some value →
          Conversion.acceptsUnder field.shape value = true) ∧
    (∀ value error, conversion.expand value = .error error ↔ conversion.Rejects value error) ∧
    (∀ value name count, conversion.expand value = .error (.tooManyBlocks name count) →
      2 ≤ count ∧ ∃ (block : Entries Value) (items : List Value),
        (Value.block block).Within value ∧ block.get? name = some (.list items) ∧
          items.length = count) := by
  obtain ⟨registry, resolved, derived⟩ := GroupPlan.compile_derived accepted
  obtain ⟨node, member, rfl⟩ := derived.node_of_converts converts
  have decides := node.conversion.expand_decides
  refine ⟨?covers, ?noBlock, ?accepts, fun value => (decides value).rejects, ?many⟩
  case covers =>
    obtain ⟨definition, found, covers⟩ := (derived.built.matches_of_mem member).covers
    rw [TypeNode.conversion_typeId]
    exact ⟨registry, definition, resolved, found, covers⟩
  case noBlock =>
    intro value
    constructor
    · rintro ⟨found, failed⟩ ⟨block, rfl⟩
      rcases (((decides _).rejects _).mp failed).notABlock_origin with
        ⟨other, _⟩ | ⟨inner, inside, named⟩
      · exact other rfl
      · refine derived.built.typeId_ne_of_inside member inside ?_
        rw [named, TypeNode.conversion_typeId]
    · intro noBlock
      refine ⟨value.classify, Conversion.expand_of_not_block _ fun isBlock => noBlock ?_⟩
      exact Value.eq_block_of_classify isBlock
  case accepts =>
    intro block
    rw [(decides (.block block)).accepts, Conversion.accepts_block]
    refine forall₂_congr fun field _ => ?_
    rw [FieldConversion.accepts_iff]
  case many =>
    intro value name count failed
    exact (((decides value).rejects _).mp failed).tooManyBlocks_origin

namespace Orders

/-- An order with an item that is wrong in both of its fields, before a wrong list of prices. -/
def wrongItem : Value :=
  .block
    [("prices", .scalar (.int 3)),
      ("items", .list
        [.block [("count", .list [])],
          .block [("count", .scalar (.string "many")), ("name", .list [.null])]])]

/-- An order with two spare items, of which one is missing. -/
def twoSpares : Value :=
  .block [("spare", .list [.block [], .null])]

end Orders

/-- Of the order with a wrong item the name of that item is rejected: its items are declared
before its prices, and the name of an item before its count. -/
theorem GroupPlan.compile_expands_exactly_orders :
    ∃ compiled conversion,
      Orders.group.compile Orders.manifest = .ok compiled ∧
      compiled.Converts conversion ∧
      conversion.typeId = Orders.order.id ∧
      conversion.Rejects Orders.wrongItem (.mismatch "name" (.scalar .string) .list) ∧
      conversion.expand Orders.twoSpares = .error (.tooManyBlocks "spare" 2) ∧
      (∃ (block : Entries Value) (items : List Value),
        (Value.block block).Within Orders.twoSpares ∧
          block.get? "spare" = some (.list items) ∧ items.length = 2) ∧
      conversion.expand .null = .error (.notABlock Orders.order.id .null) := by
  obtain ⟨compiled, conversion, accepted, converts, passes⟩ :=
    @Orders.converts
      (fun conversion => conversion.typeId == Orders.order.id &&
        Results.failsWith (.mismatch "name" (.scalar .string) .list)
          (conversion.expand Orders.wrongItem) &&
        Results.failsWith (.tooManyBlocks "spare" 2) (conversion.expand Orders.twoSpares))
      (by decide +kernel)
  simp only [Bool.and_eq_true, beq_iff_eq, Results.failsWith_iff] at passes
  obtain ⟨⟨typed, wrong⟩, many⟩ := passes
  obtain ⟨_, noBlock, _, rejects, counted⟩ :=
    GroupPlan.compile_expands_exactly accepted converts
  obtain ⟨found, failed⟩ := (noBlock .null).mpr (by simp)
  have isNull : ValueClass.null = found := by
    cases (rejects _ _).mp failed
    rfl
  exact ⟨compiled, conversion, accepted, converts, typed, (rejects _ _).mp wrong, many,
    (counted _ _ _ many).2, by rw [failed, typed, isNull]⟩

/-! ## Flattening -/

/-- A conversion of a compiled group flattens exactly the structures of its type that have
declared fields only and hold in every field that it converts a value of the declared shape.
What the other fields hold does not matter. A structure that is not flattened is refused for
its type, or else for its first field that is not declared, or else for the first field in
declaration order that does not conform. -/
theorem GroupPlan.compile_flattens_exactly
    {manifest : Manifest}
    {group : GroupPlan}
    {compiled : CompiledGroup}
    (accepted : group.compile manifest = .ok compiled)
    {conversion : Conversion}
    (converts : compiled.Converts conversion) :
    ∃ registry definition, Registry.ofGroup manifest group = .ok registry ∧
      manifest.get? conversion.typeId = some definition ∧
      conversion.Covers (registry.table conversion.typeId) definition ∧
      (∀ struct, (∃ flat, conversion.flatten struct = .ok flat) ↔
        struct.type = conversion.typeId ∧
          (∀ name ∈ struct.fields.keys, name ∈ definition.fieldNames) ∧
          ∀ field ∈ conversion.fields, ∀ value, struct.get? field.declared = some value →
            Conversion.conformsTo field.shape value = true) ∧
      (∀ struct error, conversion.flatten struct = .error error ↔
        conversion.Refuses struct.type struct.fields error) ∧
      (∀ name ∈ conversion.omitted, ∀ struct value,
        conversion.flatten (struct.set name value) = conversion.flatten struct) := by
  obtain ⟨registry, resolved, derived⟩ := GroupPlan.compile_derived accepted
  obtain ⟨node, member, rfl⟩ := derived.node_of_converts converts
  have decides := (derived.built.conversion_unambiguous member).flatten_decides
  obtain ⟨definition, found, covers⟩ := (derived.built.matches_of_mem member).covers
  rw [TypeNode.conversion_typeId]
  refine ⟨registry, definition, resolved, found, covers, ?accepts, ?refuses, ?omitted⟩
  case accepts =>
    intro struct
    refine (decides struct.type struct.fields).accepts.trans (Conversion.conforms_iff.trans ?_)
    simp only [covers.knows_iff, FieldConversion.conforms_iff, TypedStruct.get?,
      TypeNode.conversion_typeId]
  case refuses => exact fun struct error => (decides struct.type struct.fields).rejects error
  case omitted =>
    intro name omitted struct value
    exact Conversion.flattenStruct_insert omitted (covers.unconverted omitted) _ _ _

namespace Orders

/-- An order with a price that is an integer, and an item of which the count is a real
number. -/
def wrongCount : TypedStruct :=
  ⟨order.id,
    [("Prices", .map [("bolt", .scalar (.int 2))]),
      ("Items", .list
        [.struct item.id [],
          .struct item.id [("Count", .pointer (some (.scalar (.float .zero))))]])]⟩

/-- An order with two undeclared fields beside the wrong item. -/
def strayFields : TypedStruct :=
  (wrongCount.set "Weight" (.list [])).set "Colour" (.list [])

/-- An order that conforms, whatever its note is. -/
def noted (note : TypedValue) : TypedStruct :=
  ⟨order.id,
    [("Note", note),
      ("Spare", .pointer (some (.struct item.id []))),
      ("Total", .scalar (.float .zero))]⟩

end Orders

/-- An order with a note of any kind is flattened. Of the wrong order the count of an item is
refused, for it is declared before the prices, and of the order with undeclared fields the
first of them. -/
theorem GroupPlan.compile_flattens_exactly_orders :
    ∃ compiled conversion,
      Orders.group.compile Orders.manifest = .ok compiled ∧
      compiled.Converts conversion ∧
      conversion.typeId = Orders.order.id ∧
      (∀ note, ∃ flat, conversion.flatten (Orders.noted note) = .ok flat) ∧
      conversion.Refuses Orders.order.id Orders.wrongCount.fields
        (.mismatch "count" .scalarOfKind) ∧
      conversion.Refuses Orders.order.id Orders.strayFields.fields
        (.unknownField Orders.order.id "Weight") := by
  obtain ⟨compiled, conversion, accepted, converts, passes⟩ :=
    @Orders.converts
      (fun conversion => conversion.typeId == Orders.order.id &&
        conversion.omitted.contains "Note" &&
        (conversion.flatten (Orders.noted (.list []))).toOption.any (fun _ => true) &&
        Results.failsWith (.mismatch "count" .scalarOfKind)
          (conversion.flatten Orders.wrongCount) &&
        Results.failsWith (.unknownField Orders.order.id "Weight")
          (conversion.flatten Orders.strayFields))
      (by decide +kernel)
  simp only [Bool.and_eq_true, beq_iff_eq, Results.failsWith_iff, List.contains_iff_mem]
    at passes
  obtain ⟨⟨⟨⟨typed, omitted⟩, flattened⟩, wrong⟩, stray⟩ := passes
  obtain ⟨_, _, _, _, _, _, refuses, ignores⟩ :=
    GroupPlan.compile_flattens_exactly accepted converts
  refine ⟨compiled, conversion, accepted, converts, typed, fun note => ?_,
    (refuses _ _).mp wrong, (refuses _ _).mp stray⟩
  have same : conversion.flatten (Orders.noted note) =
      conversion.flatten (Orders.noted (.list [])) :=
    ignores "Note" omitted (Orders.noted (.list [])) note
  obtain ⟨flat, isFlat, _⟩ := Results.exists_of_any flattened
  exact ⟨flat, same.trans isFlat⟩

end BlockSchema
