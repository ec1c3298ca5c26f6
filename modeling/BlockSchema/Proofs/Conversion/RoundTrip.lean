import BlockSchema.Proofs.Conversion.Blank
import BlockSchema.Proofs.Group.Conversions

/-!
Contract: what becomes of a structure that is flattened and expanded again.

The structure comes back in its normal form: the converted fields in declaration order,
with the zero value for every field that is missing or not read. A structure that is
fully populated comes back as it was.
-/

set_option autoImplicit false

namespace BlockSchema

/-! ## Typed values as they are built -/

namespace TypedValue

mutual

/-- No structure has a field twice and every map has its keys in ascending order, at every
depth. -/
def proper : TypedValue → Bool
  | .scalar _ => true
  | .pointer none => true
  | .pointer (some target) => target.proper
  | .struct _ fields => decide (Entries.keys fields).Nodup && properEntries fields
  | .list items => properItems items
  | .map entries => decide (Entries.Sorted entries) && properEntries entries

/-- Whether every item is proper. -/
def properItems : List TypedValue → Bool
  | [] => true
  | item :: rest => item.proper && properItems rest

/-- Whether the value of every entry is proper. -/
def properEntries : List (String × TypedValue) → Bool
  | [] => true
  | (_, value) :: rest => value.proper && properEntries rest

end

theorem properItems_iff {items : List TypedValue} :
    properItems items = true ↔ ∀ item ∈ items, item.proper = true := by
  induction items with
  | nil => simp [properItems]
  | cons item rest inductionHypothesis => simp [properItems, inductionHypothesis]

private theorem properEntries_iff {entries : Entries TypedValue} :
    properEntries entries = true ↔ ∀ entry ∈ entries, entry.2.proper = true := by
  induction entries with
  | nil => simp [properEntries]
  | cons entry rest inductionHypothesis => simp [properEntries, inductionHypothesis]

theorem proper_struct {type : TypeId} {fields : Entries TypedValue} :
    (TypedValue.struct type fields).proper = true ↔
      fields.keys.Nodup ∧ ∀ entry ∈ fields, entry.2.proper = true := by
  rw [proper, Bool.and_eq_true, decide_eq_true_iff, properEntries_iff]

theorem proper_map {entries : Entries TypedValue} :
    (TypedValue.map entries).proper = true ↔
      Entries.Sorted entries ∧ ∀ entry ∈ entries, entry.2.proper = true := by
  rw [proper, Bool.and_eq_true, decide_eq_true_iff, properEntries_iff]

end TypedValue

/-! ## Normal forms -/

mutual

/-- What a structure with some fields is after a round trip. -/
def Conversion.normal : Conversion → Entries TypedValue → TypedStruct
  | ⟨typeId, fields, _⟩, given => ⟨typeId, Conversion.normalFields fields given⟩

/-- The converted fields, in order. One that is missing or not read is zero. -/
def Conversion.normalFields :
    List (FieldConversion Conversion) → Entries TypedValue → Entries TypedValue
  | [], _ => []
  | ⟨declared, _, shape, readsInput⟩ :: rest, given =>
      (declared,
        if readsInput then
          ((given.get? declared).map (Conversion.normalShape shape)).getD
            (Conversion.zeroShape shape)
        else Conversion.zeroShape shape) :: Conversion.normalFields rest given

/-- A value with the structures in it normal, and otherwise unchanged. -/
def Conversion.normalShape : FieldShape Conversion → TypedValue → TypedValue
  | ⟨_, target⟩, .pointer inner => .pointer (inner.map (Conversion.normalTarget target))
  | ⟨_, target⟩, .list items => .list (items.map (Conversion.normalTarget target))
  | ⟨_, target⟩, .map entries =>
      .map (entries.map fun entry => (entry.1, Conversion.normalTarget target entry.2))
  | ⟨_, target⟩, value => Conversion.normalTarget target value

/-- A structure made normal; a scalar is left as it is. -/
def Conversion.normalTarget : Target Conversion → TypedValue → TypedValue
  | .struct nested, .struct _ given => (nested.normal given).toValue
  | _, value => value

end

/-- The value of a field after a round trip. -/
def FieldConversion.normal (field : FieldConversion Conversion) (given : Entries TypedValue) :
    TypedValue :=
  if field.readsInput then
    ((given.get? field.declared).map (Conversion.normalShape field.shape)).getD field.zero
  else field.zero

namespace Conversion

private theorem normal_eq (conversion : Conversion) (given : Entries TypedValue) :
    conversion.normal given =
      ⟨conversion.typeId,
        conversion.fields.map fun field => (field.declared, field.normal given)⟩ := by
  have normalFields : ∀ fields, normalFields fields given =
      fields.map fun field => (field.declared, field.normal given) := by
    intro fields
    induction fields with
    | nil => rfl
    | cons field rest inductionHypothesis =>
        rw [Conversion.normalFields, inductionHypothesis]
        rfl
  cases conversion with
  | mk => rw [normal, normalFields]

/-! ## Flattened and expanded again -/

/-- Structures that the conversion flattens are expanded to their normal form. -/
def RoundTrips (conversion : Conversion) : Prop :=
  ∀ type given flat, (TypedValue.struct type given).proper = true →
    conversion.flattenStruct type given = .ok flat →
      conversion.expand flat = .ok (conversion.normal given)

private theorem expandElement_of_flattenElement
    {target : Target Conversion}
    (below : ∀ inner, target.nested? = some inner → inner.RoundTrips)
    {field : String}
    {value : TypedValue}
    {flat : Value}
    (proper : value.proper = true)
    (flattened : flattenElement field target value = .ok flat) :
    expandElement field target flat = .ok (normalTarget target value) := by
  cases target with
  | scalar type =>
      obtain ⟨scalar, rfl, same, rfl⟩ := flattenElement_scalar_eq_ok.mp flattened
      exact expandElement_scalar_eq_ok.mpr ⟨scalar, Value.scalarAs?_of_kind same, rfl⟩
  | struct nested =>
      obtain ⟨type, given, rfl, isFlat⟩ := flattenElement_struct_eq_ok.mp flattened
      have expanded := below nested rfl type given flat proper isFlat
      exact expandElement_struct_eq_ok.mpr ⟨_, expanded, rfl⟩

/-- What is flattened by itself is a scalar or a structure. -/
theorem single_of_flattenElement
    {target : Target Conversion}
    {field : String}
    {value : TypedValue}
    {flat : Value}
    (flattened : flattenElement field target value = .ok flat) :
    (∃ scalar, value = .scalar scalar) ∨ ∃ type given, value = .struct type given := by
  cases target with
  | scalar type =>
      obtain ⟨scalar, rfl, _⟩ := flattenElement_scalar_eq_ok.mp flattened
      exact .inl ⟨scalar, rfl⟩
  | struct nested =>
      obtain ⟨type, given, rfl, _⟩ := flattenElement_struct_eq_ok.mp flattened
      exact .inr ⟨type, given, rfl⟩

/-- The value of a field comes back normal. -/
theorem expandShape_of_flattenShape
    {shape : FieldShape Conversion}
    (below : ∀ inner, shape.nested? = some inner → inner.RoundTrips)
    {field : String}
    {value : TypedValue}
    {flat : Value}
    (proper : value.proper = true)
    (flattened : flattenShape field shape value = .ok flat) :
    expandShape field shape (some flat) = .ok (normalShape shape value) := by
  obtain ⟨arity, target⟩ := shape
  cases arity with
  | plain =>
      obtain ⟨element, isFlat, rfl⟩ := flattenShape_plain_eq_ok.mp flattened
      have isNormal : normalShape ⟨.plain, target⟩ value = normalTarget target value := by
        rcases single_of_flattenElement isFlat with ⟨_, rfl⟩ | ⟨_, _, rfl⟩ <;> rfl
      rw [isNormal]
      have expanded := expandElement_of_flattenElement below proper isFlat
      exact expandShape_plain_eq_ok.mpr (.inr ⟨element, rfl, expanded⟩)
  | pointer =>
      rcases flattenShape_pointer_eq_ok.mp flattened with
        ⟨rfl, rfl⟩ | ⟨inner, element, rfl, isFlat, rfl⟩
      · cases target <;> rfl
      · have properInner : inner.proper = true := proper
        have expanded := expandElement_of_flattenElement below properInner isFlat
        exact expandShape_pointer_eq_ok.mpr (.inr ⟨element, _, rfl, expanded, rfl⟩)
  | list =>
      obtain ⟨items, flats, rfl, areFlats, rfl⟩ := flattenShape_list_eq_ok.mp flattened
      have each := TypedValue.properItems_iff.mp proper
      have expanded : flats.mapM (expandElement field target) =
          .ok (items.map (normalTarget target)) :=
        Results.mapM_mapM areFlats fun item member flat isFlat =>
          expandElement_of_flattenElement below (each item member) isFlat
      exact expandShape_list_eq_ok.mpr (.inr ⟨flats, _, rfl, expanded, rfl⟩)
  | map =>
      obtain ⟨entries, flats, rfl, areFlats, rfl⟩ := flattenShape_map_eq_ok.mp flattened
      obtain ⟨sorted, each⟩ := TypedValue.proper_map.mp proper
      have expanded : Entries.Alike
          (fun element inner => expandElement field target element = .ok inner) flats
          (entries.map fun entry => (entry.1, normalTarget target entry.2)) := by
        refine Results.forall₂_map_of_forall₂ areFlats fun entry member flat isFlat => ?_
        exact ⟨isFlat.1.symm,
          expandElement_of_flattenElement below (each entry member) isFlat.2⟩
      refine expandShape_map_eq_ok.mpr (.inr ⟨flats, _, rfl, expanded, ?_⟩)
      rw [(sorted.map_value (normalTarget target)).sortedOfList_eq]
      rfl

/-- Flattening and expanding a structure makes it normal. -/
theorem Unambiguous.roundTrips {conversion : Conversion} (unambiguous : conversion.Unambiguous) :
    conversion.RoundTrips := by
  induction unambiguous with
  | @intro conversion declared external below inductionHypothesis =>
      intro type given flat proper flattened
      obtain ⟨_, _, block, rfl, made⟩ := flattenStruct_eq_ok.mp flattened
      have each := (TypedValue.proper_struct.mp proper).2
      rw [expand_block, normal_eq]
      refine congrArg (Except.map _) (Results.mapM_eq_map fun field member => ?_)
      suffices expanded : field.expand block = .ok (field.normal given) by
        rw [expanded]
        rfl
      obtain ⟨value, isValue, found⟩ := Entries.get?_of_mapM external made member
      rw [FieldConversion.expand, FieldConversion.normal, found]
      rw [FieldConversion.flatten] at isValue
      have nests : ∀ inner, field.shape.nested? = some inner → inner ∈ conversion.nested :=
        fun inner isNested => mem_nested.mpr ⟨field, member, isNested⟩
      split
      next =>
        cases held : Entries.get? field.declared given with
        | some value =>
            rw [held] at isValue
            exact expandShape_of_flattenShape
              (fun inner isNested => inductionHypothesis inner (nests inner isNested))
              (each _ (Entries.mem_of_get? held)) isValue
        | none =>
            rw [held] at isValue
            have blank : flattenShape field.external field.shape field.zero = .ok field.blank :=
              flattenShape_zeroShape
                (fun inner isNested => (below inner (nests inner isNested)).flatten_zero) _
            obtain rfl := Except.ok.inj (blank.symm.trans isValue)
            exact expandShape_blankShape
              (fun inner isNested => (below inner (nests inner isNested)).expand_blank) _
      next => rfl

end Conversion

/-! ## Fully populated structures -/

mutual

/-- A value with the fields of every structure sorted by name, at every depth. Two values
are arranged alike when they are equal but for the order of fields. -/
def TypedValue.arranged : TypedValue → TypedValue
  | .scalar value => .scalar value
  | .pointer none => .pointer none
  | .pointer (some target) => .pointer (some target.arranged)
  | .struct type fields =>
      .struct type (Entries.sortedOfList (TypedValue.arrangedEntries fields))
  | .list items => .list (TypedValue.arrangedItems items)
  | .map entries => .map (TypedValue.arrangedEntries entries)

/-- Every item arranged. -/
def TypedValue.arrangedItems : List TypedValue → List TypedValue
  | [] => []
  | item :: rest => item.arranged :: TypedValue.arrangedItems rest

/-- The value of every entry arranged. -/
def TypedValue.arrangedEntries : List (String × TypedValue) → List (String × TypedValue)
  | [] => []
  | (key, value) :: rest => (key, value.arranged) :: TypedValue.arrangedEntries rest

end

mutual

/-- A structure has a value for every field of the conversion and no other fields, and no
field is computed only, at every depth that the structure reaches. -/
def Conversion.populates : Conversion → Entries TypedValue → Bool
  | ⟨_, fields, _⟩, given =>
      (given.keys.all fun name => fields.any fun field => field.declared == name) &&
        Conversion.populatesFields fields given

/-- Whether every field is read and has a value. -/
def Conversion.populatesFields :
    List (FieldConversion Conversion) → Entries TypedValue → Bool
  | [], _ => true
  | ⟨declared, _, shape, readsInput⟩ :: rest, given =>
      readsInput && (given.get? declared).any (Conversion.populatesShape shape) &&
        Conversion.populatesFields rest given

/-- Whether every structure in a value is populated. -/
def Conversion.populatesShape : FieldShape Conversion → TypedValue → Bool
  | ⟨_, target⟩, .pointer inner => inner.all (Conversion.populatesTarget target)
  | ⟨_, target⟩, .list items => items.all (Conversion.populatesTarget target)
  | ⟨_, target⟩, .map entries =>
      entries.all fun entry => Conversion.populatesTarget target entry.2
  | ⟨_, target⟩, value => Conversion.populatesTarget target value

/-- Whether a structure is populated; a scalar always is. -/
def Conversion.populatesTarget : Target Conversion → TypedValue → Bool
  | .struct nested, .struct _ given => nested.populates given
  | _, _ => true

end

private theorem TypedValue.arranged_list (items : List TypedValue) :
    (TypedValue.list items).arranged = .list (items.map TypedValue.arranged) := by
  have arrangedItems : ∀ items : List TypedValue,
      TypedValue.arrangedItems items = items.map TypedValue.arranged := by
    intro items
    induction items with
    | nil => rfl
    | cons item rest inductionHypothesis =>
        rw [TypedValue.arrangedItems, inductionHypothesis, List.map_cons]
  rw [TypedValue.arranged, arrangedItems]

private theorem TypedValue.arrangedEntries_eq_map (entries : Entries TypedValue) :
    TypedValue.arrangedEntries entries =
      entries.map fun entry => (entry.1, entry.2.arranged) := by
  induction entries with
  | nil => rfl
  | cons entry rest inductionHypothesis =>
      rw [TypedValue.arrangedEntries, inductionHypothesis, List.map_cons]

private theorem TypedValue.arranged_map (entries : Entries TypedValue) :
    (TypedValue.map entries).arranged =
      .map (entries.map fun entry => (entry.1, entry.2.arranged)) := by
  rw [TypedValue.arranged, TypedValue.arrangedEntries_eq_map]

private theorem TypedValue.arranged_struct (type : TypeId) (fields : Entries TypedValue) :
    (TypedValue.struct type fields).arranged =
      .struct type
        (Entries.sortedOfList (fields.map fun entry => (entry.1, entry.2.arranged))) := by
  rw [TypedValue.arranged, TypedValue.arrangedEntries_eq_map]

namespace Conversion

private theorem populates_iff {conversion : Conversion} {given : Entries TypedValue} :
    conversion.populates given = true ↔
      (∀ name ∈ given.keys, name ∈ conversion.fields.map FieldConversion.declared) ∧
        ∀ field ∈ conversion.fields, field.readsInput = true ∧
          ∃ value, given.get? field.declared = some value ∧
            populatesShape field.shape value = true := by
  have fieldsPopulated : ∀ fields, populatesFields fields given = true ↔
      ∀ field ∈ fields, field.readsInput = true ∧
        ∃ value, given.get? field.declared = some value ∧
          populatesShape field.shape value = true := by
    intro fields
    induction fields with
    | nil => simp [populatesFields]
    | cons field rest inductionHypothesis =>
        simp [populatesFields, inductionHypothesis, Option.any_eq_true, and_assoc]
  obtain ⟨typeId, fields, omitted⟩ := conversion
  rw [populates, Bool.and_eq_true, fieldsPopulated]
  simp

/-- Populated structures that the conversion flattens are normal, but for the order of
their fields. -/
def Preserves (conversion : Conversion) : Prop :=
  ∀ type given flat, (TypedValue.struct type given).proper = true →
    conversion.flattenStruct type given = .ok flat → conversion.populates given = true →
      (conversion.normal given).toValue.arranged = (TypedValue.struct type given).arranged

private theorem arranged_normalTarget
    {target : Target Conversion}
    (below : ∀ inner, target.nested? = some inner → inner.Preserves)
    {field : String}
    {value : TypedValue}
    {flat : Value}
    (proper : value.proper = true)
    (flattened : flattenElement field target value = .ok flat)
    (populated : populatesTarget target value = true) :
    (normalTarget target value).arranged = value.arranged := by
  cases target with
  | scalar type =>
      obtain ⟨scalar, rfl, _⟩ := flattenElement_scalar_eq_ok.mp flattened
      rfl
  | struct nested =>
      obtain ⟨type, given, rfl, isFlat⟩ := flattenElement_struct_eq_ok.mp flattened
      exact below nested rfl type given flat proper isFlat populated

private theorem arranged_normalShape
    {shape : FieldShape Conversion}
    (below : ∀ inner, shape.nested? = some inner → inner.Preserves)
    {field : String}
    {value : TypedValue}
    {flat : Value}
    (proper : value.proper = true)
    (flattened : flattenShape field shape value = .ok flat)
    (populated : populatesShape shape value = true) :
    (normalShape shape value).arranged = value.arranged := by
  obtain ⟨arity, target⟩ := shape
  cases arity with
  | plain =>
      obtain ⟨element, isFlat, rfl⟩ := flattenShape_plain_eq_ok.mp flattened
      rcases single_of_flattenElement isFlat with ⟨_, rfl⟩ | ⟨_, _, rfl⟩
      · exact arranged_normalTarget below proper isFlat populated
      · exact arranged_normalTarget below proper isFlat populated
  | pointer =>
      rcases flattenShape_pointer_eq_ok.mp flattened with
        ⟨rfl, rfl⟩ | ⟨inner, element, rfl, isFlat, rfl⟩
      · rfl
      · have properInner : inner.proper = true := proper
        have arranged := arranged_normalTarget below properInner isFlat populated
        exact congrArg (fun value => TypedValue.pointer (some value)) arranged
  | list =>
      obtain ⟨items, flats, rfl, areFlats, rfl⟩ := flattenShape_list_eq_ok.mp flattened
      have each := TypedValue.properItems_iff.mp proper
      have eachPopulated := List.all_eq_true.mp populated
      have pairs := Results.mapM_eq_ok.mp areFlats
      rw [normalShape, TypedValue.arranged_list, TypedValue.arranged_list, List.map_map]
      refine congrArg TypedValue.list (List.map_congr_left fun item member => ?_)
      obtain ⟨flat, _, isFlat⟩ := Results.exists_of_mem_left pairs member
      exact arranged_normalTarget below (each item member) isFlat (eachPopulated item member)
  | map =>
      obtain ⟨entries, flats, rfl, areFlats, rfl⟩ := flattenShape_map_eq_ok.mp flattened
      have each := (TypedValue.proper_map.mp proper).2
      have eachPopulated := List.all_eq_true.mp populated
      rw [normalShape, TypedValue.arranged_map, TypedValue.arranged_map, List.map_map]
      refine congrArg TypedValue.map (List.map_congr_left fun entry member => ?_)
      obtain ⟨_, _, _, isFlat⟩ := Results.exists_of_mem_left areFlats member
      exact congrArg (Prod.mk entry.1)
        (arranged_normalTarget below (each entry member) isFlat (eachPopulated entry member))

/-- A fully populated structure is normal, but for the order of its fields. -/
theorem Unambiguous.preserves {conversion : Conversion} (unambiguous : conversion.Unambiguous) :
    conversion.Preserves := by
  induction unambiguous with
  | @intro conversion declared external below inductionHypothesis =>
      intro type given flat proper flattened populated
      obtain ⟨rfl, _, block, rfl, made⟩ := flattenStruct_eq_ok.mp flattened
      obtain ⟨distinct, each⟩ := TypedValue.proper_struct.mp proper
      obtain ⟨covered, filled⟩ := populates_iff.mp populated
      rw [normal_eq, TypedStruct.toValue, TypedValue.arranged_struct, TypedValue.arranged_struct]
      refine congrArg (TypedValue.struct conversion.typeId) ?_
      refine Entries.sortedOfList_eq_of_get? ?_ ?_ fun name => ?_
      · rw [Entries.keys, List.map_map, List.map_map]
        exact declared
      · rw [Entries.keys, List.map_map]
        exact distinct
      · rw [Entries.get?_map_value, Entries.get?_map_value]
        by_cases isDeclared : name ∈ conversion.fields.map FieldConversion.declared
        · obtain ⟨field, member, rfl⟩ := List.mem_map.mp isDeclared
          obtain ⟨reads, value, held, populatedValue⟩ := filled field member
          obtain ⟨_, isFlat, _⟩ := Entries.get?_of_mapM external made member
          rw [FieldConversion.flatten, held] at isFlat
          rw [Entries.get?_map_of_mem declared (fun field => field.normal given) member, held,
            FieldConversion.normal, if_pos reads, held]
          refine congrArg some (arranged_normalShape (fun inner isNested => ?_)
            (each _ (Entries.mem_of_get? held)) isFlat populatedValue)
          exact inductionHypothesis inner (mem_nested.mpr ⟨field, member, isNested⟩)
        · have missing : Entries.get? name given = none :=
            Entries.get?_eq_none.mpr fun inside => isDeclared (covered name inside)
          have missingNormal : Entries.get? name
              (conversion.fields.map fun field => (field.declared, field.normal given)) = none := by
            rw [Entries.get?_eq_none, Entries.keys, List.map_map]
            exact isDeclared
          rw [missing, missingNormal]

end Conversion

/-! ## Compiled groups -/

/-- Expanding what a conversion of a compiled group flattened gives the structure in its
normal form, which has the fields that the type declares and the conversion does not
omit. A fully populated structure is in that form already, but for the order of fields. -/
theorem GroupPlan.expand_flatten
    {manifest : Manifest}
    {group : GroupPlan}
    {compiled : CompiledGroup}
    (accepted : group.compile manifest = .ok compiled)
    {conversion : Conversion}
    (converts : compiled.Converts conversion)
    {struct : TypedStruct}
    (proper : struct.toValue.proper = true)
    {flat : Value}
    (flattened : conversion.flatten struct = .ok flat) :
    conversion.expand flat = .ok (conversion.normal struct.fields) ∧
    (∃ definition, manifest.get? conversion.typeId = some definition ∧
      (conversion.normal struct.fields).fields.keys =
        definition.fieldNames.filter fun name => !conversion.omitted.contains name) ∧
    (conversion.populates struct.fields = true →
      (conversion.normal struct.fields).toValue.arranged = struct.toValue.arranged) := by
  have unambiguous := GroupPlan.converts_unambiguous accepted converts
  refine ⟨unambiguous.roundTrips struct.type struct.fields flat proper flattened, ?_,
    unambiguous.preserves struct.type struct.fields flat proper flattened⟩
  obtain ⟨definition, found, declared⟩ := GroupPlan.converts_declared accepted converts
  refine ⟨definition, found, ?_⟩
  rw [Conversion.normal_eq, Entries.keys, List.map_map]
  exact declared

/-- Two of an item, with the fields out of order. -/
def Orders.twoNails : TypedStruct :=
  ⟨item.id, [("Count", .pointer (some (.scalar (.int 2)))), ("Name", .scalar (.string "nail"))]⟩

theorem GroupPlan.expand_flatten_twoNails :
    ∃ compiled conversion flat,
      Orders.group.compile Orders.manifest = .ok compiled ∧
      compiled.Converts conversion ∧
      Orders.twoNails.toValue.proper = true ∧
      conversion.flatten Orders.twoNails = .ok flat ∧
      conversion.populates Orders.twoNails.fields = true ∧
      conversion.expand flat = .ok (conversion.normal Orders.twoNails.fields) ∧
      (conversion.normal Orders.twoNails.fields).toValue.arranged =
        Orders.twoNails.toValue.arranged := by
  obtain ⟨compiled, conversion, accepted, converts, passes⟩ :=
    @Orders.converts
      (fun conversion => (conversion.flatten Orders.twoNails).toOption.isSome &&
        conversion.populates Orders.twoNails.fields)
      (by decide +kernel)
  obtain ⟨isFlat, populated⟩ := Bool.and_eq_true_iff.mp passes
  cases flattened : conversion.flatten Orders.twoNails with
  | error error =>
      rw [flattened] at isFlat
      cases isFlat
  | ok flat =>
      have proper : Orders.twoNails.toValue.proper = true := by decide +kernel
      obtain ⟨expanded, _, preserved⟩ :=
        GroupPlan.expand_flatten accepted converts proper flattened
      exact ⟨compiled, conversion, flat, accepted, converts, proper, flattened, populated,
        expanded, preserved populated⟩

end BlockSchema
