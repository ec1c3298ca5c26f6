import BlockSchema.Proofs.Conversion.Blank
import BlockSchema.Proofs.Group.Conversions

/-!
Contract: what becomes of a block that is expanded and flattened again.

The block comes back settled: a key for every field in order, what was given as it was
given, and one spelling for everything that was not. A settled block stands for the same
structure, so a second round changes nothing.
-/

set_option autoImplicit false

namespace BlockSchema

/-! ## Settled blocks -/

/-- The value as it is held by a scalar of a kind: an integer widens to a real number. -/
def Value.widened (kind : ScalarKind) : Value → Value
  | .scalar (.int value) =>
      if kind = .float then .scalar (.float (Binary64.ofInt value.toInt))
      else .scalar (.int value)
  | other => other

mutual

/-- A block as it comes back. -/
def Conversion.settled : Conversion → Value → Value
  | ⟨_, fields, _⟩, .block block => .block (Conversion.settledFields fields block)
  | _, other => other

/-- The values of fields, under their external names. A field that is not read or has no
value is blank. -/
def Conversion.settledFields :
    List (FieldConversion Conversion) → Entries Value → Entries Value
  | [], _ => []
  | ⟨_, external, shape, readsInput⟩ :: rest, block =>
      (external,
        if readsInput then Conversion.settledShape shape (block.get? external)
        else Conversion.blankShape shape) :: Conversion.settledFields rest block

/-- The value of a field. Lists keep their order, and the keys of maps are sorted. -/
def Conversion.settledShape : FieldShape Conversion → Option Value → Value
  | ⟨arity, target⟩, input =>
      match FieldShape.given? ⟨arity, target⟩ input with
      | none => Conversion.blankShape ⟨arity, target⟩
      | some (.list items) => .list (items.map (Conversion.settledTarget target))
      | some (.block entries) =>
          .block (Entries.sortedOfList
            (entries.map fun entry => (entry.1, Conversion.settledTarget target entry.2)))
      | some value => Conversion.settledTarget target value

/-- A scalar or a nested block. -/
def Conversion.settledTarget : Target Conversion → Value → Value
  | .scalar type, value => value.widened type.kind
  | .struct nested, value => nested.settled value

end

/-- The value of a field in the block that comes back. -/
def FieldConversion.settled (field : FieldConversion Conversion) (block : Entries Value) :
    Value :=
  if field.readsInput then Conversion.settledShape field.shape (block.get? field.external)
  else field.blank

theorem Value.scalarAs?_eq_some {kind : ScalarKind} {value : Value} {scalar : Scalar}
    (held : value.scalarAs? kind = some scalar) :
    scalar.kind = kind ∧ value.widened kind = .scalar scalar ∧ ∃ given, value = .scalar given := by
  cases value with
  | scalar given =>
      cases given with
      | int number =>
          cases kind with
          | float =>
              obtain rfl := Option.some.inj held
              exact ⟨rfl, rfl, _, rfl⟩
          | int =>
              obtain rfl := Option.some.inj held
              exact ⟨rfl, rfl, _, rfl⟩
          | _ => cases held
      | _ =>
          simp only [Value.scalarAs?] at held
          split at held
          next same =>
            obtain rfl := Option.some.inj held
            exact ⟨same, rfl, _, rfl⟩
          next => cases held
  | _ => cases held

namespace Conversion

theorem settled_block (conversion : Conversion) (block : Entries Value) :
    conversion.settled (.block block) =
      .block (conversion.fields.map fun field => (field.external, field.settled block)) := by
  have settledFields : ∀ fields, settledFields fields block =
      fields.map fun field => (field.external, field.settled block) := by
    intro fields
    induction fields with
    | nil => rfl
    | cons field rest inductionHypothesis =>
        rw [Conversion.settledFields, inductionHypothesis]
        rfl
  cases conversion with
  | mk => rw [settled, settledFields]

/-! ## Expanded and flattened again -/

/-- What the conversion expands is flattened to the settled block, which expands to the
same structure. -/
def Settles (conversion : Conversion) : Prop :=
  ∀ input struct, conversion.expand input = .ok struct →
    conversion.flatten struct = .ok (conversion.settled input) ∧
      conversion.expand (conversion.settled input) = .ok struct

private theorem settledTarget_of_expandElement
    {target : Target Conversion}
    (below : ∀ inner, target.nested? = some inner → inner.Settles)
    {field : String}
    {input : Value}
    {value : TypedValue}
    (expanded : expandElement field target input = .ok value) :
    flattenElement field target value = .ok (settledTarget target input) ∧
      expandElement field target (settledTarget target input) = .ok value := by
  cases target with
  | scalar type =>
      obtain ⟨scalar, held, rfl⟩ := expandElement_scalar_eq_ok.mp expanded
      obtain ⟨same, widened, _⟩ := Value.scalarAs?_eq_some held
      rw [settledTarget, widened]
      exact ⟨flattenElement_scalar_eq_ok.mpr ⟨scalar, rfl, same, rfl⟩,
        expandElement_scalar_eq_ok.mpr ⟨scalar, Value.scalarAs?_of_kind same, rfl⟩⟩
  | struct nested =>
      obtain ⟨struct, isStruct, rfl⟩ := expandElement_struct_eq_ok.mp expanded
      obtain ⟨flattened, again⟩ := below nested rfl input struct isStruct
      exact ⟨flattenElement_struct_eq_ok.mpr ⟨_, _, rfl, flattened⟩,
        expandElement_struct_eq_ok.mpr ⟨struct, again, rfl⟩⟩

/-! ### What is given for a field -/

section Given

variable {shape : FieldShape Conversion} {arity : Arity} {target : Target Conversion}

theorem settledShape_of_none {input : Option Value} (none : shape.given? input = none) :
    settledShape shape input = blankShape shape := by
  obtain ⟨arity, target⟩ := shape
  rw [settledShape, none]

/-- What is given by itself is settled by itself. -/
theorem settledShape_single
    {field : String}
    {element : Value}
    {value : TypedValue}
    (expanded : expandElement field target element = .ok value) :
    settledShape ⟨arity, target⟩ (some (target.single element)) =
      target.single (settledTarget target element) := by
  cases target with
  | scalar type =>
      obtain ⟨_, held, _⟩ := expandElement_scalar_eq_ok.mp expanded
      obtain ⟨_, _, given, rfl⟩ := Value.scalarAs?_eq_some held
      rfl
  | struct nested =>
      obtain ⟨_, isStruct, _⟩ := expandElement_struct_eq_ok.mp expanded
      obtain ⟨block, rfl⟩ := block_of_expand isStruct
      rfl

private theorem settledShape_list (items : List Value) :
    settledShape ⟨.list, target⟩ (some (.list items)) =
      .list (items.map (settledTarget target)) := by
  have given : FieldShape.given? (⟨.list, target⟩ : FieldShape Conversion) (some (.list items)) =
      Value.present? (some (.list items)) := by
    rw [FieldShape.given?]
    split
    next same => exact same ▸ rfl
    next => rfl
  rw [settledShape, given]
  cases items with
  | nil => rfl
  | cons item rest => rfl

private theorem settledShape_map (entries : Entries Value) :
    settledShape ⟨arity, target⟩ (some (.block entries)) =
      .block (Entries.sortedOfList
        (entries.map fun entry => (entry.1, settledTarget target entry.2))) :=
  rfl

end Given

/-- A value that is not there is zero, and its blank spelling reads as none again. -/
theorem settles_of_none
    {shape : FieldShape Conversion}
    (unambiguous : ∀ inner, shape.nested? = some inner → inner.Unambiguous)
    (field : String)
    {input : Option Value}
    (none : shape.given? input = none) :
    flattenShape field shape (zeroShape shape) = .ok (settledShape shape input) ∧
      expandShape field shape (some (settledShape shape input)) = .ok (zeroShape shape) := by
  rw [settledShape_of_none none]
  exact
    ⟨flattenShape_zeroShape (fun inner isNested => (unambiguous inner isNested).flatten_zero) _,
      expandShape_blankShape (fun inner isNested => (unambiguous inner isNested).expand_blank) _⟩

private theorem settledShape_of_expandShape
    {shape : FieldShape Conversion}
    (unambiguous : ∀ inner, shape.nested? = some inner → inner.Unambiguous)
    (below : ∀ inner, shape.nested? = some inner → inner.Settles)
    {field : String}
    {input : Option Value}
    {value : TypedValue}
    (expanded : expandShape field shape input = .ok value) :
    flattenShape field shape value = .ok (settledShape shape input) ∧
      expandShape field shape (some (settledShape shape input)) = .ok value := by
  obtain ⟨arity, target⟩ := shape
  cases arity with
  | plain =>
      rcases expandShape_plain_eq_ok.mp expanded with ⟨none, rfl⟩ | ⟨element, rfl, isValue⟩
      · exact settles_of_none unambiguous field none
      · obtain ⟨flattened, again⟩ := settledTarget_of_expandElement below isValue
        rw [settledShape_single isValue]
        exact ⟨flattenShape_plain_eq_ok.mpr ⟨_, flattened, rfl⟩,
          expandShape_plain_eq_ok.mpr (.inr ⟨_, rfl, again⟩)⟩
  | pointer =>
      rcases expandShape_pointer_eq_ok.mp expanded with
        ⟨none, rfl⟩ | ⟨element, inner, rfl, isInner, rfl⟩
      · exact settles_of_none unambiguous field none
      · obtain ⟨flattened, again⟩ := settledTarget_of_expandElement below isInner
        rw [settledShape_single isInner]
        exact ⟨flattenShape_pointer_eq_ok.mpr (.inr ⟨inner, _, rfl, flattened, rfl⟩),
          expandShape_pointer_eq_ok.mpr (.inr ⟨_, inner, rfl, again, rfl⟩)⟩
  | list =>
      rcases expandShape_list_eq_ok.mp expanded with
        ⟨none, rfl⟩ | ⟨items, values, rfl, areValues, rfl⟩
      · exact settles_of_none unambiguous field none
      · rw [settledShape_list]
        have flattened : values.mapM (flattenElement field target) =
            .ok (items.map (settledTarget target)) :=
          Results.mapM_mapM areValues fun item _ value isValue =>
            (settledTarget_of_expandElement below isValue).1
        have again : (items.map (settledTarget target)).mapM (expandElement field target) =
            .ok values := by
          rw [Results.mapM_eq_ok, List.forall₂_map_left_iff]
          exact (Results.mapM_eq_ok.mp areValues).imp fun item value isValue =>
            (settledTarget_of_expandElement below isValue).2
        exact ⟨flattenShape_list_eq_ok.mpr ⟨values, _, rfl, flattened, rfl⟩,
          expandShape_list_eq_ok.mpr (.inr ⟨_, values, rfl, again, rfl⟩)⟩
  | map =>
      rcases expandShape_map_eq_ok.mp expanded with
        ⟨none, rfl⟩ | ⟨entries, values, rfl, areValues, rfl⟩
      · exact settles_of_none unambiguous field none
      · rw [settledShape_map]
        have flattened : Entries.Alike
            (fun value flat => flattenElement field target value = .ok flat)
            values (entries.map fun entry => (entry.1, settledTarget target entry.2)) :=
          Results.forall₂_map_of_forall₂ areValues fun _ _ _ isValue =>
            ⟨isValue.1.symm, (settledTarget_of_expandElement below isValue.2).1⟩
        have again : Entries.Alike
            (fun flat value => expandElement field target flat = .ok value)
            (entries.map fun entry => (entry.1, settledTarget target entry.2)) values :=
          List.forall₂_map_left_iff.mpr (areValues.imp fun _ _ isValue =>
            ⟨isValue.1, (settledTarget_of_expandElement below isValue.2).2⟩)
        refine ⟨flattenShape_map_eq_ok.mpr ⟨_, _, rfl, flattened.sortedOfList, rfl⟩,
          expandShape_map_eq_ok.mpr (.inr ⟨_, _, rfl, again.sortedOfList, ?_⟩)⟩
        rw [(Entries.sortedOfList_sorted values).sortedOfList_eq]

/-- What a field expands to is flattened to its settled value. A field that reads its input
expands the settled value to the same again. -/
theorem settled_of_expand
    {field : FieldConversion Conversion}
    (unambiguous : ∀ inner, field.shape.nested? = some inner → inner.Unambiguous)
    (below : ∀ inner, field.shape.nested? = some inner → inner.Settles)
    {block : Entries Value}
    {value : TypedValue}
    (expanded : field.expand block = .ok value) :
    flattenShape field.external field.shape value = .ok (field.settled block) ∧
      (field.readsInput = true →
        expandShape field.external field.shape (some (field.settled block)) = .ok value) := by
  rw [FieldConversion.expand] at expanded
  rw [FieldConversion.settled]
  split at expanded
  next reads =>
    rw [if_pos reads]
    obtain ⟨flattened, again⟩ := settledShape_of_expandShape unambiguous below expanded
    exact ⟨flattened, fun _ => again⟩
  next ignores =>
    rw [if_neg ignores]
    obtain rfl := Except.ok.inj expanded
    have flattened := flattenShape_zeroShape
      (fun inner isNested => (unambiguous inner isNested).flatten_zero) field.external
    exact ⟨flattened, fun reads => absurd reads ignores⟩

/-- Expanding and flattening a block settles it. -/
theorem Unambiguous.settles {conversion : Conversion} (unambiguous : conversion.Unambiguous) :
    conversion.Settles := by
  induction unambiguous with
  | @intro conversion declared external below inductionHypothesis =>
      intro input struct expanded
      obtain ⟨typed, block, rfl, made⟩ := expand_eq_ok.mp expanded
      have each : ∀ field ∈ conversion.fields,
          ∃ value, Entries.get? field.declared struct.fields = some value ∧
            field.expand block = .ok value ∧
              flattenShape field.external field.shape value = .ok (field.settled block) ∧
                (field.readsInput = true → expandShape field.external field.shape
                  (some (field.settled block)) = .ok value) := by
        intro field member
        obtain ⟨value, isValue, found⟩ := Entries.get?_of_mapM declared made member
        have nests : ∀ inner, field.shape.nested? = some inner → inner ∈ conversion.nested :=
          fun inner isNested => mem_nested.mpr ⟨field, member, isNested⟩
        exact ⟨value, found, isValue, settled_of_expand
          (fun inner isNested => below inner (nests inner isNested))
          (fun inner isNested => inductionHypothesis inner (nests inner isNested)) isValue⟩
      rw [settled_block]
      constructor
      · refine flattenStruct_eq_ok.mpr ⟨typed, ?_, _, rfl, ?_⟩
        · refine stray?_eq_none.mpr fun name member => .inl ?_
          rw [Entries.keys_of_mapM made] at member
          exact member
        · refine Results.mapM_eq_map fun field member => ?_
          obtain ⟨value, found, _, flattened, _⟩ := each field member
          rw [FieldConversion.flatten, found, Option.getD_some, flattened]
          rfl
      · refine expand_eq_ok.mpr ⟨typed, _, rfl, .trans (Results.mapM_congr ?_) made⟩
        intro field member
        obtain ⟨value, _, isValue, _, again⟩ := each field member
        have found := Entries.get?_map_of_mem external (fun field => field.settled block) member
        suffices same : field.expand (conversion.fields.map fun field =>
            (field.external, field.settled block)) = field.expand block by
          rw [same]
        rw [isValue, FieldConversion.expand, found]
        split
        next reads => exact again reads
        next ignores =>
          rw [FieldConversion.expand, if_neg ignores] at isValue
          exact isValue

end Conversion

/-! ## Compiled groups -/

/-- Flattening what a conversion of a compiled group expanded gives a block with a key for
every field in order and the settled value under it; no value is spelled as the field's zero
value is flattened. The block expands to the same structure again. -/
theorem GroupPlan.flatten_expand
    {manifest : Manifest}
    {group : GroupPlan}
    {compiled : CompiledGroup}
    (accepted : group.compile manifest = .ok compiled)
    {conversion : Conversion}
    (converts : compiled.Converts conversion)
    {input : Value}
    {struct : TypedStruct}
    (expanded : conversion.expand input = .ok struct) :
    ∃ block flat : Entries Value, input = .block block ∧
      conversion.flatten struct = .ok (.block flat) ∧
      flat.keys = conversion.fields.map FieldConversion.external ∧
      (∀ field ∈ conversion.fields, flat.get? field.external = some (field.settled block)) ∧
      (∀ field ∈ conversion.fields,
        Conversion.flattenShape field.external field.shape field.zero = .ok field.blank) ∧
      conversion.expand (.block flat) = .ok struct := by
  have unambiguous := GroupPlan.converts_unambiguous accepted converts
  obtain ⟨flattened, again⟩ := unambiguous.settles input struct expanded
  obtain ⟨_, block, rfl, _⟩ := Conversion.expand_eq_ok.mp expanded
  rw [Conversion.settled_block] at flattened again
  obtain ⟨_, external, below⟩ := unambiguous
  refine ⟨block, _, rfl, flattened, ?keys, fun field member => ?value, fun field member => ?blank,
    again⟩
  case keys =>
    rw [Entries.keys, List.map_map]
    rfl
  case value => exact Entries.get?_map_of_mem external (fun field => field.settled block) member
  case blank =>
    refine Conversion.flattenShape_zeroShape (fun inner isNested => ?_) _
    exact (below inner (Conversion.mem_nested.mpr ⟨field, member, isNested⟩)).flatten_zero

/-- An order with integers for real numbers, a null in place of its main item, a computed
field and one that is not known. -/
def Orders.looseOrder : Value :=
  .block
    [("total", .scalar (.int 9)),
      ("prices", .block [("nail", .scalar (.int 2)), ("bolt", .scalar (.int 7))]),
      ("main", .list [.null]),
      ("items", .list [.block [("name", .scalar (.string "nail"))]]),
      ("colour", .scalar (.string "red"))]

theorem GroupPlan.flatten_expand_looseOrder :
    ∃ compiled conversion struct flat,
      Orders.group.compile Orders.manifest = .ok compiled ∧
      compiled.Converts conversion ∧
      conversion.typeId = Orders.order.id ∧
      conversion.expand Orders.looseOrder = .ok struct ∧
      conversion.flatten struct = .ok (.block flat) ∧
      conversion.expand (.block flat) = .ok struct := by
  obtain ⟨compiled, conversion, accepted, converts, passes⟩ :=
    @Orders.converts
      (fun conversion => conversion.typeId == Orders.order.id &&
        (conversion.expand Orders.looseOrder).toOption.isSome)
      (by decide +kernel)
  obtain ⟨typed, isStruct⟩ := Bool.and_eq_true_iff.mp passes
  cases expanded : conversion.expand Orders.looseOrder with
  | error error =>
      rw [expanded] at isStruct
      cases isStruct
  | ok struct =>
      obtain ⟨_, flat, _, flattened, _, _, _, again⟩ :=
        GroupPlan.flatten_expand accepted converts expanded
      exact ⟨compiled, conversion, struct, flat, accepted, converts, beq_iff_eq.mp typed,
        expanded, flattened, again⟩

end BlockSchema
