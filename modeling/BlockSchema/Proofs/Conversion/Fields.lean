import BlockSchema.Proofs.Conversion.Shapes

/-!
Contract: expanding and flattening structures, field by field.

A conversion works on each of its fields by itself. The equations here put a structure as
the list of its fields' computations, so what holds of every field holds of the structure.
-/

set_option autoImplicit false

namespace BlockSchema

/-! ## Fields -/

/-- The value of a field in the structure that a block expands to. -/
def FieldConversion.expand (field : FieldConversion Conversion) (block : Entries Value) :
    Expanded TypedValue :=
  if field.readsInput then
    Conversion.expandShape field.external field.shape (block.get? field.external)
  else .ok field.zero

/-- The value of a field in the block that a structure becomes. -/
def FieldConversion.flatten (field : FieldConversion Conversion) (given : Entries TypedValue) :
    Flattened Value :=
  Conversion.flattenShape field.external field.shape
    ((given.get? field.declared).getD field.zero)

theorem Conversion.zero_eq (conversion : Conversion) :
    conversion.zero =
      ⟨conversion.typeId, conversion.fields.map fun field => (field.declared, field.zero)⟩ := by
  have zeroFields : ∀ fields, Conversion.zeroFields fields =
      fields.map fun field => (field.declared, field.zero) := by
    intro fields
    induction fields with
    | nil => rfl
    | cons field rest inductionHypothesis =>
        rw [Conversion.zeroFields, inductionHypothesis]
        rfl
  cases conversion with
  | mk => rw [Conversion.zero, zeroFields]

private theorem Conversion.expandFields_eq_mapM
    (fields : List (FieldConversion Conversion))
    (block : Entries Value) :
    Conversion.expandFields fields block =
      fields.mapM fun field => (field.expand block).map (Prod.mk field.declared) := by
  induction fields with
  | nil => rfl
  | cons field rest inductionHypothesis =>
      obtain ⟨declared, external, shape, readsInput⟩ := field
      rw [Conversion.expandFields, List.mapM_cons, inductionHypothesis, FieldConversion.expand]
      cases readsInput with
      | false => rfl
      | true => cases Conversion.expandShape external shape (block.get? external) <;> rfl

theorem Conversion.flattenFields_eq_mapM
    (fields : List (FieldConversion Conversion))
    (given : Entries TypedValue) :
    Conversion.flattenFields fields given =
      fields.mapM fun field => (field.flatten given).map (Prod.mk field.external) := by
  induction fields with
  | nil => rfl
  | cons field rest inductionHypothesis =>
      obtain ⟨declared, external, shape, readsInput⟩ := field
      rw [Conversion.flattenFields, List.mapM_cons, inductionHypothesis]
      change (FieldConversion.flatten ⟨declared, external, shape, readsInput⟩ given >>= _) = _
      cases FieldConversion.flatten ⟨declared, external, shape, readsInput⟩ given <;> rfl

/-! ## Structures -/

theorem Conversion.expand_eq (conversion : Conversion) (input : Value) :
    conversion.expand input =
      input.readBlock conversion.typeId >>= fun block =>
        Except.map (TypedStruct.mk conversion.typeId)
          (conversion.fields.mapM fun field =>
            (field.expand block).map (Prod.mk field.declared)) := by
  cases conversion with
  | mk => simp only [Conversion.expand, Conversion.expandFields_eq_mapM]; rfl

theorem Conversion.expand_block (conversion : Conversion) (block : Entries Value) :
    conversion.expand (.block block) =
      Except.map (TypedStruct.mk conversion.typeId)
        (conversion.fields.mapM fun field =>
          (field.expand block).map (Prod.mk field.declared)) :=
  conversion.expand_eq (.block block)

theorem Conversion.expand_eq_ok
    {conversion : Conversion}
    {input : Value}
    {struct : TypedStruct} :
    conversion.expand input = .ok struct ↔
      struct.type = conversion.typeId ∧ ∃ block, input = .block block ∧
        (conversion.fields.mapM fun field =>
          (field.expand block).map (Prod.mk field.declared)) = .ok struct.fields := by
  cases input with
  | block entries =>
      rw [Conversion.expand_block, Results.map_eq_ok]
      constructor
      · rintro ⟨fields, made, rfl⟩
        exact ⟨rfl, entries, rfl, made⟩
      · rintro ⟨typed, block, same, made⟩
        obtain rfl := Value.block.inj same
        exact ⟨struct.fields, made, by rw [← typed]⟩
  | _ =>
      cases conversion
      constructor
      · intro impossible
        cases impossible
      · rintro ⟨_, _, impossible, _⟩
        cases impossible

/-- No field is stray when every one is converted or omitted. -/
theorem Conversion.stray?_eq_none
    {fields : List (FieldConversion Conversion)}
    {omitted : List String}
    {given : Entries TypedValue} :
    Conversion.stray? fields omitted given = none ↔
      ∀ name ∈ given.keys, name ∈ fields.map FieldConversion.declared ∨ name ∈ omitted := by
  simp only [Conversion.stray?, List.find?_eq_none, Bool.and_eq_true, Bool.not_eq_true',
    not_and, List.any_eq_false, beq_iff_eq, List.contains_eq_mem,
    decide_eq_false_iff_not, List.mem_map]
  constructor
  · intro none name member
    by_cases declared : ∃ field ∈ fields, field.declared = name
    · exact .inl declared
    · refine .inr (not_not.mp (none name member fun field inside same => ?_))
      exact declared ⟨field, inside, same⟩
  · rintro covered name member undeclared
    rcases covered name member with ⟨field, inside, same⟩ | omits
    · exact absurd same (undeclared field inside)
    · exact not_not.mpr omits

theorem Conversion.flattenStruct_eq_ok
    {conversion : Conversion}
    {type : TypeId}
    {given : Entries TypedValue}
    {flat : Value} :
    conversion.flattenStruct type given = .ok flat ↔
      type = conversion.typeId ∧
        Conversion.stray? conversion.fields conversion.omitted given = none ∧
          ∃ block, flat = .block block ∧
            (conversion.fields.mapM fun field =>
              (field.flatten given).map (Prod.mk field.external)) = .ok block := by
  obtain ⟨typeId, fields, omitted⟩ := conversion
  rw [Conversion.flattenStruct, Conversion.flattenFields_eq_mapM]
  split
  next differs =>
    constructor
    · intro impossible
      cases impossible
    · rintro ⟨same, _⟩
      exact absurd same differs
  next same =>
    rw [not_not] at same
    split
    next name isStray =>
      constructor
      · intro impossible
        cases impossible
      · rintro ⟨_, none, _⟩
        cases isStray.symm.trans none
    next noStray =>
      constructor
      · intro made
        obtain ⟨block, isBlock, equal⟩ := Results.bind_eq_ok.mp made
        exact ⟨same, noStray, block, (Except.ok.inj equal).symm, isBlock⟩
      · rintro ⟨_, _, block, rfl, isBlock⟩
        exact Results.bind_eq_ok.mpr ⟨block, isBlock, rfl⟩

end BlockSchema
