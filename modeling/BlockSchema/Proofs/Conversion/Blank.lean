import BlockSchema.Proofs.Conversion.Fields

/-!
Contract: how no value is spelled in a block, and what it stands for.

The zero structure of a conversion flattens to its blank block and the blank block
expands to the zero structure. So a field that is left out, and one that is computed only,
looks the same in every block that is flattened.
-/

set_option autoImplicit false

namespace BlockSchema

mutual

/-- The block of a type with every field spelled as no value. -/
def Conversion.blank : Conversion → Value
  | ⟨_, fields, _⟩ => .block (Conversion.blankFields fields)

/-- The blank values of fields, under their external names. -/
def Conversion.blankFields : List (FieldConversion Conversion) → Entries Value
  | [] => []
  | ⟨_, external, shape, _⟩ :: rest =>
      (external, Conversion.blankShape shape) :: Conversion.blankFields rest

/-- The spelling of no value of a shape. -/
def Conversion.blankShape : FieldShape Conversion → Value
  | ⟨.plain, .scalar type⟩ => .scalar (.zero type.kind)
  | ⟨.plain, .struct nested⟩ => .list [nested.blank]
  | ⟨.pointer, .scalar _⟩ => .null
  | ⟨.pointer, .struct _⟩ => .list []
  | ⟨.list, _⟩ => .list []
  | ⟨.map, _⟩ => .block []

end

/-- The spelling of no value of a field. -/
def FieldConversion.blank (field : FieldConversion Conversion) : Value :=
  Conversion.blankShape field.shape

namespace Conversion

private theorem blank_eq (conversion : Conversion) :
    conversion.blank =
      .block (conversion.fields.map fun field => (field.external, field.blank)) := by
  have blankFields : ∀ fields, blankFields fields =
      fields.map fun field => (field.external, field.blank) := by
    intro fields
    induction fields with
    | nil => rfl
    | cons field rest inductionHypothesis =>
        rw [Conversion.blankFields, inductionHypothesis]
        rfl
  cases conversion with
  | mk => rw [blank, blankFields]

theorem flattenShape_zeroShape
    {shape : FieldShape Conversion}
    (below : ∀ inner, shape.nested? = some inner → inner.flatten inner.zero = .ok inner.blank)
    (field : String) :
    flattenShape field shape (zeroShape shape) = .ok (blankShape shape) := by
  obtain ⟨arity, target⟩ := shape
  cases arity with
  | plain =>
      cases target with
      | scalar type => exact if_pos (Scalar.kind_zero type.kind)
      | struct nested => exact congrArg (Except.map Value.single) (below nested rfl)
  | pointer => cases target <;> rfl
  | list => rfl
  | map => rfl

theorem expandShape_blankShape
    {shape : FieldShape Conversion}
    (below : ∀ inner, shape.nested? = some inner → inner.expand inner.blank = .ok inner.zero)
    (field : String) :
    expandShape field shape (some (blankShape shape)) = .ok (zeroShape shape) := by
  obtain ⟨arity, target⟩ := shape
  cases arity with
  | plain =>
      cases target with
      | scalar type =>
          have held := Value.scalarAs?_of_kind (Scalar.kind_zero type.kind)
          refine expandShape_plain_eq_ok.mpr (.inr ⟨.scalar (.zero type.kind), rfl, ?_⟩)
          exact expandElement_scalar_eq_ok.mpr ⟨_, held, rfl⟩
      | struct nested =>
          refine expandShape_plain_eq_ok.mpr (.inr ⟨nested.blank, rfl, ?_⟩)
          exact expandElement_struct_eq_ok.mpr ⟨_, below nested rfl, rfl⟩
  | pointer => cases target <;> rfl
  | list => rfl
  | map => rfl

namespace Unambiguous

variable {conversion : Conversion}

/-- The zero structure is flattened to the blank block. -/
theorem flatten_zero (unambiguous : conversion.Unambiguous) :
    conversion.flatten conversion.zero = .ok conversion.blank := by
  induction unambiguous with
  | @intro conversion declared external below inductionHypothesis =>
      rw [flatten, flattenStruct_eq_ok, zero_eq, blank_eq]
      refine ⟨rfl, stray?_eq_none.mpr fun name member => .inl ?_, _, rfl, ?_⟩
      · rw [Entries.keys, List.map_map] at member
        exact member
      · refine Results.mapM_eq_map fun field member => ?_
        have found := Entries.get?_map_of_mem declared FieldConversion.zero member
        rw [FieldConversion.flatten, found]
        refine congrArg (Except.map _) (flattenShape_zeroShape (fun inner isNested => ?_) _)
        exact inductionHypothesis inner (mem_nested.mpr ⟨field, member, isNested⟩)

/-- The blank block is expanded to the zero structure. -/
theorem expand_blank (unambiguous : conversion.Unambiguous) :
    conversion.expand conversion.blank = .ok conversion.zero := by
  induction unambiguous with
  | @intro conversion declared external below inductionHypothesis =>
      rw [blank_eq, zero_eq, expand_block]
      refine congrArg (Except.map _) (Results.mapM_eq_map fun field member => ?_)
      have found := Entries.get?_map_of_mem external FieldConversion.blank member
      rw [FieldConversion.expand, found]
      split
      next =>
        refine congrArg (Except.map _) (expandShape_blankShape (fun inner isNested => ?_) _)
        exact inductionHypothesis inner (mem_nested.mpr ⟨field, member, isNested⟩)
      next => rfl

end Unambiguous

end Conversion

end BlockSchema
