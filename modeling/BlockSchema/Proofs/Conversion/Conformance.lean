import BlockSchema.Proofs.Conversion.Blank

/-!
Contract: exactly which structures are flattened, and which error the others get.

A structure conforms to a conversion when it is of its type, has only fields that the
conversion knows, and holds a value of the right shape in every field that is converted. What
an omitted field holds is never looked at. A structure that does not conform is refused for
its type first, then for the first field that is unknown, then for the first field in
declaration order that does not conform.
-/

set_option autoImplicit false

namespace BlockSchema

/-! ## Conforming structures -/

/-- A conversion knows the fields that it converts and those that it omits. -/
def Conversion.Knows (conversion : Conversion) (name : String) : Prop :=
  name ∈ conversion.fields.map FieldConversion.declared ∨ name ∈ conversion.omitted

instance Conversion.decidableKnows (conversion : Conversion) (name : String) :
    Decidable (conversion.Knows name) :=
  inferInstanceAs (Decidable (_ ∨ _))

mutual

/-- Whether a structure, given by its type and fields, is of the conversion's type, has only
known fields, and holds in every converted field what it should. -/
def Conversion.conforms : Conversion → TypeId → Entries TypedValue → Bool
  | ⟨typeId, fields, omitted⟩, type, given =>
      type == typeId &&
        given.keys.all (fun name =>
          (fields.any fun field => field.declared == name) || omitted.contains name) &&
        Conversion.conformsIn fields given

/-- Whether the fields of a structure hold what they should. A field that is missing does. -/
def Conversion.conformsIn : List (FieldConversion Conversion) → Entries TypedValue → Bool
  | [], _ => true
  | ⟨declared, _, shape, _⟩ :: rest, given =>
      (given.get? declared).all (Conversion.conformsTo shape) &&
        Conversion.conformsIn rest given

/-- Whether a value is one of a shape. -/
def Conversion.conformsTo : FieldShape Conversion → TypedValue → Bool
  | ⟨.plain, target⟩, value => Conversion.conformsAt target value
  | ⟨.pointer, _⟩, .pointer none => true
  | ⟨.pointer, target⟩, .pointer (some value) => Conversion.conformsAt target value
  | ⟨.list, target⟩, .list items => items.all (Conversion.conformsAt target)
  | ⟨.map, target⟩, .map entries =>
      entries.all fun entry => Conversion.conformsAt target entry.2
  | _, _ => false

/-- Whether a value is a scalar of exactly the kind, or a structure that conforms. -/
def Conversion.conformsAt : Target Conversion → TypedValue → Bool
  | .scalar type, .scalar held => held.kind == type.kind
  | .struct nested, .struct type given => nested.conforms type given
  | _, _ => false

end

/-- Whether a structure holds in a field what it should. -/
def FieldConversion.conforms
    (field : FieldConversion Conversion)
    (given : Entries TypedValue) :
    Bool :=
  (given.get? field.declared).all (Conversion.conformsTo field.shape)

theorem FieldConversion.conforms_iff
    {field : FieldConversion Conversion}
    {given : Entries TypedValue} :
    field.conforms given = true ↔ ∀ value, given.get? field.declared = some value →
      Conversion.conformsTo field.shape value = true := by
  rw [conforms, Option.all_eq_true]

theorem Conversion.conforms_iff
    {conversion : Conversion}
    {type : TypeId}
    {given : Entries TypedValue} :
    conversion.conforms type given = true ↔
      type = conversion.typeId ∧ (∀ name ∈ given.keys, conversion.Knows name) ∧
        ∀ field ∈ conversion.fields, field.conforms given = true := by
  have fieldsConform : ∀ fields, Conversion.conformsIn fields given = true ↔
      ∀ field ∈ fields, FieldConversion.conforms field given = true := by
    intro fields
    induction fields with
    | nil => simp [Conversion.conformsIn]
    | cons field rest inductionHypothesis =>
        rw [Conversion.conformsIn, Bool.and_eq_true, inductionHypothesis, List.forall_mem_cons]
        rfl
  cases conversion with
  | mk typeId fields omitted =>
      rw [Conversion.conforms, Bool.and_eq_true, Bool.and_eq_true, beq_iff_eq, fieldsConform,
        and_assoc]
      simp [Conversion.Knows]

/-! ## Refused structures -/

/-- What a value is to be where a shape has its target. -/
def FieldShape.held {ν : Type} : FieldShape ν → Held
  | ⟨.plain, .scalar _⟩ => .scalar
  | ⟨.plain, .struct _⟩ => .struct
  | ⟨.pointer, .scalar _⟩ => .pointerToScalar
  | ⟨.pointer, .struct _⟩ => .pointerToStructure
  | ⟨.list, .scalar _⟩ | ⟨.map, .scalar _⟩ => .scalarElements
  | ⟨.list, .struct _⟩ | ⟨.map, .struct _⟩ => .structureElements

mutual

/-- A conversion refuses a structure, given by its type and fields, for an error. -/
inductive Conversion.Refuses :
    Conversion → TypeId → Entries TypedValue → FlattenError → Prop where
  | wrongType {conversion : Conversion} {type : TypeId} {given : Entries TypedValue}
      (other : type ≠ conversion.typeId) :
      Refuses conversion type given (.wrongType conversion.typeId type)
  | unknownField {conversion : Conversion} {type : TypeId} {given : Entries TypedValue}
      {earlier later : List String}
      {name : String}
      (same : type = conversion.typeId)
      (place : given.keys = earlier ++ name :: later)
      (before : ∀ other ∈ earlier, conversion.Knows other)
      (unknown : ¬ conversion.Knows name) :
      Refuses conversion type given (.unknownField conversion.typeId name)
  | field {conversion : Conversion} {type : TypeId} {given : Entries TypedValue}
      {error : FlattenError}
      {earlier later : List (FieldConversion Conversion)}
      {field : FieldConversion Conversion}
      {value : TypedValue}
      (same : type = conversion.typeId)
      (known : ∀ name ∈ given.keys, conversion.Knows name)
      (place : conversion.fields = earlier ++ field :: later)
      (before : ∀ other ∈ earlier, other.conforms given = true)
      (found : given.get? field.declared = some value)
      (refused : RefusesUnder field.external field.shape value error) :
      Refuses conversion type given error

/-- A field refuses a value for an error. -/
inductive Conversion.RefusesUnder :
    String → FieldShape Conversion → TypedValue → FlattenError → Prop where
  | plain {name : String} {target : Target Conversion} {value : TypedValue}
      {error : FlattenError}
      (refused : RefusesAt name (FieldShape.held ⟨.plain, target⟩) target value error) :
      RefusesUnder name ⟨.plain, target⟩ value error
  | noPointer {name : String} {target : Target Conversion} {value : TypedValue}
      (other : ∀ inner, value ≠ .pointer inner) :
      RefusesUnder name ⟨.pointer, target⟩ value (.mismatch name .pointer)
  | pointer {name : String} {target : Target Conversion} {inner : TypedValue}
      {error : FlattenError}
      (refused : RefusesAt name (FieldShape.held ⟨.pointer, target⟩) target inner error) :
      RefusesUnder name ⟨.pointer, target⟩ (.pointer (some inner)) error
  | noList {name : String} {target : Target Conversion} {value : TypedValue}
      (other : ∀ items, value ≠ .list items) :
      RefusesUnder name ⟨.list, target⟩ value (.mismatch name .list)
  | item {name : String} {target : Target Conversion} {error : FlattenError}
      {earlier later : List TypedValue}
      {item : TypedValue}
      (before : ∀ other ∈ earlier, Conversion.conformsAt target other = true)
      (refused : RefusesAt name (FieldShape.held ⟨.list, target⟩) target item error) :
      RefusesUnder name ⟨.list, target⟩ (.list (earlier ++ item :: later)) error
  | noMap {name : String} {target : Target Conversion} {value : TypedValue}
      (other : ∀ entries, value ≠ .map entries) :
      RefusesUnder name ⟨.map, target⟩ value (.mismatch name .map)
  | entry {name : String} {target : Target Conversion} {error : FlattenError}
      {earlier later : Entries TypedValue}
      {entry : String × TypedValue}
      (before : ∀ other ∈ earlier, Conversion.conformsAt target other.2 = true)
      (refused : RefusesAt name (FieldShape.held ⟨.map, target⟩) target entry.2 error) :
      RefusesUnder name ⟨.map, target⟩ (.map (earlier ++ entry :: later)) error

/-- A value is refused for an error where a target belongs. -/
inductive Conversion.RefusesAt :
    String → Held → Target Conversion → TypedValue → FlattenError → Prop where
  | noScalar {name : String} {held : Held} {type : ScalarType} {value : TypedValue}
      (other : ∀ scalar, value ≠ .scalar scalar) :
      RefusesAt name held (.scalar type) value (.mismatch name held)
  | otherKind {name : String} {held : Held} {type : ScalarType} {scalar : Scalar}
      (differs : scalar.kind ≠ type.kind) :
      RefusesAt name held (.scalar type) (.scalar scalar) (.mismatch name .scalarOfKind)
  | noStruct {name : String} {held : Held} {nested : Conversion} {value : TypedValue}
      (other : ∀ type given, value ≠ .struct type given) :
      RefusesAt name held (.struct nested) value (.mismatch name held)
  | struct {name : String} {held : Held} {nested : Conversion} {type : TypeId}
      {given : Entries TypedValue}
      {error : FlattenError}
      (refused : Refuses nested type given error) :
      RefusesAt name held (.struct nested) (.struct type given) error

end

/-- A field refuses what a structure holds in it for an error. -/
def FieldConversion.Refuses
    (field : FieldConversion Conversion)
    (given : Entries TypedValue)
    (error : FlattenError) :
    Prop :=
  ∃ value, given.get? field.declared = some value ∧
    Conversion.RefusesUnder field.external field.shape value error

/-! ## Flattening decides between the two -/

namespace Conversion

open Results (Decides)

/-- Flattens a value where a target belongs. -/
def flattenAt (name : String) (held : Held) : Target Conversion → TypedValue → Flattened Value
  | .scalar type, .scalar scalar => scalar.flatten name type
  | .struct nested, .struct type given => nested.flattenStruct type given
  | _, _ => .error (.mismatch name held)

section Shapes

variable {name : String} {held : Held} {target : Target Conversion} {value : TypedValue}

private theorem flattenShape_plain :
    flattenShape name ⟨.plain, target⟩ value =
      (flattenAt name (FieldShape.held ⟨.plain, target⟩) target value).map target.single := by
  cases target with
  | scalar type =>
      cases value with
      | scalar scalar =>
          rw [flattenShape, flattenAt]
          cases scalar.flatten name type <;> rfl
      | _ => rfl
  | struct nested => cases value <;> rfl

private theorem flattenShape_pointer_some :
    flattenShape name ⟨.pointer, target⟩ (.pointer (some value)) =
      (flattenAt name (FieldShape.held ⟨.pointer, target⟩) target value).map target.single := by
  cases target with
  | scalar type =>
      cases value with
      | scalar scalar =>
          rw [flattenShape, flattenAt]
          cases scalar.flatten name type <;> rfl
      | _ => rfl
  | struct nested => cases value <;> rfl

private theorem flattenShape_of_not_pointer (other : ∀ inner, value ≠ .pointer inner) :
    flattenShape name ⟨.pointer, target⟩ value = .error (.mismatch name .pointer) := by
  cases value with
  | pointer inner => exact absurd rfl (other inner)
  | _ => cases target <;> rfl

private theorem flattenElement_eq :
    flattenElement name target value =
      flattenAt name (FieldShape.held ⟨.list, target⟩) target value := by
  cases target <;> cases value <;> rfl

private theorem flattenShape_list (items : List TypedValue) :
    flattenShape name ⟨.list, target⟩ (.list items) =
      (items.mapM (flattenAt name (FieldShape.held ⟨.list, target⟩) target)).map .list := by
  rw [flattenShape, TypedValue.flattenItems_eq_mapM]
  exact congrArg (Except.map _) (Results.mapM_congr fun item _ => flattenElement_eq)

private theorem flattenShape_map (entries : Entries TypedValue) :
    flattenShape name ⟨.map, target⟩ (.map entries) =
      (entries.mapM fun entry =>
        (flattenAt name (FieldShape.held ⟨.map, target⟩) target entry.2).map
          (Prod.mk entry.1)).map .block := by
  have heldAlike : FieldShape.held ⟨.map, target⟩ = FieldShape.held ⟨.list, target⟩ := by
    cases target <;> rfl
  rw [flattenShape, TypedValue.flattenEntries_eq_mapM, heldAlike]
  exact congrArg (Except.map _) (Results.mapM_congr fun entry _ => by rw [flattenElement_eq])

private theorem refusesAt_scalar {type : ScalarType} {error : FlattenError} :
    RefusesAt name held (.scalar type) value error ↔
      ((∀ scalar, value ≠ .scalar scalar) ∧ .mismatch name held = error) ∨
        ∃ scalar, value = .scalar scalar ∧ scalar.kind ≠ type.kind ∧
          .mismatch name .scalarOfKind = error := by
  constructor
  · intro refused
    cases refused with
    | noScalar other => exact .inl ⟨other, rfl⟩
    | otherKind differs => exact .inr ⟨_, rfl, differs, rfl⟩
  · rintro (⟨other, rfl⟩ | ⟨scalar, rfl, differs, rfl⟩)
    · exact .noScalar other
    · exact .otherKind differs

private theorem refusesAt_struct {nested : Conversion} {error : FlattenError} :
    RefusesAt name held (.struct nested) value error ↔
      ((∀ type given, value ≠ .struct type given) ∧ .mismatch name held = error) ∨
        ∃ type given, value = .struct type given ∧ nested.Refuses type given error := by
  constructor
  · intro refused
    cases refused with
    | noStruct other => exact .inl ⟨other, rfl⟩
    | struct refused => exact .inr ⟨_, _, rfl, refused⟩
  · rintro (⟨other, rfl⟩ | ⟨type, given, rfl, refused⟩)
    · exact .noStruct other
    · exact .struct refused

private theorem flattenAt_decides
    (below : ∀ inner, target.nested? = some inner → ∀ type given,
      Decides (inner.conforms type given = true) (inner.Refuses type given)
        (inner.flattenStruct type given)) :
    Decides (conformsAt target value = true) (RefusesAt name held target value)
      (flattenAt name held target value) := by
  cases target with
  | scalar type =>
      refine Decides.congr ?_ Iff.rfl fun error => refusesAt_scalar.symm
      cases value with
      | scalar scalar =>
          rw [flattenAt, conformsAt, Scalar.flatten, beq_iff_eq]
          by_cases same : scalar.kind = type.kind
          case pos =>
            rw [if_pos same]
            exact .ok same (by simp [same])
          case neg =>
            rw [if_neg same]
            exact .error same (by simp [same])
      | _ => exact .error (by simp [conformsAt]) (by simp)
  | struct nested =>
      refine Decides.congr ?_ Iff.rfl fun error => refusesAt_struct.symm
      cases value with
      | struct type given =>
          exact (below nested rfl type given).congr (by rw [conformsAt]) (by simp)
      | _ => exact .error (by simp [conformsAt]) (by simp)

private theorem refusesUnder_pointer {error : FlattenError} :
    RefusesUnder name ⟨.pointer, target⟩ value error ↔
      ((∀ inner, value ≠ .pointer inner) ∧ .mismatch name .pointer = error) ∨
        ∃ inner, value = .pointer (some inner) ∧
          RefusesAt name (FieldShape.held ⟨.pointer, target⟩) target inner error := by
  constructor
  · intro refused
    cases refused with
    | noPointer other => exact .inl ⟨other, rfl⟩
    | pointer refused => exact .inr ⟨_, rfl, refused⟩
  · rintro (⟨other, rfl⟩ | ⟨inner, rfl, refused⟩)
    · exact .noPointer other
    · exact .pointer refused

private theorem refusesUnder_list {error : FlattenError} :
    RefusesUnder name ⟨.list, target⟩ value error ↔
      ((∀ items, value ≠ .list items) ∧ .mismatch name .list = error) ∨
        ∃ items, value = .list items ∧
          Results.FirstRejected (fun item => conformsAt target item = true)
            (RefusesAt name (FieldShape.held ⟨.list, target⟩) target) items error := by
  constructor
  · intro refused
    cases refused with
    | noList other => exact .inl ⟨other, rfl⟩
    | item before refused => exact .inr ⟨_, rfl, _, _, _, rfl, before, refused⟩
  · rintro (⟨other, rfl⟩ | ⟨_, rfl, earlier, item, later, rfl, before, refused⟩)
    · exact .noList other
    · exact .item before refused

private theorem refusesUnder_map {error : FlattenError} :
    RefusesUnder name ⟨.map, target⟩ value error ↔
      ((∀ entries, value ≠ .map entries) ∧ .mismatch name .map = error) ∨
        ∃ entries : Entries TypedValue, value = .map entries ∧
          Results.FirstRejected (fun entry => conformsAt target entry.2 = true)
            (fun entry => RefusesAt name (FieldShape.held ⟨.map, target⟩) target entry.2)
            entries error := by
  constructor
  · intro refused
    cases refused with
    | noMap other => exact .inl ⟨other, rfl⟩
    | entry before refused => exact .inr ⟨_, rfl, _, _, _, rfl, before, refused⟩
  · rintro (⟨other, rfl⟩ | ⟨_, rfl, earlier, entry, later, rfl, before, refused⟩)
    · exact .noMap other
    · exact .entry before refused

/-- What a shape holds is flattened exactly when it conforms. -/
theorem flattenShape_decides
    (shape : FieldShape Conversion)
    (below : ∀ inner, shape.nested? = some inner → ∀ type given,
      Decides (inner.conforms type given = true) (inner.Refuses type given)
        (inner.flattenStruct type given)) :
    Decides (conformsTo shape value = true) (RefusesUnder name shape value)
      (flattenShape name shape value) := by
  obtain ⟨arity, target⟩ := shape
  cases arity with
  | plain =>
      rw [flattenShape_plain]
      refine (flattenAt_decides below).map.congr (by rw [conformsTo]) fun error => ?_
      exact ⟨.plain, fun | .plain refused => refused⟩
  | pointer =>
      refine Decides.congr ?_ Iff.rfl fun error => refusesUnder_pointer.symm
      cases value with
      | pointer inner =>
          cases inner with
          | none =>
              obtain ⟨flat, isFlat⟩ : ∃ flat,
                  flattenShape name ⟨.pointer, target⟩ (.pointer none) = .ok flat := by
                cases target <;> exact ⟨_, rfl⟩
              rw [isFlat]
              exact .ok (by rw [conformsTo]) (by simp)
          | some inner =>
              rw [flattenShape_pointer_some]
              exact (flattenAt_decides below).map.congr (by rw [conformsTo]) (by simp)
      | _ =>
          rw [flattenShape_of_not_pointer]
          · exact .error (by simp [conformsTo]) (by simp)
          · simp
  | list =>
      refine Decides.congr ?_ Iff.rfl fun error => refusesUnder_list.symm
      cases value with
      | list items =>
          rw [flattenShape_list]
          refine (Decides.mapM fun item _ => flattenAt_decides below).map.congr ?_ ?_
          · simp [conformsTo]
          · simp
      | _ => exact .error (by simp [conformsTo]) (by simp)
  | map =>
      refine Decides.congr ?_ Iff.rfl fun error => refusesUnder_map.symm
      cases value with
      | map entries =>
          rw [flattenShape_map]
          refine (Decides.mapM fun entry _ => (flattenAt_decides below).map).map.congr ?_ ?_
          · simp [conformsTo]
          · simp
      | _ => exact .error (by simp [conformsTo]) (by simp)

end Shapes

/-! ## Fields and structures -/

private theorem flattenStruct_eq
    (conversion : Conversion)
    (type : TypeId)
    (given : Entries TypedValue) :
    conversion.flattenStruct type given =
      if type = conversion.typeId then
        match stray? conversion.fields conversion.omitted given with
        | some name => .error (.unknownField conversion.typeId name)
        | none =>
            Except.map .block (conversion.fields.mapM fun field =>
              (field.flatten given).map (Prod.mk field.external))
      else .error (.wrongType conversion.typeId type) := by
  obtain ⟨typeId, fields, omitted⟩ := conversion
  rw [flattenStruct, flattenFields_eq_mapM, ite_not]
  rfl

private theorem flattenField_decides
    (field : FieldConversion Conversion)
    (given : Entries TypedValue)
    (blank : ∀ inner, field.shape.nested? = some inner →
      inner.flatten inner.zero = .ok inner.blank)
    (below : ∀ inner, field.shape.nested? = some inner → ∀ type given,
      Decides (inner.conforms type given = true) (inner.Refuses type given)
        (inner.flattenStruct type given)) :
    Decides (field.conforms given = true) (field.Refuses given) (field.flatten given) := by
  unfold FieldConversion.conforms FieldConversion.Refuses FieldConversion.flatten
  cases found : given.get? field.declared with
  | none =>
      -- A missing field is written as its zero value, which conforms.
      rw [Option.getD_none, FieldConversion.zero, flattenShape_zeroShape blank]
      exact .ok rfl (by simp)
  | some value => exact (flattenShape_decides field.shape below).congr (by simp) (by simp)

/-- The stray field is the first one that the conversion does not know. -/
theorem stray?_eq_some
    {conversion : Conversion}
    {given : Entries TypedValue}
    {name : String} :
    stray? conversion.fields conversion.omitted given = some name ↔
      ∃ earlier later, given.keys = earlier ++ name :: later ∧
        (∀ other ∈ earlier, conversion.Knows other) ∧ ¬ conversion.Knows name := by
  have isStray : ∀ other,
      (!(conversion.fields.any fun field => field.declared == other) &&
        !conversion.omitted.contains other) = true ↔ ¬ conversion.Knows other := by
    intro other
    simp [Knows]
  rw [stray?, List.find?_eq_some_iff_append, isStray]
  simp only [Bool.not_eq_true', ← Bool.not_eq_true, isStray, not_not]
  constructor
  · rintro ⟨unknown, earlier, later, place, before⟩
    exact ⟨earlier, later, place, before, unknown⟩
  · rintro ⟨earlier, later, place, before, unknown⟩
    exact ⟨unknown, earlier, later, place, before⟩

/-- What is refused is of another type, has a stray field, or has a first field that refuses
what it holds. -/
theorem refuses_iff
    {conversion : Conversion}
    {type : TypeId}
    {given : Entries TypedValue}
    {error : FlattenError} :
    conversion.Refuses type given error ↔
      (type ≠ conversion.typeId ∧ .wrongType conversion.typeId type = error) ∨
        type = conversion.typeId ∧
          ((∃ name, stray? conversion.fields conversion.omitted given = some name ∧
              .unknownField conversion.typeId name = error) ∨
            stray? conversion.fields conversion.omitted given = none ∧
              Results.FirstRejected (fun field => field.conforms given = true)
                (fun field => field.Refuses given) conversion.fields error) := by
  constructor
  · intro refused
    cases refused with
    | wrongType other => exact .inl ⟨other, rfl⟩
    | unknownField same place before unknown =>
        exact .inr ⟨same, .inl ⟨_, stray?_eq_some.mpr ⟨_, _, place, before, unknown⟩, rfl⟩⟩
    | field same known place before found refused =>
        exact .inr ⟨same, .inr ⟨stray?_eq_none.mpr known, _, _, _, place, before, _, found,
          refused⟩⟩
  · rintro (⟨other, rfl⟩ | ⟨same, ⟨name, stray, rfl⟩ | ⟨noStray, earlier, field, later, place,
      before, value, found, refused⟩⟩)
    · exact .wrongType other
    · obtain ⟨earlier, later, place, before, unknown⟩ := stray?_eq_some.mp stray
      exact .unknownField same place before unknown
    · exact .field same (stray?_eq_none.mp noStray) place before found refused

/-- A conversion flattens exactly the structures that conform to it, and fails with exactly
the error that it refuses a structure for. -/
theorem Unambiguous.flatten_decides
    {conversion : Conversion}
    (unambiguous : conversion.Unambiguous)
    (type : TypeId)
    (given : Entries TypedValue) :
    Decides (conversion.conforms type given = true) (conversion.Refuses type given)
      (conversion.flattenStruct type given) := by
  induction unambiguous generalizing type given with
  | @intro conversion declared external below inductionHypothesis =>
      refine Decides.congr ?_ conforms_iff.symm fun error => refuses_iff.symm
      rw [flattenStruct_eq]
      by_cases same : type = conversion.typeId
      case neg =>
        rw [if_neg same]
        exact .error (fun conforms => same conforms.1) (by simp [same])
      case pos =>
        rw [if_pos same]
        cases stray : stray? conversion.fields conversion.omitted given with
        | some name =>
            refine .error (fun conforms => ?_) (by simp [same])
            exact Option.some_ne_none name (stray.symm.trans (stray?_eq_none.mpr conforms.2.1))
        | none =>
            have ofField : ∀ field ∈ conversion.fields, Decides (field.conforms given = true)
                (field.Refuses given) (field.flatten given) := fun field member =>
              flattenField_decides field given
                (fun inner nests =>
                  (below inner (mem_nested.mpr ⟨field, member, nests⟩)).flatten_zero)
                (fun inner nests =>
                  inductionHypothesis inner (mem_nested.mpr ⟨field, member, nests⟩))
            have known := stray?_eq_none.mp stray
            refine (Decides.mapM fun field member => (ofField field member).map).map.congr ?_ ?_
            · exact ⟨fun conform => ⟨same, known, conform⟩, fun conforms => conforms.2.2⟩
            · simp [same]

/-! ## Fields that do not matter -/

private theorem stray?_insert
    {conversion : Conversion}
    {name : String}
    (omitted : name ∈ conversion.omitted)
    (given : Entries TypedValue)
    (value : TypedValue) :
    stray? conversion.fields conversion.omitted (given.insert name value) =
      stray? conversion.fields conversion.omitted given := by
  rw [stray?, stray?, Entries.keys_insert]
  split
  next => rfl
  next =>
    rw [List.find?_append, List.find?_singleton]
    simp [omitted]

/-- What a structure holds in a field that the conversion omits does not matter. -/
theorem flattenStruct_insert
    {conversion : Conversion}
    {name : String}
    (omitted : name ∈ conversion.omitted)
    (unconverted : name ∉ conversion.fields.map FieldConversion.declared)
    (type : TypeId)
    (given : Entries TypedValue)
    (value : TypedValue) :
    conversion.flattenStruct type (given.insert name value) =
      conversion.flattenStruct type given := by
  have ofField : ∀ field ∈ conversion.fields,
      field.flatten (given.insert name value) = field.flatten given := by
    intro field member
    have apart : name ≠ field.declared := fun same =>
      unconverted (same ▸ List.mem_map_of_mem member)
    rw [FieldConversion.flatten, FieldConversion.flatten, Entries.get?_insert, if_neg apart]
  rw [flattenStruct_eq, flattenStruct_eq, stray?_insert omitted,
    Results.mapM_congr fun field member => by rw [ofField field member]]

end Conversion

end BlockSchema
