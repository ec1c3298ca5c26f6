import BlockSchema.Proofs.Conversion.Fields
import BlockSchema.Proofs.Routine.Meaning

/-!
Contract: values of the model and typed values that hold the same.

A structure of the model has a member for every field of a conversion, and a member holds
what the typed structure has for the field, its zero value if it has none. Members for
omitted fields are not looked at, and maps may yield their entries in any order.

A model serves conversions when it is what emitted source is written for.
-/

set_option autoImplicit false

namespace BlockSchema

/-! ## Holding the same -/

mutual

/-- A structure of the model holds what a typed structure holds. -/
def Conversion.Holds (model : Model) : Conversion → model.Datum → TypedValue → Prop
  | ⟨typeId, fields, _⟩, .record struct members, .struct typed given =>
      struct = typeId.modelName ∧ typed = typeId ∧
        Conversion.HoldsFields model fields members given
  | _, _, _ => False

def Conversion.HoldsFields (model : Model) :
    List (FieldConversion Conversion) → Entries model.Datum → Entries TypedValue → Prop
  | [], _, _ => True
  | ⟨declared, _, shape, _⟩ :: rest, members, given =>
      (∃ value, members.get? (Name.member declared) = some value ∧
        Conversion.HoldsShape model shape value
          ((given.get? declared).getD (Conversion.zeroShape shape))) ∧
      Conversion.HoldsFields model rest members given

def Conversion.HoldsShape (model : Model) :
    FieldShape Conversion → model.Datum → TypedValue → Prop
  | ⟨.plain, target⟩, value, typed => Conversion.HoldsTarget model target value typed
  | ⟨.pointer, target⟩, .option (some value), .pointer (some typed) =>
      Conversion.HoldsTarget model target value typed
  | ⟨.pointer, _⟩, .option none, .pointer none => True
  | ⟨.list, target⟩, .list items, .list typed =>
      List.Forall₂ (Conversion.HoldsTarget model target) items typed
  | ⟨.map, target⟩, .map entries, .map typed =>
      (Entries.keys entries).Nodup ∧
        ∃ inOrder, entries.Perm inOrder ∧
          Entries.Alike (Conversion.HoldsTarget model target) inOrder typed
  | _, _, _ => False

def Conversion.HoldsTarget (model : Model) :
    Target Conversion → model.Datum → TypedValue → Prop
  | .scalar type, value, .scalar scalar =>
      model.scalar? type value = some scalar
  | .struct nested, value, typed => nested.Holds model value typed
  | _, _, _ => False

end

/-- A member holds what a typed structure has for a field. -/
def FieldConversion.Holds
    (model : Model)
    (field : FieldConversion Conversion)
    (members : Entries model.Datum)
    (given : Entries TypedValue) :
    Prop :=
  ∃ value, members.get? (Name.member field.declared) = some value ∧
    Conversion.HoldsShape model field.shape value ((given.get? field.declared).getD field.zero)

section Holding

variable {model : Model} {conversion : Conversion} {target : Target Conversion}

theorem Model.holdsTarget_scalar
    {type : ScalarType}
    {place : MemberPlace}
    (unwraps : ∀ value, model.unwrap type.kind (model.wrap place type.kind value) = some value)
    {value : type.kind.Base}
    {scalar : Scalar}
    (same : type.kind.toScalar value = scalar) :
    Conversion.HoldsTarget model (.scalar type)
      (model.scalar place type.kind type.named.isSome value) (.scalar scalar) := by
  rw [Conversion.HoldsTarget, Model.scalar?_scalar unwraps, same]

theorem Conversion.holdsShape_pointer {held : model.Datum} {typed : Option TypedValue} :
    Conversion.HoldsShape model ⟨.pointer, target⟩ held (.pointer typed) ↔
      ∃ value, held = .option value ∧
        Option.Rel (Conversion.HoldsTarget model target) value typed := by
  cases held with
  | option value => cases value <;> cases typed <;> simp [Conversion.HoldsShape]
  | _ => simp [Conversion.HoldsShape]

theorem Conversion.holdsShape_list {held : model.Datum} {typed : List TypedValue} :
    Conversion.HoldsShape model ⟨.list, target⟩ held (.list typed) ↔
      ∃ items, held = .list items ∧
        List.Forall₂ (Conversion.HoldsTarget model target) items typed := by
  cases held <;> simp [Conversion.HoldsShape]

theorem Conversion.holdsShape_map {held : model.Datum} {typed : Entries TypedValue} :
    Conversion.HoldsShape model ⟨.map, target⟩ held (.map typed) ↔
      ∃ entries, held = .map entries ∧ (Entries.keys entries).Nodup ∧
        ∃ inOrder, entries.Perm inOrder ∧
          Entries.Alike (Conversion.HoldsTarget model target) inOrder typed := by
  cases held <;> simp [Conversion.HoldsShape]

private theorem Conversion.holdsFields_iff
    {fields : List (FieldConversion Conversion)}
    {members : Entries model.Datum}
    {given : Entries TypedValue} :
    Conversion.HoldsFields model fields members given ↔
      ∀ field ∈ fields, field.Holds model members given := by
  induction fields with
  | nil => simp [Conversion.HoldsFields]
  | cons field rest inductionHypothesis =>
      rw [Conversion.HoldsFields, inductionHypothesis, List.forall_mem_cons]
      rfl

theorem Conversion.holds_iff {record : model.Datum} {type : TypeId} {given : Entries TypedValue} :
    conversion.Holds model record (.struct type given) ↔
      type = conversion.typeId ∧
        ∃ members, record = .record conversion.typeId.modelName members ∧
          ∀ field ∈ conversion.fields, field.Holds model members given := by
  obtain ⟨typeId, fields, omitted⟩ := conversion
  cases record with
  | record own members =>
      rw [Conversion.Holds, Conversion.holdsFields_iff]
      constructor
      · rintro ⟨rfl, typed, holds⟩
        exact ⟨typed, members, rfl, holds⟩
      · rintro ⟨typed, others, same, holds⟩
        obtain ⟨rfl, rfl⟩ := ModelValue.record.inj same
        exact ⟨rfl, typed, holds⟩
  | _ => simp [Conversion.Holds]

end Holding

/-! ## Models for emitted source -/

/-- What emitted source expects of the model, as far as some conversions make use of it. -/
structure Model.Serves (model : Model) (conversions : List Conversion) : Prop where
  /-- A named scalar is converted from its base type and back without loss. -/
  unwraps : ∀ place kind value, model.unwrap kind (model.wrap place kind value) = some value
  /-- A map collection has, in some order, the entries put last under their keys. -/
  collects : ∀ place entries, (model.collect place entries).Perm (Entries.sortedOfList entries)
  /-- The default of a member is the zero value of its field. -/
  memberDefault : ∀ conversion ∈ conversions, ∀ field ∈ conversion.fields,
    Conversion.HoldsShape model field.shape
      (model.memberDefault ⟨conversion.typeId.modelName, Name.member field.declared⟩) field.zero

end BlockSchema
