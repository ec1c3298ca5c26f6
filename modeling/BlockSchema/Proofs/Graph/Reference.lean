import BlockSchema.Proofs.Graph.Names
import BlockSchema.Proofs.Graph.Transparency

/-!
Contract: what a type needs of its fields, and which types it refers to.

Only the fields that the directives leave in count. They fit when their external names are
valid and distinct and their shapes are known; then the outline of the type has no fault,
and it nests just the types that these fields refer to.
-/

set_option autoImplicit false

namespace BlockSchema

/-! ## Shapes -/

namespace Shape

/-- What a field can hold plainly, by a pointer, in a list or in a map. -/
inductive IsTarget : Shape → Prop where
  | scalar (type : ScalarType) : IsTarget (.scalar type)
  | struct (id : TypeId) : IsTarget (.struct id)

/-- The shapes that a field may have. -/
inductive Supported : Shape → Prop where
  | plain {shape : Shape} (target : shape.IsTarget) : Supported shape
  | pointer {inner : Shape} (target : inner.IsTarget) : Supported (.pointer inner)
  | list {element : Shape} (target : element.IsTarget) : Supported (.list element)
  | map {element : Shape} (target : element.IsTarget) : Supported (.map element)

section Targets

variable {shape : Shape} {target : Target TypeId}

private theorem exists_element?_iff : (∃ target, shape.element? = .ok target) ↔ shape.IsTarget := by
  constructor
  · rintro ⟨target, found⟩
    cases shape <;> cases found <;> constructor
  · rintro (type | id)
    · exact ⟨.scalar type, rfl⟩
    · exact ⟨.struct id, rfl⟩

private theorem exists_pointee?_iff : (∃ target, shape.pointee? = .ok target) ↔ shape.IsTarget := by
  constructor
  · rintro ⟨target, found⟩
    cases shape <;> cases found <;> constructor
  · rintro (type | id)
    · exact ⟨.scalar type, rfl⟩
    · exact ⟨.struct id, rfl⟩

private theorem nested?_of_element? (found : shape.element? = .ok target) :
    target.nested? = shape.reference? := by
  cases shape <;> cases found <;> rfl

private theorem nested?_of_pointee? (found : shape.pointee? = .ok target) :
    target.nested? = shape.reference? := by
  cases shape <;> cases found <;> rfl

end Targets

theorem exists_classify_iff {shape : Shape} :
    (∃ known, shape.classify = .ok known) ↔ shape.Supported := by
  constructor
  · rintro ⟨known, found⟩
    cases shape with
    | scalar type => exact .plain (.scalar type)
    | struct id => exact .plain (.struct id)
    | pointer inner =>
        obtain ⟨target, isTarget, _⟩ := Results.map_eq_ok.mp found
        exact .pointer (exists_pointee?_iff.mp ⟨target, isTarget⟩)
    | list element =>
        obtain ⟨target, isTarget, _⟩ := Results.map_eq_ok.mp found
        exact .list (exists_element?_iff.mp ⟨target, isTarget⟩)
    | map element =>
        obtain ⟨target, isTarget, _⟩ := Results.map_eq_ok.mp found
        exact .map (exists_element?_iff.mp ⟨target, isTarget⟩)
  · intro supported
    cases supported with
    | plain isTarget =>
        cases isTarget with
        | scalar type => exact ⟨_, rfl⟩
        | struct id => exact ⟨_, rfl⟩
    | pointer isTarget =>
        obtain ⟨target, found⟩ := exists_pointee?_iff.mpr isTarget
        exact ⟨_, Results.map_eq_ok.mpr ⟨target, found, rfl⟩⟩
    | list isTarget =>
        obtain ⟨target, found⟩ := exists_element?_iff.mpr isTarget
        exact ⟨_, Results.map_eq_ok.mpr ⟨target, found, rfl⟩⟩
    | map isTarget =>
        obtain ⟨target, found⟩ := exists_element?_iff.mpr isTarget
        exact ⟨_, Results.map_eq_ok.mpr ⟨target, found, rfl⟩⟩

/-- A known shape nests what it refers to. -/
theorem nested?_of_classify
    {shape : Shape}
    {known : FieldShape TypeId}
    (found : shape.classify = .ok known) :
    known.nested? = shape.reference? := by
  cases shape with
  | scalar type => cases found; rfl
  | struct id => cases found; rfl
  | pointer inner =>
      obtain ⟨target, isTarget, rfl⟩ := Results.map_eq_ok.mp found
      have nested : target.nested? = inner.reference? := nested?_of_pointee? isTarget
      exact nested
  | list element =>
      obtain ⟨target, isTarget, rfl⟩ := Results.map_eq_ok.mp found
      have nested : target.nested? = element.reference? := nested?_of_element? isTarget
      exact nested
  | map element =>
      obtain ⟨target, isTarget, rfl⟩ := Results.map_eq_ok.mp found
      have nested : target.nested? = element.reference? := nested?_of_element? isTarget
      exact nested

end Shape

/-! ## Fields that a table leaves in -/

namespace DirectiveTable

/-- The fields that a table does not exclude. -/
def included (table : DirectiveTable) (fields : List FieldDef) : List FieldDef :=
  fields.filter fun field => !table.excludes field.name

/-- What is asked of the fields that a table leaves in. -/
structure Fits (table : DirectiveTable) (fields : List FieldDef) : Prop where
  valid : ∀ field ∈ fields, Name.isExternal (table.externalName field) = true
  distinct : (fields.map table.externalName).Nodup
  supported : ∀ field ∈ fields, field.shape.Supported

variable {table : DirectiveTable} {field : FieldDef} {rest : List FieldDef}

theorem included_of_excluded (excluded : table.excludes field.name = true) :
    table.included (field :: rest) = table.included rest := by
  simp [included, excluded]

theorem included_of_left_in (leftIn : table.excludes field.name = false) :
    table.included (field :: rest) = field :: table.included rest := by
  simp [included, leftIn]

private theorem fits_nil : table.Fits [] :=
  ⟨by simp, by simp, by simp⟩

private theorem fits_cons :
    table.Fits (field :: rest) ↔
      Name.isExternal (table.externalName field) = true ∧ field.shape.Supported ∧
        (∀ other ∈ rest, table.externalName other ≠ table.externalName field) ∧
        table.Fits rest := by
  constructor
  · rintro ⟨valid, distinct, supported⟩
    rw [List.forall_mem_cons] at valid supported
    rw [List.map_cons, List.nodup_cons] at distinct
    refine ⟨valid.1, supported.1, fun other member same => distinct.1 ?_, valid.2, distinct.2,
      supported.2⟩
    exact same ▸ List.mem_map_of_mem member
  · rintro ⟨valid, supported, apart, fits⟩
    refine ⟨List.forall_mem_cons.mpr ⟨valid, fits.valid⟩, List.nodup_cons.mpr ⟨?_, fits.distinct⟩,
      List.forall_mem_cons.mpr ⟨supported, fits.supported⟩⟩
    intro inside
    obtain ⟨other, member, same⟩ := List.mem_map.mp inside
    exact apart other member same

end DirectiveTable

/-! ## Outlines without a fault -/

namespace Outline

variable {id : TypeId} {table : DirectiveTable} {taken : List (String × String)}

/-- A list of fields has no fault exactly when those left in fit and none of them has a name
that is taken. -/
theorem fault?_eq_none_iff (fields : List FieldDef) :
    (ofFields id table taken fields).fault? = none ↔
      table.Fits (table.included fields) ∧
        ∀ field ∈ table.included fields, taken.lookup (table.externalName field) = none := by
  induction fields generalizing taken with
  | nil => simp [ofFields, DirectiveTable.included, DirectiveTable.fits_nil]
  | cons field rest inductionHypothesis =>
      cases leftIn : table.excludes field.name with
      | true =>
          rw [ofFields_of_excluded leftIn, DirectiveTable.included_of_excluded leftIn]
          exact inductionHypothesis
      | false =>
          rw [DirectiveTable.included_of_left_in leftIn, DirectiveTable.fits_cons,
            List.forall_mem_cons]
          cases made : field? id table taken field with
          | error error =>
              rw [ofFields_of_fault leftIn made]
              refine iff_of_false (by simp) ?_
              rintro ⟨⟨valid, supported, _⟩, isNew, _⟩
              obtain ⟨shape, classified⟩ := Shape.exists_classify_iff.mpr supported
              have isField : ∃ node, field? id table taken field = .ok node :=
                ⟨_, field?_eq_ok_iff.mpr ⟨valid, isNew, shape, classified, rfl⟩⟩
              simp [made] at isField
          | ok node =>
              rw [ofFields_of_field leftIn made]
              obtain ⟨valid, isNew, shape, classified, rfl⟩ := field?_eq_ok_iff.mp made
              have supported := Shape.exists_classify_iff.mp ⟨shape, classified⟩
              refine inductionHypothesis.trans ?_
              simp only [lookup_taken_eq_none, valid, isNew, supported, true_and]
              constructor
              · rintro ⟨fits, later⟩
                exact ⟨⟨fun other member => (later other member).1, fits⟩,
                  fun other member => (later other member).2⟩
              · rintro ⟨⟨apart, fits⟩, later⟩
                exact ⟨fits, fun other member => ⟨apart other member, later other member⟩⟩

/-- Field by field the outline nests what the fields left in refer to, up to its fault. -/
theorem exists_references_eq (fields : List FieldDef) :
    ∃ unread,
      (table.included fields).map (fun field => field.shape.reference?) =
        (ofFields id table taken fields).fields.map (fun field => field.shape.nested?) ++ unread ∧
      ((ofFields id table taken fields).fault? = none → unread = []) := by
  induction fields generalizing taken with
  | nil => exact ⟨[], rfl, fun _ => rfl⟩
  | cons field rest inductionHypothesis =>
      cases leftIn : table.excludes field.name with
      | true =>
          rw [ofFields_of_excluded leftIn, DirectiveTable.included_of_excluded leftIn]
          exact inductionHypothesis
      | false =>
          cases made : field? id table taken field with
          | error error =>
              rw [ofFields_of_fault leftIn made]
              exact ⟨_, rfl, fun impossible => by cases impossible⟩
          | ok node =>
              rw [ofFields_of_field leftIn made, DirectiveTable.included_of_left_in leftIn]
              obtain ⟨_, _, shape, classified, rfl⟩ := field?_eq_ok_iff.mp made
              obtain ⟨unread, same, allRead⟩ := @inductionHypothesis
                ((table.externalName field, field.name) :: taken)
              refine ⟨unread, ?_, allRead⟩
              rw [List.map_cons, List.map_cons, List.cons_append, same]
              exact congrArg (List.cons · _) (Shape.nested?_of_classify classified).symm

end Outline

/-! ## References between types -/

/-- The fields of a type that its directives leave in, when the manifest defines the type. -/
def Manifest.included? (manifest : Manifest) (registry : Registry) (type : TypeId) :
    Option (List FieldDef) :=
  (manifest.get? type).map fun definition => (registry.table type).included definition.fields

/-- A field of one type that is not excluded refers to another type. -/
def Refers (manifest : Manifest) (registry : Registry) (outer inner : TypeId) : Prop :=
  ∃ fields, manifest.included? registry outer = some fields ∧
    ∃ field ∈ fields, field.shape.reference? = some inner

section Manifests

variable {manifest : Manifest} {registry : Registry} {type : TypeId} {definition : TypeDef}

theorem Manifest.included?_of_get? (found : manifest.get? type = some definition) :
    manifest.included? registry type =
      some ((registry.table type).included definition.fields) := by
  rw [included?, found]
  rfl

theorem Manifest.outline_of_get? (found : manifest.get? type = some definition) :
    definition.outline registry =
      Outline.ofFields type (registry.table type) [] definition.fields := by
  have named : definition.id = type := Manifest.id_of_get? found
  rw [TypeDef.outline, Outline.ofType, named]

/-- A type has no fault by itself exactly when the fields left in fit. -/
theorem Manifest.faultless_iff (found : manifest.get? type = some definition) :
    (definition.outline registry).fault? = none ↔
      (registry.table type).Fits ((registry.table type).included definition.fields) := by
  rw [Manifest.outline_of_get? found, Outline.fault?_eq_none_iff]
  simp

/-- What a type nests it refers to. -/
theorem Nests.refers {inner : TypeId} (nests : Nests manifest registry type inner) :
    Refers manifest registry type inner := by
  obtain ⟨definition, found, nested⟩ := nests
  obtain ⟨unread, same, _⟩ := @Outline.exists_references_eq type (registry.table type) []
    definition.fields
  refine ⟨_, Manifest.included?_of_get? found, ?_⟩
  rw [Manifest.outline_of_get? found, ← List.mem_map] at nested
  rw [← List.mem_map, same]
  exact List.mem_append_left unread nested

/-- What a type without a fault refers to it nests. -/
theorem Refers.nests
    (found : manifest.get? type = some definition)
    (faultless : (definition.outline registry).fault? = none)
    {inner : TypeId}
    (refers : Refers manifest registry type inner) :
    Nests manifest registry type inner := by
  obtain ⟨fields, isIncluded, isReference⟩ := refers
  rw [Manifest.included?_of_get? found, Option.some.injEq] at isIncluded
  subst isIncluded
  obtain ⟨unread, same, allRead⟩ := @Outline.exists_references_eq type (registry.table type) []
    definition.fields
  refine ⟨definition, found, ?_⟩
  rw [Manifest.outline_of_get? found] at faultless ⊢
  rw [← List.mem_map, same, allRead faultless, List.append_nil] at isReference
  exact List.mem_map.mp isReference

end Manifests

end BlockSchema
