import BlockSchema.Proofs.Graph.Reference
import BlockSchema.Proofs.Manifest.Loading

/-!
Contract: what the check of a manifest's references finds.

A reference counts at any depth of a shape, whether or not a field can have the shape and
whatever directives say of the field. The check fails for the first field that names a type
without a definition. In a manifest that passes it, references lead to defined types only.
-/

set_option autoImplicit false

namespace BlockSchema

/-- A type stands somewhere in a shape. -/
inductive Shape.Mentions (id : TypeId) : Shape → Prop where
  | struct : Mentions id (.struct id)
  | pointer {inner : Shape} (inside : Mentions id inner) : Mentions id (.pointer inner)
  | list {element : Shape} (inside : Mentions id element) : Mentions id (.list element)
  | map {element : Shape} (inside : Mentions id element) : Mentions id (.map element)

private theorem Shape.mentions_iff {shape : Shape} {id : TypeId} :
    shape.Mentions id ↔ shape.reference? = some id := by
  constructor
  · intro mentioned
    induction mentioned with
    | struct => rfl
    | pointer _ inductionHypothesis => exact inductionHypothesis
    | list _ inductionHypothesis => exact inductionHypothesis
    | map _ inductionHypothesis => exact inductionHypothesis
  · intro isReference
    induction shape with
    | scalar type => cases isReference
    | struct other => exact Option.some.inj isReference ▸ .struct
    | pointer inner inductionHypothesis => exact .pointer (inductionHypothesis isReference)
    | list element inductionHypothesis => exact .list (inductionHypothesis isReference)
    | map element inductionHypothesis => exact .map (inductionHypothesis isReference)

namespace Manifest

variable {manifest : Manifest}

/-! ## The check -/

/-- Every type that a shape mentions is defined. -/
def Answers (manifest : Manifest) (shape : Shape) : Prop :=
  ∀ id, shape.Mentions id → ∃ definition, manifest.get? id = some definition

/-- A field mentions a type that is not defined, and the error says so at the field. -/
def LeavesOpen (manifest : Manifest) (owner : TypeId) (field : FieldDef) (error : CompileError) :
    Prop :=
  ∃ missing, field.shape.Mentions missing ∧ manifest.get? missing = none ∧
    error = .unsupportedShape (.field owner field.name) (.danglingReference missing)

/-- The error of the first field that mentions a type that is not defined, in the order of the
types and of their fields. -/
def FirstOpen (manifest : Manifest) : CompileError → Prop :=
  Results.FirstRejected
    (fun definition => ∀ field ∈ definition.fields, manifest.Answers field.shape)
    (fun definition =>
      Results.FirstRejected (fun field => manifest.Answers field.shape)
        (manifest.LeavesOpen definition.id) definition.fields)
    manifest.types

private theorem get?_eq_none
    {id : TypeId} :
    manifest.get? id = none ↔ manifest.defines id = false := by
  rw [← Bool.not_eq_true, defines_iff, List.mem_map, get?, List.find?_eq_none]
  simp

theorem dangling?_eq_none {owner : TypeId} {field : FieldDef} :
    manifest.dangling? owner field = none ↔ manifest.Answers field.shape := by
  simp only [dangling?, Answers, Shape.mentions_iff, ← Option.ne_none_iff_exists', ne_eq,
    get?_eq_none]
  cases field.shape.reference? with
  | none => simp
  | some id => cases isDefined : manifest.defines id <;> simp [isDefined]

/-- A dangling reference as an error. -/
def Dangling.error (dangling : Dangling) : CompileError :=
  .unsupportedShape (.field dangling.owner dangling.field) (.danglingReference dangling.missing)

private theorem map_dangling?_eq_some {owner : TypeId} {field : FieldDef} {error : CompileError} :
    (manifest.dangling? owner field).map Dangling.error = some error ↔
      manifest.LeavesOpen owner field error := by
  simp only [dangling?, LeavesOpen, Shape.mentions_iff, get?_eq_none]
  cases field.shape.reference? with
  | none => simp
  | some id =>
      cases isDefined : manifest.defines id <;> simp [isDefined, Dangling.error, @eq_comm _ error]

private theorem checkReferences_eq_ok :
    manifest.checkReferences = .ok () ↔
      ∀ definition ∈ manifest.types, ∀ field ∈ definition.fields,
        manifest.Answers field.shape := by
  have nothing : manifest.checkReferences = .ok () ↔ manifest.firstDangling? = none := by
    rw [checkReferences]
    cases manifest.firstDangling? <;> simp
  simp only [nothing, firstDangling?, List.findSome?_eq_none_iff, dangling?_eq_none]

/-- The check fails for the first field that mentions a type that is not defined. -/
theorem checkReferences_eq_error {error : CompileError} :
    manifest.checkReferences = .error error ↔ manifest.FirstOpen error := by
  have inFields : ∀ definition : TypeDef,
      (definition.fields.findSome? (manifest.dangling? definition.id)).map Dangling.error =
        definition.fields.findSome? fun field =>
          (manifest.dangling? definition.id field).map Dangling.error :=
    fun _ => List.map_findSome?
  have inTypes : manifest.firstDangling?.map Dangling.error =
      manifest.types.findSome? fun definition =>
        (definition.fields.findSome? (manifest.dangling? definition.id)).map Dangling.error :=
    List.map_findSome?
  have found : manifest.checkReferences = .error error ↔
      manifest.firstDangling?.map Dangling.error = some error := by
    rw [checkReferences]
    cases manifest.firstDangling? <;> simp [Dangling.error]
  simp only [found, inTypes, inFields]
  rw [Results.findSome?_eq_some, FirstOpen]
  refine Results.firstRejected_congr (fun definition => ?_) fun definition => ?_
  · simp only [List.findSome?_eq_none_iff, Option.map_eq_none_iff, dangling?_eq_none]
  · rw [Results.findSome?_eq_some]
    exact Results.firstRejected_congr
      (fun field => Option.map_eq_none_iff.trans dangling?_eq_none)
      (fun field => map_dangling?_eq_some)

/-- The check fails exactly when some field, whatever its shape, mentions a type that is not
defined. -/
theorem checkReferences_fails_iff :
    (∃ error, manifest.checkReferences = .error error) ↔
      ∃ definition ∈ manifest.types, ∃ field ∈ definition.fields, ∃ id,
        field.shape.Mentions id ∧ manifest.get? id = none := by
  have fails : (∃ error, manifest.checkReferences = .error error) ↔
      ¬ manifest.checkReferences = .ok () := by
    cases manifest.checkReferences <;> simp
  rw [fails, checkReferences_eq_ok]
  simp only [Answers, not_forall, exists_prop, ← Option.ne_none_iff_exists', ne_eq, not_not]

/-! ## Manifests that pass -/

variable {registry : Registry}

/-- References lead from any type to defined types. -/
theorem get?_of_refers
    (checked : manifest.checkReferences = .ok ())
    {outer inner : TypeId}
    (refers : Refers manifest registry outer inner) :
    ∃ definition, manifest.get? inner = some definition := by
  obtain ⟨fields, isIncluded, field, member, isReference⟩ := refers
  obtain ⟨definition, found, rfl⟩ := Option.map_eq_some_iff.mp isIncluded
  have declared : field ∈ definition.fields := (List.mem_filter.mp member).1
  exact checkReferences_eq_ok.mp checked definition (mem_of_get? found) field declared inner
    (Shape.mentions_iff.mpr isReference)

/-- Whatever a defined type reaches is defined. -/
theorem get?_of_reaches
    (checked : manifest.checkReferences = .ok ())
    {start type : TypeId}
    (isDefined : ∃ definition, manifest.get? start = some definition)
    (path : Relation.ReflTransGen (Refers manifest registry) start type) :
    ∃ definition, manifest.get? type = some definition := by
  cases path with
  | refl => exact isDefined
  | tail _ refers => exact get?_of_refers checked refers

end Manifest

end BlockSchema
