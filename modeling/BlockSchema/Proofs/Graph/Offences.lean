import BlockSchema.Proofs.Graph.Reference

/-!
Contract: which field of a type stops its building, and for what.

The fields that the directives leave in are asked one after another: for a valid name, for a
name that no earlier field has, for a known shape, and for what they nest. The first field
that fails in one of these stops the building, and it fails in the first of them that it can.
-/

set_option autoImplicit false

namespace BlockSchema

/-! ## Offending fields -/

/-- Why a field stops the building of its type. The fields that are left in before it are
`earlier`, and `nested` is what building a type that it refers to gives. -/
inductive FieldDef.Offends
    (owner : TypeId)
    (table : DirectiveTable)
    (nested : TypeId → Except CompileError TypeNode)
    (earlier : List FieldDef)
    (field : FieldDef) :
    CompileError → Prop where
  | invalidName
      (invalid : Name.isExternal (table.externalName field) = false) :
      Offends owner table nested earlier field
        (.configuration owner (.invalidExternalName (table.externalName field) field.name))
  | duplicateName {first : FieldDef}
      (valid : Name.isExternal (table.externalName field) = true)
      (member : first ∈ earlier)
      (same : table.externalName first = table.externalName field) :
      Offends owner table nested earlier field
        (.configuration owner
          (.duplicateExternalName (table.externalName field) first.name field.name))
  | shape {fault : ShapeFault}
      (valid : Name.isExternal (table.externalName field) = true)
      (isNew : table.externalName field ∉ earlier.map table.externalName)
      (refused : field.shape.classify = .error fault) :
      Offends owner table nested earlier field
        (.unsupportedShape (.field owner field.name) fault)
  | nested {inner : TypeId} {error : CompileError}
      (valid : Name.isExternal (table.externalName field) = true)
      (isNew : table.externalName field ∉ earlier.map table.externalName)
      (supported : field.shape.Supported)
      (refers : field.shape.reference? = some inner)
      (fails : nested inner = .error error) :
      Offends owner table nested earlier field error

/-- The first field of a list that offends does so for an error; `earlier` are the fields
before the list. -/
inductive FirstOffends
    (owner : TypeId)
    (table : DirectiveTable)
    (nested : TypeId → Except CompileError TypeNode) :
    List FieldDef → List FieldDef → CompileError → Prop where
  | here {earlier rest : List FieldDef} {field : FieldDef} {error : CompileError}
      (offends : field.Offends owner table nested earlier error) :
      FirstOffends owner table nested earlier (field :: rest) error
  | later {earlier rest : List FieldDef} {field : FieldDef} {error : CompileError}
      (clean : ∀ reason, ¬ field.Offends owner table nested earlier reason)
      (offends : FirstOffends owner table nested (earlier ++ [field]) rest error) :
      FirstOffends owner table nested earlier (field :: rest) error

section Fields

variable
  {owner : TypeId}
  {table : DirectiveTable}
  {nested : TypeId → Except CompileError TypeNode}
  {earlier rest : List FieldDef}
  {field : FieldDef}
  {error : CompileError}

private theorem firstOffends_nil : ¬ FirstOffends owner table nested earlier [] error := by
  intro impossible
  cases impossible

private theorem firstOffends_cons :
    FirstOffends owner table nested earlier (field :: rest) error ↔
      field.Offends owner table nested earlier error ∨
        (∀ reason, ¬ field.Offends owner table nested earlier reason) ∧
          FirstOffends owner table nested (earlier ++ [field]) rest error := by
  constructor
  · intro first
    cases first with
    | here offends => exact .inl offends
    | later clean offends => exact .inr ⟨clean, offends⟩
  · rintro (offends | ⟨clean, offends⟩)
    · exact .here offends
    · exact .later clean offends

/-! ## Names that are taken -/

/-- The external names of fields with their declared names, the latest field first. -/
def DirectiveTable.taken (table : DirectiveTable) (earlier : List FieldDef) :
    List (String × String) :=
  (earlier.map fun field => (table.externalName field, field.name)).reverse

private theorem DirectiveTable.taken_concat :
    table.taken (earlier ++ [field]) =
      (table.externalName field, field.name) :: table.taken earlier := by
  simp [taken]

private theorem DirectiveTable.lookup_taken_eq_none {name : String} :
    (table.taken earlier).lookup name = none ↔ name ∉ earlier.map table.externalName := by
  rw [List.lookup_eq_none_iff]
  simp only [taken, List.mem_reverse, List.mem_map]
  constructor
  · rintro absent ⟨other, member, rfl⟩
    simpa using absent _ ⟨other, member, rfl⟩
  · rintro absent _ ⟨other, member, rfl⟩
    have apart : name ≠ table.externalName other := fun same => absent ⟨other, member, same.symm⟩
    simpa using apart

/-- A name that no two fields share is found for the one that has it. -/
theorem DirectiveTable.lookup_taken_eq_some_iff
    (distinct : (earlier.map table.externalName).Nodup)
    {name declared : String} :
    (table.taken earlier).lookup name = some declared ↔
      ∃ first ∈ earlier, table.externalName first = name ∧ first.name = declared := by
  have exists_of_lookup : ∀ {declared},
      (table.taken earlier).lookup name = some declared →
        ∃ first ∈ earlier, table.externalName first = name ∧ first.name = declared := by
    intro declared found
    obtain ⟨front, back, place, _⟩ := List.lookup_eq_some_iff.mp found
    have member : (name, declared) ∈ table.taken earlier := by simp [place]
    simp only [taken, List.mem_reverse, List.mem_map, Prod.mk.injEq] at member
    exact member
  refine ⟨exists_of_lookup, ?_⟩
  rintro ⟨first, member, rfl, rfl⟩
  cases found : (table.taken earlier).lookup (table.externalName first) with
  | none => exact absurd (List.mem_map_of_mem member) (lookup_taken_eq_none.mp found)
  | some declared =>
      obtain ⟨other, memberOther, same, rfl⟩ := exists_of_lookup found
      rw [List.inj_on_of_nodup_map distinct memberOther member same]

/-! ## One field -/

private theorem Outline.field?_of_invalid
    {taken : List (String × String)}
    (invalid : Name.isExternal (table.externalName field) = false) :
    field? owner table taken field =
      .error (.configuration owner
        (.invalidExternalName (table.externalName field) field.name)) := by
  unfold DirectiveTable.externalName at invalid ⊢
  simp [field?, invalid]

private theorem Outline.field?_of_taken
    {taken : List (String × String)}
    {first : String}
    (valid : Name.isExternal (table.externalName field) = true)
    (found : taken.lookup (table.externalName field) = some first) :
    field? owner table taken field =
      .error (.configuration owner
        (.duplicateExternalName (table.externalName field) first field.name)) := by
  unfold DirectiveTable.externalName at valid found ⊢
  simp [field?, valid, found]

private theorem Outline.field?_of_refused
    {taken : List (String × String)}
    {fault : ShapeFault}
    (valid : Name.isExternal (table.externalName field) = true)
    (isNew : taken.lookup (table.externalName field) = none)
    (refused : field.shape.classify = .error fault) :
    field? owner table taken field =
      .error (.unsupportedShape (.field owner field.name) fault) := by
  unfold DirectiveTable.externalName at valid isNew
  simp [field?, valid, isNew, refused]

/-- A field is built when the type that it nests is. -/
theorem FieldNode.rebuild_eq_error {node : FieldNode TypeId} :
    node.rebuild nested = .error error ↔
      ∃ inner, node.shape.nested? = some inner ∧ nested inner = .error error := by
  obtain ⟨declared, external, ⟨arity, target⟩, effects, version, description⟩ := node
  cases target with
  | scalar type =>
      refine iff_of_false (fun impossible => by cases impossible) ?_
      rintro ⟨inner, impossible, _⟩
      cases impossible
  | struct inner =>
      change ((nested inner).map _).map _ = _ ↔ ∃ other, some inner = some other ∧ _
      rw [Results.map_eq_error, Results.map_eq_error]
      simp

/-- A field without a fault of its own fails with what it nests. -/
theorem Outline.rebuild_field_of_classified
    {taken : List (String × String)}
    {known : FieldShape TypeId}
    (valid : Name.isExternal (table.externalName field) = true)
    (isNew : taken.lookup (table.externalName field) = none)
    (classified : field.shape.classify = .ok known) :
    (field? owner table taken field >>= FieldNode.rebuild nested) = .error error ↔
      ∃ inner, field.shape.reference? = some inner ∧ nested inner = .error error := by
  have made := (@field?_eq_ok_iff owner _ _ _ _).mpr ⟨valid, isNew, known, classified, rfl⟩
  rw [made, ← Shape.nested?_of_classify classified]
  exact FieldNode.rebuild_eq_error

private theorem FieldDef.Offends.fails
    (offends : field.Offends owner table nested earlier error)
    (distinct : (earlier.map table.externalName).Nodup) :
    (Outline.field? owner table (table.taken earlier) field >>= FieldNode.rebuild nested) =
      .error error := by
  cases offends with
  | invalidName invalid =>
      rw [Outline.field?_of_invalid invalid]
      rfl
  | duplicateName valid member same =>
      have isTaken := (table.lookup_taken_eq_some_iff distinct).mpr ⟨_, member, same, rfl⟩
      rw [Outline.field?_of_taken valid isTaken]
      rfl
  | shape valid isNew refused =>
      rw [Outline.field?_of_refused valid (table.lookup_taken_eq_none.mpr isNew) refused]
      rfl
  | nested valid isNew supported refers fails =>
      obtain ⟨known, classified⟩ := Shape.exists_classify_iff.mpr supported
      have isFree := table.lookup_taken_eq_none.mpr isNew
      exact (Outline.rebuild_field_of_classified valid isFree classified).mpr ⟨_, refers, fails⟩

/-- The checks of a field fail with the error for which it offends, and with no other one. -/
theorem FieldDef.offends_iff (distinct : (earlier.map table.externalName).Nodup) :
    (Outline.field? owner table (table.taken earlier) field >>= FieldNode.rebuild nested) =
        .error error ↔
      field.Offends owner table nested earlier error := by
  refine ⟨fun failed => ?_, fun offends => offends.fails distinct⟩
  cases valid : Name.isExternal (table.externalName field) with
  | false =>
      rw [Outline.field?_of_invalid valid] at failed
      obtain rfl := Except.error.inj failed
      exact .invalidName valid
  | true =>
      cases isTaken : (table.taken earlier).lookup (table.externalName field) with
      | some declared =>
          rw [Outline.field?_of_taken valid isTaken] at failed
          obtain rfl := Except.error.inj failed
          obtain ⟨first, member, same, rfl⟩ :=
            (table.lookup_taken_eq_some_iff distinct).mp isTaken
          exact .duplicateName valid member same
      | none =>
          have isNew := table.lookup_taken_eq_none.mp isTaken
          cases classified : field.shape.classify with
          | error fault =>
              rw [Outline.field?_of_refused valid isTaken classified] at failed
              obtain rfl := Except.error.inj failed
              exact .shape valid isNew classified
          | ok known =>
              have supported := Shape.exists_classify_iff.mp ⟨known, classified⟩
              obtain ⟨inner, refers, fails⟩ :=
                (Outline.rebuild_field_of_classified valid isTaken classified).mp failed
              exact .nested valid isNew supported refers fails

/-! ## All fields -/

/-- The fields of an outline with what they nest, unless something stops before. -/
def Outline.rebuild
    (nested : TypeId → Except CompileError TypeNode)
    (outline : Outline) :
    Except CompileError (List (FieldNode TypeNode)) := do
  let fields ← outline.fields.mapM (FieldNode.rebuild nested)
  match outline.fault? with
  | some error => .error error
  | none => .ok fields

/-- The first field that is left in comes before the rest. -/
theorem Outline.rebuild_cons
    {taken : List (String × String)}
    (leftIn : table.excludes field.name = false) :
    (ofFields owner table taken (field :: rest)).rebuild nested =
      (field? owner table taken field >>= FieldNode.rebuild nested) >>= fun node =>
        ((ofFields owner table ((table.externalName field, field.name) :: taken) rest).rebuild
          nested).map (node :: ·) := by
  cases made : field? owner table taken field with
  | error error =>
      rw [ofFields_of_fault leftIn made]
      rfl
  | ok node =>
      rw [ofFields_of_field leftIn made]
      have external : node.external = table.externalName field := by
        obtain ⟨_, _, _, _, rfl⟩ := field?_eq_ok_iff.mp made
        rfl
      rw [external]
      generalize ofFields owner table _ rest = later
      unfold rebuild
      rw [List.mapM_cons]
      change _ = (node.rebuild nested).bind _
      cases node.rebuild nested with
      | error error => rfl
      | ok found =>
          cases later.fields.mapM (FieldNode.rebuild nested) with
          | error error => rfl
          | ok others =>
              obtain ⟨fields, _ | fault⟩ := later
              · rfl
              · rfl

/-- The building of some fields fails exactly with the error of the first one that offends. -/
theorem Outline.rebuild_eq_error
    (fields : List FieldDef)
    (distinct : (earlier.map table.externalName).Nodup) :
    (ofFields owner table (table.taken earlier) fields).rebuild nested = .error error ↔
      FirstOffends owner table nested earlier (table.included fields) error := by
  induction fields generalizing earlier with
  | nil =>
      refine iff_of_false (fun impossible => by cases impossible) ?_
      exact firstOffends_nil
  | cons field rest inductionHypothesis =>
      cases leftIn : table.excludes field.name with
      | true =>
          rw [ofFields_of_excluded leftIn, DirectiveTable.included_of_excluded leftIn]
          exact inductionHypothesis distinct
      | false =>
          have own := fun reason =>
            @FieldDef.offends_iff owner table nested earlier field reason distinct
          rw [rebuild_cons leftIn, DirectiveTable.included_of_left_in leftIn, firstOffends_cons]
          simp only [← own]
          cases checked : field? owner table (table.taken earlier) field >>=
              FieldNode.rebuild nested with
          | error reason =>
              change Except.error reason = _ ↔ _
              simp
          | ok node =>
              -- The name of a field without a fault is new to those before it.
              obtain ⟨made, isMade, _⟩ := Results.bind_eq_ok.mp checked
              obtain ⟨_, isNew, _⟩ := field?_eq_ok_iff.mp isMade
              have distinctLater : ((earlier ++ [field]).map table.externalName).Nodup := by
                rw [List.map_append, List.map_singleton, List.nodup_append_comm,
                  List.singleton_append, List.nodup_cons]
                exact ⟨table.lookup_taken_eq_none.mp isNew, distinct⟩
              rw [← inductionHypothesis distinctLater, DirectiveTable.taken_concat]
              change Except.map _ _ = _ ↔ _
              rw [Results.map_eq_error]
              simp

/-- A type that is built fails exactly with the error of its first field that offends. -/
theorem TypeDef.rebuild_eq_error (definition : TypeDef) (registry : Registry) :
    definition.rebuild registry nested = .error error ↔
      FirstOffends definition.id (registry.table definition.id) nested []
        ((registry.table definition.id).included definition.fields) error := by
  have ofOutline : definition.rebuild registry nested =
      ((definition.outline registry).rebuild nested).map (definition.node registry) := by
    unfold TypeDef.rebuild Outline.rebuild
    cases (definition.outline registry).fields.mapM (FieldNode.rebuild nested) with
    | error error => rfl
    | ok fields => cases (definition.outline registry).fault? <;> rfl
  have nothing : (([] : List FieldDef).map
      (registry.table definition.id).externalName).Nodup := .nil
  rw [← Outline.rebuild_eq_error definition.fields nothing, ofOutline]
  exact Results.map_eq_error

end Fields

end BlockSchema
