import BlockSchema.Proofs.Graph.Rebuild

/-!
Contract: the names of a node's fields.

A manifest declares each field of a type once, and an outline refuses an external name
that an earlier field has. So within a built node no two fields share a declared or an
external name.
-/

set_option autoImplicit false

namespace BlockSchema

/-- The external name of a field: the name that the table gives it, else its own one, in
snake case. -/
def DirectiveTable.externalName (table : DirectiveTable) (field : FieldDef) : String :=
  Outline.externalName (table.effectsOn field.name) field

namespace Outline

variable {id : TypeId} {table : DirectiveTable} {taken : List (String × String)}

/-! ## Opening outlines -/

theorem field?_eq_ok_iff {field : FieldDef} {node : FieldNode TypeId} :
    field? id table taken field = .ok node ↔
      Name.isExternal (table.externalName field) = true ∧
        taken.lookup (table.externalName field) = none ∧
        ∃ shape, field.shape.classify = .ok shape ∧
          ⟨field.name, table.externalName field, shape, table.effectsOn field.name,
            fieldVersion table (table.effectsOn field.name) field, field.description⟩ = node := by
  simp only [field?, DirectiveTable.externalName]
  cases valid : Name.isExternal (externalName (table.effectsOn field.name) field) with
  | false => simp
  | true =>
      cases first : taken.lookup (externalName (table.effectsOn field.name) field) with
      | some other => simp
      | none =>
          cases field.shape.classify with
          | error fault => simp
          | ok shape => simp

section Fields

variable {field : FieldDef} {rest : List FieldDef}

theorem ofFields_of_excluded (excluded : table.excludes field.name = true) :
    ofFields id table taken (field :: rest) = ofFields id table taken rest := by
  rw [ofFields, if_pos excluded]

theorem ofFields_of_fault
    (leftIn : table.excludes field.name = false)
    {error : CompileError}
    (faulty : field? id table taken field = .error error) :
    ofFields id table taken (field :: rest) = ⟨[], some error⟩ := by
  rw [ofFields, if_neg (by simp [leftIn]), faulty]

theorem ofFields_of_field
    (leftIn : table.excludes field.name = false)
    {node : FieldNode TypeId}
    (made : field? id table taken field = .ok node) :
    ofFields id table taken (field :: rest) =
      ⟨node :: (ofFields id table ((node.external, field.name) :: taken) rest).fields,
        (ofFields id table ((node.external, field.name) :: taken) rest).fault?⟩ := by
  rw [ofFields, if_neg (by simp [leftIn]), made]

end Fields

/-! ## Names in outlines -/

/-- Without a fault the outline makes a field of every declaration that is not excluded, in
order. -/
theorem made_of_faultless
    (fields : List FieldDef)
    (taken : List (String × String))
    (faultless : (ofFields id table taken fields).fault? = none) :
    List.Forall₂
      (fun declaration node => ∃ taken, field? id table taken declaration = .ok node)
      (fields.filter fun declaration => !table.excludes declaration.name)
      (ofFields id table taken fields).fields := by
  induction fields generalizing taken with
  | nil => exact .nil
  | cons field rest inductionHypothesis =>
      cases leftIn : table.excludes field.name with
      | true =>
          rw [ofFields_of_excluded leftIn] at faultless ⊢
          rw [List.filter_cons_of_neg (by simp [leftIn])]
          exact inductionHypothesis taken faultless
      | false =>
          rw [List.filter_cons_of_pos (by simp [leftIn])]
          cases made : field? id table taken field with
          | error error =>
              rw [ofFields_of_fault leftIn made] at faultless
              cases faultless
          | ok node =>
              rw [ofFields_of_field leftIn made] at faultless ⊢
              exact .cons ⟨taken, made⟩ (inductionHypothesis _ faultless)

/-- Without a fault the outline has every field that is not excluded, in order. -/
theorem declared_eq
    (fields : List FieldDef)
    (taken : List (String × String))
    (faultless : (ofFields id table taken fields).fault? = none) :
    (ofFields id table taken fields).fields.map FieldNode.declared =
      (fields.map FieldDef.name).filter fun name => !table.excludes name := by
  rw [List.filter_map, ← List.forall₂_eq_eq_eq, List.forall₂_map_left_iff,
    List.forall₂_map_right_iff]
  refine (made_of_faultless fields taken faultless).flip.imp fun node declaration isMade => ?_
  obtain ⟨_, isMade⟩ := isMade
  obtain ⟨_, _, _, _, rfl⟩ := field?_eq_ok_iff.mp isMade
  rfl

theorem lookup_taken_eq_none {external name other : String} :
    List.lookup other ((external, name) :: taken) = none ↔
      other ≠ external ∧ taken.lookup other = none := by
  by_cases same : other = external
  · simp [same]
  · simp [List.lookup_cons, same, beq_eq_false_iff_ne.mpr same]

/-- External names are new to those taken before and to each other. -/
theorem external_distinct (fields : List FieldDef) (taken : List (String × String)) :
    (∀ node ∈ (ofFields id table taken fields).fields, taken.lookup node.external = none) ∧
    ((ofFields id table taken fields).fields.map FieldNode.external).Nodup := by
  induction fields generalizing taken with
  | nil => exact ⟨fun node member => (by cases member), .nil⟩
  | cons field rest inductionHypothesis =>
      cases leftIn : table.excludes field.name with
      | true =>
          rw [ofFields_of_excluded leftIn]
          exact inductionHypothesis taken
      | false =>
          cases made : field? id table taken field with
          | error error =>
              rw [ofFields_of_fault leftIn made]
              exact ⟨fun node member => (by cases member), .nil⟩
          | ok node =>
              rw [ofFields_of_field leftIn made]
              obtain ⟨newToLater, distinct⟩ :=
                inductionHypothesis ((node.external, field.name) :: taken)
              simp only [lookup_taken_eq_none] at newToLater
              refine ⟨List.forall_mem_cons.mpr ⟨?_, fun other member => ?_⟩,
                List.nodup_cons.mpr ⟨fun inside => ?_, distinct⟩⟩
              · obtain ⟨_, isNew, _, _, rfl⟩ := field?_eq_ok_iff.mp made
                exact isNew
              · exact (newToLater other member).2
              · obtain ⟨other, member, same⟩ := List.mem_map.mp inside
                exact (newToLater other member).1 same

end Outline

/-- What a table makes of a declared field. -/
structure FieldNode.MadeOf
    (table : DirectiveTable)
    (declaration : FieldDef)
    (field : FieldNode TypeNode) :
    Prop where
  declared : field.declared = declaration.name
  external : field.external = table.externalName declaration
  shape : declaration.shape.classify = .ok (field.shape.map TypeNode.id)
  effects : field.effects = table.effectsOn declaration.name
  version : field.version =
    Outline.fieldVersion table (table.effectsOn declaration.name) declaration
  description : field.description = declaration.description

namespace TypeNode.Matches

variable {manifest : Manifest} {registry : Registry} {node : TypeNode}

/-- The fields of a node and its excluded names are the declared fields that its table
leaves in and those that it excludes. -/
theorem declared_eq (matching : node.Matches manifest registry) :
    ∃ definition, manifest.get? node.id = some definition ∧
      node.fields.map FieldNode.declared =
        definition.fieldNames.filter (fun name => !(registry.table node.id).excludes name) ∧
      node.excluded = definition.fieldNames.filter (registry.table node.id).excludes := by
  obtain ⟨definition, found, outlined, isNode⟩ := matching
  have named : definition.id = node.id := Manifest.id_of_get? found
  refine ⟨definition, found, ?_, ?_⟩
  · have faultless : (definition.outline registry).fault? = none := by rw [outlined]
    have declared := Outline.declared_eq definition.fields [] faultless
    change (definition.outline registry).fields.map FieldNode.declared = _ at declared
    rw [outlined, List.map_map] at declared
    rw [← named]
    exact declared
  · rw [isNode]
    rfl

/-- The fields of a node are made of the declared fields that its table leaves in, in their
order. -/
theorem made (matching : node.Matches manifest registry) :
    ∃ definition, manifest.get? node.id = some definition ∧
      List.Forall₂ (FieldNode.MadeOf (registry.table node.id))
        (definition.fields.filter fun declaration =>
          !(registry.table node.id).excludes declaration.name)
        node.fields := by
  obtain ⟨definition, found, outlined, _⟩ := matching
  have named : definition.id = node.id := Manifest.id_of_get? found
  have faultless : (definition.outline registry).fault? = none := by rw [outlined]
  have made := Outline.made_of_faultless definition.fields [] faultless
  change List.Forall₂ _ _ (definition.outline registry).fields at made
  rw [outlined, named, List.forall₂_map_right_iff] at made
  refine ⟨definition, found, made.imp fun declaration field isMade => ?_⟩
  obtain ⟨_, isMade⟩ := isMade
  obtain ⟨_, _, shape, classified, same⟩ := Outline.field?_eq_ok_iff.mp isMade
  obtain ⟨declared, external, isShape, effects, version, description⟩ :=
    FieldNode.mk.inj same
  exact
    { declared := declared.symm
      external := external.symm
      shape := isShape ▸ classified
      effects := effects.symm
      version := version.symm
      description := description.symm }

theorem declared_nodup (matching : node.Matches manifest registry) :
    (node.fields.map FieldNode.declared).Nodup := by
  obtain ⟨definition, found, declared, _⟩ := matching.declared_eq
  rw [declared]
  exact (manifest.fieldsDistinct definition (Manifest.mem_of_get? found)).filter _

/-- What is not excluded by name has a field. -/
theorem declared_eq_filter (matching : node.Matches manifest registry) :
    ∃ definition, manifest.get? node.id = some definition ∧
      node.fields.map FieldNode.declared =
        definition.fieldNames.filter fun name => !node.excluded.contains name := by
  obtain ⟨definition, found, declared, excluded⟩ := matching.declared_eq
  refine ⟨definition, found, declared.trans (List.filter_congr fun name member => ?_)⟩
  rw [excluded]
  simp [List.mem_filter, member]

theorem external_nodup (matching : node.Matches manifest registry) :
    (node.fields.map FieldNode.external).Nodup := by
  obtain ⟨definition, _, outlined, _⟩ := matching
  have distinct :=
    (@Outline.external_distinct definition.id (registry.table definition.id)
      definition.fields []).2
  change ((definition.outline registry).fields.map FieldNode.external).Nodup at distinct
  rw [outlined, List.map_map] at distinct
  exact distinct

/-- The external names of a node are valid ones. -/
theorem isExternal
    (matching : node.Matches manifest registry)
    {field : FieldNode TypeNode}
    (member : field ∈ node.fields) :
    Name.isExternal field.external = true := by
  obtain ⟨definition, _, outlined, _⟩ := matching
  have faultless : (definition.outline registry).fault? = none := by rw [outlined]
  have made := Outline.made_of_faultless definition.fields [] faultless
  change List.Forall₂ _ _ (definition.outline registry).fields at made
  rw [outlined, List.forall₂_map_right_iff] at made
  obtain ⟨declaration, _, taken, isMade⟩ := Results.exists_of_mem_right made member
  obtain ⟨valid, _, shape, _, same⟩ := Outline.field?_eq_ok_iff.mp isMade
  rwa [(FieldNode.mk.inj same).2.1] at valid

end TypeNode.Matches

end BlockSchema
