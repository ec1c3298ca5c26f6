import BlockSchema.Proofs.Conversion.Derivation
import BlockSchema.Proofs.Graph.Names

/-!
Contract: walks under tables that differ in nothing that a conversion shows.

Of the effects on a field a conversion shows the name that it gives, whether it excludes the
field and whether the field is computed only. Under tables that agree on these, two walks go
the same way, meet the same faults, and build nodes one for one that have equal conversions.
-/

set_option autoImplicit false

namespace BlockSchema

/-! ## Tables -/

/-- A conversion shows no difference between effects on a field. -/
structure FieldEffects.ConvertAlike (left right : FieldEffects) : Prop where
  rename : left.rename = right.rename
  excluded : left.excluded = right.excluded
  computedOnly : left.computedOnly = right.computedOnly

instance {left right : FieldEffects} : Decidable (left.ConvertAlike right) :=
  decidable_of_iff
    (left.rename = right.rename ∧ left.excluded = right.excluded ∧
      left.computedOnly = right.computedOnly)
    ⟨fun ⟨rename, excluded, computedOnly⟩ => ⟨rename, excluded, computedOnly⟩,
      fun alike => ⟨alike.rename, alike.excluded, alike.computedOnly⟩⟩

theorem FieldEffects.ConvertAlike.refl (effects : FieldEffects) : effects.ConvertAlike effects :=
  ⟨rfl, rfl, rfl⟩

/-- A conversion shows no difference between the effects on some fields. -/
def DirectiveTable.ConvertAlike (left right : DirectiveTable) (fields : List FieldDef) : Prop :=
  ∀ field ∈ fields, (left.effectsOn field.name).ConvertAlike (right.effectsOn field.name)

instance {left right : DirectiveTable} {fields : List FieldDef} :
    Decidable (left.ConvertAlike right fields) :=
  inferInstanceAs (Decidable (∀ field ∈ fields, _))

/-- A conversion shows no difference between the effects on any field of a manifest. -/
def Registry.ConvertAlike (manifest : Manifest) (left right : Registry) : Prop :=
  ∀ definition ∈ manifest.types,
    (left.table definition.id).ConvertAlike (right.table definition.id) definition.fields

/-! ## Outlines -/

/-- Two fields by themselves are converted alike. -/
structure FieldNode.OutlinedAlike (left right : FieldNode TypeId) : Prop where
  declared : left.declared = right.declared
  external : left.external = right.external
  shape : left.shape = right.shape
  computedOnly : left.effects.computedOnly = right.effects.computedOnly

namespace Outline

variable {left right : DirectiveTable}

private theorem field?_agrees
    (id : TypeId)
    {field : FieldDef}
    (alike : (left.effectsOn field.name).ConvertAlike (right.effectsOn field.name))
    (taken : List (String × String)) :
    Results.Agree FieldNode.OutlinedAlike
      (field? id left taken field) (field? id right taken field) := by
  have sameName : externalName (left.effectsOn field.name) field =
      externalName (right.effectsOn field.name) field := by
    rw [externalName, externalName, alike.rename]
  simp only [field?, sameName]
  cases Name.isExternal (externalName (right.effectsOn field.name) field) with
  | false => exact .error _
  | true =>
      cases taken.lookup (externalName (right.effectsOn field.name) field) with
      | some first => exact .error _
      | none =>
          cases field.shape.classify with
          | error fault => exact .error _
          | ok shape => exact .ok ⟨rfl, rfl, rfl, alike.computedOnly⟩

/-- When two tables leave the same fields in and each of these is made by both or refused by both
for one error, the outlines are made field by field of the same declarations and have one fault. -/
theorem ofFields_inStep
    {related : FieldNode TypeId → FieldNode TypeId → Prop}
    (sameExternal : ∀ first second, related first second → first.external = second.external)
    (id : TypeId)
    {fields : List FieldDef}
    (sameExcluded : ∀ field ∈ fields, left.excludes field.name = right.excludes field.name)
    (agree : ∀ field ∈ fields, ∀ taken,
      Results.Agree related (field? id left taken field) (field? id right taken field))
    (taken : List (String × String)) :
    List.Forall₂ related
        (ofFields id left taken fields).fields (ofFields id right taken fields).fields ∧
      (ofFields id left taken fields).fault? = (ofFields id right taken fields).fault? := by
  induction fields generalizing taken with
  | nil => exact ⟨.nil, rfl⟩
  | cons field rest inductionHypothesis =>
      obtain ⟨sameHead, sameRest⟩ := List.forall_mem_cons.mp sameExcluded
      obtain ⟨agreeHead, agreeRest⟩ := List.forall_mem_cons.mp agree
      cases leftIn : right.excludes field.name with
      | true =>
          rw [ofFields_of_excluded leftIn, ofFields_of_excluded (sameHead.trans leftIn)]
          exact inductionHypothesis sameRest agreeRest taken
      | false =>
          have made := agreeHead taken
          generalize madeLeft : field? id left taken field = first at made
          generalize madeRight : field? id right taken field = second at made
          cases made with
          | error error =>
              rw [ofFields_of_fault leftIn madeRight,
                ofFields_of_fault (sameHead.trans leftIn) madeLeft]
              exact ⟨.nil, rfl⟩
          | @ok node other holds =>
              obtain ⟨fieldsRelated, sameFault⟩ :=
                inductionHypothesis sameRest agreeRest ((other.external, field.name) :: taken)
              rw [ofFields_of_field leftIn madeRight,
                ofFields_of_field (sameHead.trans leftIn) madeLeft, sameExternal node other holds]
              exact ⟨.cons holds fieldsRelated, sameFault⟩

/-- Outlines under alike tables have the same fault and fields that are converted alike. -/
theorem ofFields_alike
    (id : TypeId)
    {fields : List FieldDef}
    (alike : left.ConvertAlike right fields)
    (taken : List (String × String)) :
    List.Forall₂ FieldNode.OutlinedAlike
        (ofFields id left taken fields).fields (ofFields id right taken fields).fields ∧
      (ofFields id left taken fields).fault? = (ofFields id right taken fields).fault? :=
  ofFields_inStep (fun _ _ outlined => outlined.external) id
    (fun field member => (alike field member).excluded)
    (fun field member taken => field?_agrees id (alike field member) taken) taken

end Outline

/-! ## Nodes -/

/-- Two nodes have one conversion. -/
def TypeNode.ConvertAlike (left right : TypeNode) : Prop :=
  left.conversion = right.conversion

private theorem TypeNode.ConvertAlike.id_eq
    {left right : TypeNode}
    (alike : left.ConvertAlike right) :
    left.id = right.id := by
  have sameType := congrArg Conversion.typeId alike
  rwa [TypeNode.conversion_typeId, TypeNode.conversion_typeId] at sameType

section Walks

variable
  {manifest : Manifest}
  {left right : Registry}
  {leftVisit rightVisit : TypeId → Walk TypeNode}

/-- Memories of nodes that pair by pair have one conversion. -/
abbrev InStepNodes {α β : Type} (values : α → β → Prop) (first : Walk α) (second : Walk β) : Prop :=
  Building.InStep (List.Forall₂ TypeNode.ConvertAlike) values first second

private theorem FieldNode.resolve_inStep
    (visits : ∀ id, InStepNodes TypeNode.ConvertAlike (leftVisit id) (rightVisit id))
    {first second : FieldNode TypeId}
    (alike : first.OutlinedAlike second) :
    InStepNodes (fun leftField rightField => leftField.conversion = rightField.conversion)
      (first.resolve leftVisit) (second.resolve rightVisit) := by
  obtain ⟨declared, external, ⟨arity, target⟩, effects, version, description⟩ := first
  obtain ⟨_, _, shape, otherEffects, otherVersion, otherDescription⟩ := second
  obtain ⟨rfl, rfl, rfl, sameComputedOnly⟩ := alike
  have targets : InStepNodes
      (fun leftTarget rightTarget =>
        leftTarget.map TypeNode.conversion = rightTarget.map TypeNode.conversion)
      (target.resolve leftVisit) (target.resolve rightVisit) := by
    cases target with
    | scalar type => exact .pure rfl
    | struct id =>
        exact .bind (visits id) fun _ _ nodesAlike => .pure (congrArg Target.struct nodesAlike)
  refine .bind targets fun leftTarget rightTarget sameTarget => .pure ?_
  simp only [FieldNode.conversion, FieldNode.withShape, FieldShape.map, FieldConversion.ofField,
    sameTarget]
  rw [sameComputedOnly]

private theorem TypeDef.resolve_inStep
    {definition : TypeDef}
    (alike : (left.table definition.id).ConvertAlike (right.table definition.id)
      definition.fields)
    (visits : ∀ id, InStepNodes TypeNode.ConvertAlike (leftVisit id) (rightVisit id)) :
    InStepNodes TypeNode.ConvertAlike
      (definition.resolve left leftVisit) (definition.resolve right rightVisit) := by
  obtain ⟨fieldsAlike, sameFault⟩ := Outline.ofFields_alike definition.id alike []
  change List.Forall₂ _ (definition.outline left).fields (definition.outline right).fields
    at fieldsAlike
  change (definition.outline left).fault? = (definition.outline right).fault? at sameFault
  have sameExcluded : Outline.excluded definition (left.table definition.id) =
      Outline.excluded definition (right.table definition.id) := by
    refine List.filter_congr fun name member => ?_
    obtain ⟨field, isField, rfl⟩ := List.mem_map.mp member
    exact (alike field isField).excluded
  refine .bind (.each (fun _ _ outlined => FieldNode.resolve_inStep visits outlined) fieldsAlike)
    fun leftFields rightFields converted => ?_
  rw [sameFault]
  cases (definition.outline right).fault? with
  | some error => exact .fail error
  | none =>
      refine .pure ?_
      have sameEntries : leftFields.map FieldNode.conversion =
          rightFields.map FieldNode.conversion := by
        rwa [← List.forall₂_eq_eq_eq, List.forall₂_map_left_iff, List.forall₂_map_right_iff]
      rw [TypeNode.ConvertAlike, TypeNode.conversion_eq, TypeNode.conversion_eq]
      simp only [TypeDef.node, sameEntries, sameExcluded]

/-- Walks under alike tables are in step below every stack. -/
theorem walk_inStep
    (alike : left.ConvertAlike manifest right)
    (stack : List TypeId)
    (id : TypeId) :
    InStepNodes TypeNode.ConvertAlike
      (walk manifest left stack id) (walk manifest right stack id) := by
  have sameTest : ∀ first second : TypeNode, first.ConvertAlike second →
      (first.id == id) = (second.id == id) := fun first second nodesAlike => by
    rw [nodesAlike.id_eq]
  by_cases inside : id ∈ stack
  · rw [walk_of_mem inside, walk_of_mem inside]
    exact .once sameTest (.fail _)
  · cases found : manifest.get? id with
    | none =>
        rw [walk_of_undefined inside found, walk_of_undefined inside found]
        exact .once sameTest (.fail _)
    | some definition =>
        have shorter := Manifest.free_length_lt inside found
        rw [walk_of_defined inside found, walk_of_defined inside found]
        exact .once sameTest
          (TypeDef.resolve_inStep (alike definition (Manifest.mem_of_get? found))
            fun inner => walk_inStep alike (stack ++ [id]) inner)
termination_by (manifest.free stack).length

/-- Types asked for in one order are built one for one with equal conversions. -/
theorem walkAll_inStep
    (alike : left.ConvertAlike manifest right)
    (ids : List TypeId) :
    List.Forall₂ TypeNode.ConvertAlike
      (walkAll manifest left ids []).2 (walkAll manifest right ids []).2 := by
  have pairwise : List.Forall₂ Eq ids ids := List.forall₂_refl ids
  have inStep : InStepNodes (List.Forall₂ TypeNode.ConvertAlike)
      (walkAll manifest left ids) (walkAll manifest right ids) := by
    refine .each (fun first second same => ?_) pairwise
    subst same
    exact walk_inStep alike [] first
  exact (inStep [] [] .nil).2

end Walks

end BlockSchema
