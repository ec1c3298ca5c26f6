import BlockSchema.Output.Layout
import BlockSchema.Proofs.Graph.Lockstep
import BlockSchema.Proofs.Group.Registry

/-!
Contract: the directives that reach the conversions of a group and its emitted routines.

New names, exclusions and computed-only marks do. No other directive shows, neither in a rule
nor in the order of the conversions, and neither does the group being read only: groups that
register the same types in one order and agree on those three have the same conversions, and
the routines emitted for them are the same text.
-/

set_option autoImplicit false

namespace BlockSchema

variable {manifest : Manifest} {left right : GroupPlan}

/-! ## Registrations -/

/-- Two registrations are of one type and, where their directives resolve, a conversion shows
no difference between the effects on its fields. -/
def Registration.ConvertAlike (manifest : Manifest) (left right : Registration) : Prop :=
  left.typeId = right.typeId ∧
    ∀ definition leftTable rightTable,
      manifest.get? left.typeId = some definition →
      DirectiveTable.resolve definition left.directives = .ok leftTable →
      DirectiveTable.resolve definition right.directives = .ok rightTable →
      leftTable.ConvertAlike rightTable definition.fields

/-- Two entries are of one type, with tables that are alike on its fields. -/
def Registry.EntriesAlike (manifest : Manifest) (left right : TypeId × DirectiveTable) : Prop :=
  left.1 = right.1 ∧ ∀ definition, manifest.get? left.1 = some definition →
    left.2.ConvertAlike right.2 definition.fields

/-- What alike registrations give is alike. -/
theorem Registry.entriesAlike_of_gives
    {lefts rights : List Registration}
    (alike : List.Forall₂ (Registration.ConvertAlike manifest) lefts rights)
    {leftRegistry rightRegistry : Registry}
    (leftGives : List.Forall₂ (Registration.Gives manifest) lefts leftRegistry)
    (rightGives : List.Forall₂ (Registration.Gives manifest) rights rightRegistry) :
    List.Forall₂ (Registry.EntriesAlike manifest) leftRegistry rightRegistry := by
  induction alike generalizing leftRegistry rightRegistry with
  | nil =>
      cases leftGives
      cases rightGives
      exact .nil
  | @cons first second _ _ head _ inductionHypothesis =>
      cases leftGives with
      | @cons _ leftEntry _ leftRest givesLeft givesLeftRest =>
          cases rightGives with
          | @cons _ rightEntry _ rightRest givesRight givesRightRest =>
              refine .cons ?_ (inductionHypothesis givesLeftRest givesRightRest)
              obtain ⟨leftType, leftDefinition, isLeft, leftResolved⟩ := givesLeft
              obtain ⟨rightType, rightDefinition, isRight, rightResolved⟩ := givesRight
              obtain ⟨sameType, tablesAlike⟩ := head
              have sameEntry : leftEntry.1 = rightEntry.1 := by
                rw [← leftType, ← rightType, sameType]
              refine ⟨sameEntry, fun definition found => ?_⟩
              obtain rfl := Option.some.inj (isLeft.symm.trans found)
              rw [← sameEntry] at isRight
              obtain rfl := Option.some.inj (isRight.symm.trans found)
              exact tablesAlike _ _ _ (leftType ▸ found) leftResolved rightResolved

/-- Registries are alike when their entries are: a type without an entry in one of them has
none in the other. -/
theorem Registry.convertAlike_of_entries
    {leftRegistry rightRegistry : Registry}
    (alike : List.Forall₂ (Registry.EntriesAlike manifest) leftRegistry rightRegistry) :
    leftRegistry.ConvertAlike manifest rightRegistry := by
  intro definition member
  have found : manifest.get? definition.id = some definition := Manifest.get?_of_mem member
  unfold Registry.table
  induction alike with
  | nil => exact fun field _ => .refl _
  | @cons leftEntry rightEntry _ _ head _ inductionHypothesis =>
      obtain ⟨leftType, leftTable⟩ := leftEntry
      obtain ⟨rightType, rightTable⟩ := rightEntry
      obtain ⟨sameType, tablesAlike⟩ := head
      obtain rfl : leftType = rightType := sameType
      rw [List.lookup_cons, List.lookup_cons]
      by_cases isIt : definition.id = leftType
      · subst isIt
        simpa using tablesAlike definition found
      · rw [beq_eq_false_iff_ne.mpr isIt]
        exact inductionHypothesis

/-! ## Groups -/

/-- The files of a group's routines: one for every conversion, and the module over them. -/
def Layout.structureArtifacts (layout : Layout) (group : CompiledGroup) : List Artifact :=
  group.conversions.map (layout.routineArtifact group.name) ++ [layout.moduleArtifact group]

/-- They stand between the schemas and the pages of the group. -/
theorem Layout.artifacts_eq (layout : Layout) (group : CompiledGroup) :
    layout.artifacts group =
      (group.roots.filterMap CompiledType.schema).map (layout.schemaArtifact group.name) ++
        layout.structureArtifacts group ++
        (group.roots.filterMap CompiledType.doc).map (layout.pageArtifact group) := by
  simp only [Layout.artifacts, Layout.structureArtifacts, List.append_assoc]

/-- What the files hold is made of the conversions and the settings. -/
theorem Layout.structureArtifacts_contents (layout : Layout) (group : CompiledGroup) :
    (layout.structureArtifacts group).map Artifact.contents =
      group.conversions.map (fun conversion => (Routine.ofConversion conversion).source) ++
        [Routine.moduleSource (group.conversions.map Conversion.typeId) layout.settings] := by
  simp [Layout.structureArtifacts, Layout.routineArtifact, Layout.moduleArtifact,
    Function.comp_def]

/-- Groups that register the same types in one order, and give every field the same new name,
exclusion and computed-only mark, have the same conversions and emit the same routines. -/
theorem GroupPlan.compile_convertAlike
    {leftCompiled rightCompiled : CompiledGroup}
    (leftAccepted : left.compile manifest = .ok leftCompiled)
    (rightAccepted : right.compile manifest = .ok rightCompiled)
    (alike : List.Forall₂ (Registration.ConvertAlike manifest) left.types right.types) :
    leftCompiled.conversions = rightCompiled.conversions ∧
      ∀ leftLayout rightLayout : Layout, leftLayout.settings = rightLayout.settings →
        (leftLayout.structureArtifacts leftCompiled).map Artifact.contents =
          (rightLayout.structureArtifacts rightCompiled).map Artifact.contents := by
  obtain ⟨leftRegistry, _, _, leftSteps⟩ := GroupPlan.compile_steps leftAccepted
  obtain ⟨rightRegistry, _, _, rightSteps⟩ := GroupPlan.compile_steps rightAccepted
  obtain ⟨_, leftGives⟩ := Registry.ofGroup_eq_ok.mp leftSteps.resolved
  obtain ⟨_, rightGives⟩ := Registry.ofGroup_eq_ok.mp rightSteps.resolved
  have registriesAlike :=
    Registry.convertAlike_of_entries (Registry.entriesAlike_of_gives alike leftGives rightGives)
  have sameIds : leftRegistry.ids = rightRegistry.ids := by
    rw [Registry.ofGroup_ids leftSteps.resolved, Registry.ofGroup_ids rightSteps.resolved,
      ← List.forall₂_eq_eq_eq, List.forall₂_map_left_iff, List.forall₂_map_right_iff]
    exact alike.imp fun _ _ => And.left
  have nodesAlike := walkAll_inStep registriesAlike leftRegistry.ids
  rw [leftSteps.walked, sameIds, rightSteps.walked] at nodesAlike
  have sameConversions : leftCompiled.conversions = rightCompiled.conversions := by
    obtain ⟨_, leftInOrder, _⟩ := GroupPlan.compile_parts leftAccepted leftSteps.resolved
    obtain ⟨_, rightInOrder, _⟩ := GroupPlan.compile_parts rightAccepted rightSteps.resolved
    rw [leftInOrder, rightInOrder, ← List.forall₂_eq_eq_eq, List.forall₂_map_left_iff,
      List.forall₂_map_right_iff]
    exact nodesAlike
  refine ⟨sameConversions, fun leftLayout rightLayout sameSettings => ?_⟩
  rw [Layout.structureArtifacts_contents, Layout.structureArtifacts_contents, sameConversions,
    sameSettings]

/-! ## Orders for readers -/

namespace Orders

/-- A read-only group for orders that differ in everything that no conversion shows. -/
def viewing : GroupPlan :=
  { name := "views"
    docs := some "reading"
    readOnly := true
    types :=
      [⟨order.id,
        [.doc ⟨"Orders", ""⟩, .mark .exclude ["Note"], .mark .required ["Number"], .version 3,
          .mark .computedOnly ["Total"], .mark .sensitive ["Prices", "Total"],
          .mark .nullable ["Spare"], .fieldVersion 5 ["Items"], .mark .forceNew ["Main"]]⟩] }

end Orders

/-- Readers have the conversions and the routines of the orders that are written. -/
theorem GroupPlan.compile_convertAlike_orders :
    ∃ compiled views,
      Orders.group.compile Orders.manifest = .ok compiled ∧
      Orders.viewing.compile Orders.manifest = .ok views ∧
      List.Forall₂ (Registration.ConvertAlike Orders.manifest) Orders.group.types
        Orders.viewing.types ∧
      views.readOnly = true ∧
      compiled.conversions = views.conversions := by
  have compiles : (Orders.group.compile Orders.manifest).toOption.any (fun _ => true) = true := by
    decide +kernel
  have viewsCompile : (Orders.viewing.compile Orders.manifest).toOption.any
      CompiledGroup.readOnly = true := by
    decide +kernel
  obtain ⟨compiled, accepted, _⟩ := Orders.compiles compiles
  obtain ⟨views, viewsAccepted, readOnly⟩ := Results.exists_of_any viewsCompile
  have tablesAlike : ∀ leftTable ∈
      (DirectiveTable.resolve Orders.order
        (Orders.group.types.flatMap Registration.directives)).toOption,
      ∀ rightTable ∈
        (DirectiveTable.resolve Orders.order
          (Orders.viewing.types.flatMap Registration.directives)).toOption,
        leftTable.ConvertAlike rightTable Orders.order.fields := by
    decide +kernel
  have alike : List.Forall₂ (Registration.ConvertAlike Orders.manifest) Orders.group.types
      Orders.viewing.types := by
    refine .cons ⟨rfl, fun definition leftTable rightTable found isLeft isRight => ?_⟩ .nil
    obtain rfl : Orders.order = definition :=
      Option.some.inj ((Manifest.get?_of_mem (by simp [Orders.manifest])).symm.trans found)
    exact tablesAlike leftTable (congrArg Except.toOption isLeft) rightTable
      (congrArg Except.toOption isRight)
  obtain ⟨sameConversions, _⟩ := GroupPlan.compile_convertAlike accepted viewsAccepted alike
  exact ⟨compiled, views, accepted, viewsAccepted, alike, readOnly, sameConversions⟩

end BlockSchema
