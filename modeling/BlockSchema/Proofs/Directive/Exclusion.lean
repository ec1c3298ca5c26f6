import BlockSchema.Proofs.Directive.Resolution

/-!
Contract: one more excluded field in the directives of a type.

A field that no directive names can be excluded besides what the directives say. They then
resolve again, and to a table that differs in this field alone.
-/

set_option autoImplicit false

namespace BlockSchema

/-- Directives that say what others say, and that a field is excluded. Where they say so, and
with which other names in a list, is of no account. -/
def AlsoExclude (name : String) (directives others : List Directive) : Prop :=
  ∀ fact, fact ∈ Fact.ofDirectives others ↔
    fact = .field name (.mark .exclude) ∨ fact ∈ Fact.ofDirectives directives

/-- An added directive excludes the field, whatever stands around it. -/
theorem AlsoExclude.insert (name : String) (front back : List Directive) :
    AlsoExclude name (front ++ back) (front ++ .mark .exclude [name] :: back) := by
  intro fact
  rw [Fact.mem_ofDirectives_insert, Directive.facts, List.map_singleton, List.mem_singleton]

/-- A table that excludes one field more than another table, which has a schema and says
nothing of the field. -/
structure DirectiveTable.Excluding (name : String) (table later : DirectiveTable) : Prop where
  version : later.version = table.version
  hasSchema : table.noSchema = false
  noSchema : later.noSchema = table.noSchema
  doc : later.doc = table.doc
  unnamed : table.effectsOn name = .none
  excluded : later.excludes name = true
  others : ∀ other, other ≠ name → later.effectsOn other = table.effectsOn other

section Facts

variable {name : String} {directives others : List Directive}

private theorem Directive.mem_fieldNames_of_facts {directive : Directive} {effect : Effect}
    (said : .field name effect ∈ directive.facts) :
    name ∈ directive.fieldNames := by
  cases directive <;> simp_all [Directive.facts, Directive.fieldNames]

private theorem Fact.not_mem_of_unnamed
    (unnamed : ∀ directive ∈ directives, name ∉ directive.fieldNames)
    (effect : Effect) :
    .field name effect ∉ Fact.ofDirectives directives := by
  intro said
  obtain ⟨directive, member, isFact⟩ := List.mem_flatMap.mp said
  exact unnamed directive member (Directive.mem_fieldNames_of_facts isFact)

private theorem Fact.mem_noSchema :
    .noSchema ∈ Fact.ofDirectives directives ↔ .noSchema ∈ directives := by
  constructor
  · intro said
    obtain ⟨directive, member, isFact⟩ := List.mem_flatMap.mp said
    cases directive <;> simp_all [Directive.facts]
  · exact fun member => List.mem_flatMap.mpr ⟨_, member, List.mem_singleton_self _⟩

end Facts

namespace AlsoExclude

variable
  {definition : TypeDef}
  {name : String}
  {directives others : List Directive}

/-- Of the field the new directives say only that it is excluded. -/
theorem effect_iff
    (also : AlsoExclude name directives others)
    (unnamed : ∀ directive ∈ directives, name ∉ directive.fieldNames)
    (effect : Effect) :
    .field name effect ∈ Fact.ofDirectives others ↔ effect = .mark .exclude := by
  rw [also]
  simp [Fact.not_mem_of_unnamed unnamed]

/-- Of another field they say what was said. -/
theorem other_iff
    (also : AlsoExclude name directives others)
    {other : String}
    (apart : other ≠ name)
    (effect : Effect) :
    .field other effect ∈ Fact.ofDirectives others ↔
      .field other effect ∈ Fact.ofDirectives directives := by
  rw [also]
  simp [apart]

/-- The directives still fit the type and each other. -/
theorem consistent
    (also : AlsoExclude name directives others)
    (declared : name ∈ definition.fieldNames)
    (hasSchema : .noSchema ∉ directives)
    (unnamed : ∀ directive ∈ directives, name ∉ directive.fieldNames)
    (fits : Consistent definition (Fact.ofDirectives directives)) :
    Consistent definition (Fact.ofDirectives others) where
  known other effect said := by
    rcases (also _).mp said with isExclusion | before
    · obtain ⟨rfl, -⟩ := Fact.field.inj isExclusion
      exact declared
    · exact fits.known other effect before
  singleValued := fits.singleValued.insert also fun held _ => by
    cases held with
    | field other effect => cases effect <;> simp [Fact.dispute?, Effect.dispute?]
    | version | noSchema | doc => rfl
  schemaless said := by
    rcases (also _).mp said with impossible | before
    · cases impossible
    · exact absurd (Fact.mem_noSchema.mp before) hasSchema
  compatible other := by
    by_cases same : other = name
    · subst same
      simp only [also.effect_iff unnamed]
      exact
        { unopposed := fun first second opposed isFirst isSecond => by
            cases opposed <;> cases isFirst
          excludedAlone := fun _ effect isExclusion => isExclusion }
    · simp only [also.other_iff same]
      exact fits.compatible other

end AlsoExclude

namespace DirectiveTable

/-- Directives that exclude one field more resolve, to a table that excludes it and says the
same of everything else. -/
theorem exists_resolve_excluding
    {definition : TypeDef}
    {name : String}
    {directives others : List Directive}
    {table : DirectiveTable}
    (also : AlsoExclude name directives others)
    (declared : name ∈ definition.fieldNames)
    (hasSchema : .noSchema ∉ directives)
    (unnamed : ∀ directive ∈ directives, name ∉ directive.fieldNames)
    (resolved : resolve definition directives = .ok table) :
    ∃ later, resolve definition others = .ok later ∧ table.Excluding name later := by
  have fits := exists_resolve_iff.mp ⟨table, resolved⟩
  obtain ⟨later, resolvedLater⟩ :=
    exists_resolve_iff.mpr (also.consistent declared hasSchema unnamed fits)
  have holds := (resolve_collects resolved).holds
  have holdsLater := (resolve_collects resolvedLater).holds
  have sameFact : ∀ fact, fact ≠ .field name (.mark .exclude) →
      (later.Holds fact ↔ table.Holds fact) := by
    intro fact apart
    rw [holdsLater, holds, also]
    exact or_iff_right apart
  refine ⟨later, resolvedLater, ?_⟩
  exact
    { version := version_eq_of_holds fun revision => sameFact (.version revision) nofun
      hasSchema := Bool.eq_false_iff.mpr fun schemaless =>
        hasSchema (Fact.mem_noSchema.mp ((holds .noSchema).mp schemaless))
      noSchema := Bool.eq_iff_iff.mpr (sameFact .noSchema nofun)
      doc := Option.ext fun wrapper => sameFact (.doc wrapper) nofun
      unnamed := FieldEffects.eq_of_holds fun effect => by
        refine iff_of_false (fun said => ?_) (FieldEffects.not_holds_none effect)
        exact Fact.not_mem_of_unnamed unnamed effect ((holds (.field name effect)).mp said)
      excluded := (holdsLater (.field name (.mark .exclude))).mpr ((also _).mpr (.inl rfl))
      others := fun other apart => FieldEffects.eq_of_holds fun effect =>
        sameFact (.field other effect) (by simp [apart]) }

end DirectiveTable

end BlockSchema
