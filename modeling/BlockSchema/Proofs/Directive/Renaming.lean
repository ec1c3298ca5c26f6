import BlockSchema.Proofs.Directive.Resolution

/-!
Contract: one more named field in the directives of a type.

A field that is neither excluded nor named can be given a name besides what the directives say.
They then resolve again, and to a table that tells the name and nothing else that is new.
-/

set_option autoImplicit false

namespace BlockSchema

/-- A table that gives one field a name and otherwise tells what another table tells. -/
structure DirectiveTable.Naming (declared name : String) (table later : DirectiveTable) : Prop
    where
  version : later.version = table.version
  noSchema : later.noSchema = table.noSchema
  doc : later.doc = table.doc
  named : later.effectsOn declared = { table.effectsOn declared with rename := some name }
  others : ∀ other, other ≠ declared → later.effectsOn other = table.effectsOn other

section Facts

variable
  {definition : TypeDef}
  {facts others : List Fact}
  {declared name : String}

/-- A field that is neither excluded nor named takes a name. -/
theorem Consistent.naming
    (fits : Consistent definition facts)
    (also : ∀ fact, fact ∈ others ↔ fact = .field declared (.rename name) ∨ fact ∈ facts)
    (isField : declared ∈ definition.fieldNames)
    (hasSchema : .noSchema ∉ facts)
    (included : .field declared (.mark .exclude) ∉ facts)
    (nameless : ∀ other, .field declared (.rename other) ∉ facts) :
    Consistent definition others where
  known other effect said := by
    rcases (also _).mp said with isName | before
    · obtain ⟨rfl, -⟩ := Fact.field.inj isName
      exact isField
    · exact fits.known other effect before
  singleValued := fits.singleValued.insert also fun held isHeld => by
    cases held with
    | field other effect =>
        by_cases same : other = declared
        · subst same
          cases effect with
          | rename earlier => exact absurd isHeld (nameless earlier)
          | mark | version => simp [Fact.dispute?, Effect.dispute?]
        · simp [Fact.dispute?, same]
    | version | noSchema | doc => rfl
  schemaless said := by
    rcases (also _).mp said with impossible | before
    · cases impossible
    · exact absurd before hasSchema
  compatible other := by
    have sameMark : ∀ kind, .field other (.mark kind) ∈ others →
        .field other (.mark kind) ∈ facts :=
      fun kind said => ((also _).mp said).resolve_left (by simp)
    exact
      { unopposed := fun first second opposed saidFirst saidSecond =>
          (fits.compatible other).unopposed first second opposed (sameMark first saidFirst)
            (sameMark second saidSecond)
        excludedAlone := fun excluded effect said => by
          have wasExcluded := sameMark .exclude excluded
          rcases (also _).mp said with isName | before
          · obtain ⟨rfl, -⟩ := Fact.field.inj isName
            exact absurd wasExcluded included
          · exact (fits.compatible other).excludedAlone wasExcluded effect before }

end Facts

namespace DirectiveTable

/-- Wherever a directive that names the field is added, the directives resolve to a table that
names it too. -/
theorem exists_resolve_naming
    {definition : TypeDef}
    {front back : List Directive}
    {table : DirectiveTable}
    {declared : String}
    (resolved : resolve definition (front ++ back) = .ok table)
    (isField : declared ∈ definition.fieldNames)
    (hasSchema : table.noSchema = false)
    (included : table.excludes declared = false)
    (nameless : (table.effectsOn declared).rename = none)
    (name : String) :
    ∃ later, resolve definition (front ++ .rename declared name :: back) = .ok later ∧
      table.Naming declared name later := by
  have also : ∀ fact, fact ∈ Fact.ofDirectives (front ++ .rename declared name :: back) ↔
      fact = .field declared (.rename name) ∨ fact ∈ Fact.ofDirectives (front ++ back) := by
    intro fact
    rw [Fact.mem_ofDirectives_insert, Directive.facts, List.mem_singleton]
  have holds := (resolve_collects resolved).holds
  have fits := exists_resolve_iff.mp ⟨table, resolved⟩
  obtain ⟨later, resolvedLater⟩ := exists_resolve_iff.mpr <|
    fits.naming also isField
      (fun said => Bool.eq_false_iff.mp hasSchema ((holds _).mpr said))
      (fun said => Bool.eq_false_iff.mp included ((holds _).mpr said))
      (fun other said => Option.eq_none_iff_forall_ne_some.mp nameless other ((holds _).mpr said))
  have holdsLater := (resolve_collects resolvedLater).holds
  have sameFact : ∀ fact, fact ≠ .field declared (.rename name) →
      (later.Holds fact ↔ table.Holds fact) := by
    intro fact apart
    rw [holdsLater, holds, also]
    exact or_iff_right apart
  refine ⟨later, resolvedLater, ?_⟩
  exact
    { version := version_eq_of_holds fun revision => sameFact (.version revision) (by simp)
      noSchema := Bool.eq_iff_iff.mpr (sameFact .noSchema (by simp))
      doc := Option.ext fun wrapper => sameFact (.doc wrapper) (by simp)
      named := FieldEffects.eq_of_holds fun effect => by
        have undisputed : (table.effectsOn declared).dispute? (.rename name) = none := by
          rw [FieldEffects.dispute?, nameless, Option.bind_none]
        refine ((holdsLater (.field declared effect)).trans (also _)).trans ?_
        refine Iff.trans ?_ (FieldEffects.holds_put undisputed effect).symm
        rw [← holds, Fact.field.injEq, and_iff_right rfl]
        rfl
      others := fun other apart => FieldEffects.eq_of_holds fun effect =>
        sameFact (.field other effect) (by simp [apart]) }

end DirectiveTable

end BlockSchema
