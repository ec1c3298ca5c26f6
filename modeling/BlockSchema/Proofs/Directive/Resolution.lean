import BlockSchema.Proofs.Directive.Collection
import Mathlib.Logic.Relation

/-!
Contract: which directives fit a type, and the table that they resolve to.

`Consistent` asks of the facts alone what resolving finds out in four passes: that the fields
exist, that no slot is given two values, that a type without a schema has no facts on fields,
and that no field has effects that exclude each other. `Reflects` says what the table then
tells. Both see the facts only as a set, so the order of directives, repeats and the grouping
of names into lists are of no account.
-/

set_option autoImplicit false

namespace BlockSchema

/-! ## Effects that exclude each other -/

/-- Two marks that no field has at once. -/
inductive Mark.Opposed : Mark → Mark → Prop where
  | requiredComputedOnly : Opposed .required .computedOnly
  | requiredComputed : Opposed .required .computed
  | computedComputedOnly : Opposed .computed .computedOnly
  | requiredNullable : Opposed .required .nullable
  | forceNewComputedOnly : Opposed .forceNew .computedOnly

theorem Mark.mem_all (kind : Mark) : kind ∈ Mark.all := by
  cases kind <;> simp [all]

private theorem Effect.label_eq_exclude {effect : Effect} :
    effect.label = Mark.exclude.label ↔ effect = .mark .exclude := by
  cases effect with
  | mark kind => cases kind <;> simp [label, Mark.label]
  | rename name => simp [label, Mark.label]
  | version revision => simp [label, Mark.label]

namespace FieldEffects

private theorem mem_opposedMarks {first second : Mark} :
    (first, second) ∈ opposedMarks ↔ Mark.Opposed first second := by
  constructor
  · intro member
    simp only [opposedMarks, List.mem_cons, Prod.mk.injEq, List.not_mem_nil, or_false] at member
    rcases member with ⟨rfl, rfl⟩ | ⟨rfl, rfl⟩ | ⟨rfl, rfl⟩ | ⟨rfl, rfl⟩ | ⟨rfl, rfl⟩
    · exact .requiredComputedOnly
    · exact .requiredComputed
    · exact .computedComputedOnly
    · exact .requiredNullable
    · exact .forceNewComputedOnly
  · intro opposed
    cases opposed <;> simp [opposedMarks]

/-- The labels of effects are those of the effects among them. -/
theorem mem_labels {effects : FieldEffects} {label : String} :
    label ∈ effects.labels ↔ ∃ effect, effects.Holds effect ∧ effect.label = label := by
  simp only [labels, List.mem_append, List.mem_map, List.mem_filter]
  constructor
  · rintro ((⟨kind, ⟨-, has⟩, rfl⟩ | renamed) | revised)
    · exact ⟨.mark kind, has, rfl⟩
    · cases slot : effects.rename with
      | none => simp [slot] at renamed
      | some name =>
          have isLabel : label = "rename" := by simpa [slot] using renamed
          exact ⟨.rename name, slot, isLabel.symm⟩
    · cases slot : effects.version with
      | none => simp [slot] at revised
      | some revision =>
          have isLabel : label = "field_version" := by simpa [slot] using revised
          exact ⟨.version revision, slot, isLabel.symm⟩
  · rintro ⟨effect, holds, rfl⟩
    cases effect with
    | mark kind => exact .inl (.inl ⟨kind, ⟨kind.mem_all, holds⟩, rfl⟩)
    | rename name =>
        have slot : effects.rename = some name := holds
        exact .inl (.inr (by simp [slot, Effect.label]))
    | version revision =>
        have slot : effects.version = some revision := holds
        exact .inr (by simp [slot, Effect.label])

end FieldEffects

/-- Effects, given by a predicate, of which no two exclude each other. -/
structure Effect.Compatible (given : Effect → Prop) : Prop where
  unopposed : ∀ first second, Mark.Opposed first second →
    given (.mark first) → ¬ given (.mark second)
  excludedAlone : given (.mark .exclude) → ∀ effect, given effect → effect = .mark .exclude

private theorem FieldEffects.conflict?_eq_none {effects : FieldEffects} :
    effects.conflict? = Option.none ↔ Effect.Compatible effects.Holds := by
  by_cases excluded : effects.excluded = true
  · have holdsExclude : effects.Holds (.mark .exclude) := excluded
    simp only [conflict?, excluded, if_true, Option.map_eq_none_iff, List.find?_eq_none]
    constructor
    · intro onlyExclude
      have alone : ∀ effect, effects.Holds effect → effect = .mark .exclude := by
        intro effect holds
        have isLabel := onlyExclude effect.label (mem_labels.mpr ⟨effect, holds, rfl⟩)
        exact Effect.label_eq_exclude.mp (by simpa using isLabel)
      refine ⟨fun first second opposed holds => ?_, fun _ => alone⟩
      have isExclude := alone _ holds
      cases opposed <;> cases isExclude
    · intro compatible label member
      obtain ⟨effect, holds, rfl⟩ := mem_labels.mp member
      rw [compatible.excludedAlone holdsExclude effect holds]
      simp [Effect.label]
  · have notExclude : ¬ effects.Holds (.mark .exclude) := excluded
    simp only [conflict?, excluded, Bool.false_eq_true, if_false, Option.map_eq_none_iff,
      List.find?_eq_none]
    constructor
    · intro noPair
      refine ⟨fun first second opposed holdsFirst holdsSecond => ?_,
        fun holds => absurd holds notExclude⟩
      refine noPair (first, second) (mem_opposedMarks.mpr opposed) ?_
      exact Bool.and_eq_true_iff.mpr ⟨holdsFirst, holdsSecond⟩
    · intro compatible pair member both
      obtain ⟨first, second⟩ := pair
      rw [Bool.and_eq_true] at both
      exact compatible.unopposed first second (mem_opposedMarks.mp member) both.1 both.2

/-! ## Facts that fit a type and each other -/

/-- Facts that give no slot two values. -/
structure SingleValued (facts : List Fact) : Prop where
  version : ∀ first second, .version first ∈ facts → .version second ∈ facts → first = second
  rename : ∀ name first second, .field name (.rename first) ∈ facts →
    .field name (.rename second) ∈ facts → first = second
  fieldVersion : ∀ name first second, .field name (.version first) ∈ facts →
    .field name (.version second) ∈ facts → first = second
  doc : ∀ first second, .doc first ∈ facts → .doc second ∈ facts → first = second

/-- Facts whose fields a type has and that can all be put into one table. -/
structure Consistent (definition : TypeDef) (facts : List Fact) : Prop where
  known : ∀ name effect, .field name effect ∈ facts → name ∈ definition.fieldNames
  singleValued : SingleValued facts
  /-- A type without a schema of its own has no facts on fields. -/
  schemaless : .noSchema ∈ facts → ∀ name effect, .field name effect ∉ facts
  compatible : ∀ name, Effect.Compatible fun effect => .field name effect ∈ facts

theorem singleValued_iff {facts : List Fact} :
    SingleValued facts ↔ ∀ issue, ¬ Disputed facts issue := by
  constructor
  · rintro single issue ⟨first, firstMember, second, secondMember, disputed⟩
    suffices agree : first.dispute? second = none by simp [agree] at disputed
    clear disputed
    cases first <;> cases second <;> try rfl
    case version.version =>
      exact Slot.dispute?_eq_none.mpr (single.version _ _ firstMember secondMember)
    case doc.doc => exact Slot.dispute?_eq_none.mpr (single.doc _ _ firstMember secondMember)
    case field.field name effect other otherEffect =>
      by_cases same : name = other
      · subst same
        simp only [Fact.dispute?, if_true]
        cases effect <;> cases otherEffect <;> try rfl
        case rename.rename =>
          exact Slot.dispute?_eq_none.mpr (single.rename _ _ _ firstMember secondMember)
        case version.version =>
          exact Slot.dispute?_eq_none.mpr (single.fieldVersion _ _ _ firstMember secondMember)
      · simp [Fact.dispute?, same]
  · intro undisputed
    have agree : ∀ first ∈ facts, ∀ second ∈ facts, first.dispute? second = none := by
      intro first firstMember second secondMember
      cases disputed : first.dispute? second with
      | none => rfl
      | some issue =>
          exact absurd ⟨first, firstMember, second, secondMember, disputed⟩ (undisputed issue)
    constructor
    · intro first second firstMember secondMember
      exact Slot.dispute?_eq_none.mp (agree _ firstMember _ secondMember)
    · intro name first second firstMember secondMember
      have agreed := agree _ firstMember _ secondMember
      simpa [Fact.dispute?, Effect.dispute?, Slot.dispute?_eq_none] using agreed
    · intro name first second firstMember secondMember
      have agreed := agree _ firstMember _ secondMember
      simpa [Fact.dispute?, Effect.dispute?, Slot.dispute?_eq_none] using agreed
    · intro first second firstMember secondMember
      exact Slot.dispute?_eq_none.mp (agree _ firstMember _ secondMember)

/-- One more fact that disputes none gives no slot a second value. -/
theorem SingleValued.insert {facts others : List Fact} {fact : Fact}
    (single : SingleValued facts)
    (also : ∀ other, other ∈ others ↔ other = fact ∨ other ∈ facts)
    (undisputed : ∀ held ∈ facts, held.dispute? fact = none) :
    SingleValued others := by
  rw [singleValued_iff] at single ⊢
  rintro issue ⟨first, firstMember, second, secondMember, disputed⟩
  rcases (also first).mp firstMember with rfl | firstHeld <;>
    rcases (also second).mp secondMember with rfl | secondHeld
  · rw [Fact.dispute?_self] at disputed
    cases disputed
  · rw [Fact.dispute?_comm, undisputed second secondHeld] at disputed
    cases disputed
  · rw [undisputed first firstHeld] at disputed
    cases disputed
  · exact single issue ⟨first, firstHeld, second, secondHeld, disputed⟩

/-- Consistency depends on the set of facts alone. -/
theorem Consistent.congr {definition : TypeDef} {facts others : List Fact}
    (consistent : Consistent definition facts)
    (same : ∀ fact, fact ∈ facts ↔ fact ∈ others) :
    Consistent definition others := by
  obtain ⟨known, ⟨version, rename, fieldVersion, doc⟩, schemaless, compatible⟩ := consistent
  simp only [same] at known version rename fieldVersion doc schemaless compatible
  exact ⟨known, ⟨version, rename, fieldVersion, doc⟩, schemaless, compatible⟩

namespace DirectiveTable

/-! ## What a table tells -/

/-- A table tells the facts of a list: every field that they name with just their effects,
and no other field. -/
structure Reflects (table : DirectiveTable) (facts : List Fact) : Prop where
  unnamed : ∀ name, table.field? name = none ↔ ∀ effect, .field name effect ∉ facts
  effects : ∀ name effects, table.field? name = some effects →
    ∀ effect, effects.Holds effect ↔ .field name effect ∈ facts
  version : ∀ revision, .version revision ∈ facts → table.version = revision
  versionless : (∀ revision, .version revision ∉ facts) → table.version = 0
  noSchema : table.noSchema = true ↔ .noSchema ∈ facts
  doc : ∀ wrapper, table.doc = some wrapper ↔ .doc wrapper ∈ facts

/-- Two tables tell the same. -/
structure Alike (left right : DirectiveTable) : Prop where
  version : left.version = right.version
  noSchema : left.noSchema = right.noSchema
  doc : left.doc = right.doc
  field? : ∀ name, left.field? name = right.field? name

namespace Collects

variable {table : DirectiveTable} {facts : List Fact}

theorem holds_of_field?
    (collects : table.Collects facts)
    {name : String}
    {effects : FieldEffects}
    (found : table.field? name = some effects)
    (effect : Effect) :
    effects.Holds effect ↔ .field name effect ∈ facts := by
  have isThem : table.effectsOn name = effects := by simp [effectsOn, found]
  rw [← collects.holds, Holds, isThem]

theorem field?_eq_none (collects : table.Collects facts) (name : String) :
    table.field? name = none ↔ ∀ effect, .field name effect ∉ facts := by
  constructor
  · intro missing effect member
    have holds := (collects.holds _).mpr member
    simp only [Holds, effectsOn, missing, Option.getD_none] at holds
    exact FieldEffects.not_holds_none effect holds
  · intro unnamed
    cases found : table.field? name with
    | none => rfl
    | some effects =>
        obtain ⟨effect, holds⟩ := collects.effective _ (Entries.mem_of_get? found)
        exact absurd ((collects.holds_of_field? found effect).mp holds) (unnamed effect)

theorem reflects (collects : table.Collects facts) : table.Reflects facts where
  unnamed := collects.field?_eq_none
  effects _ _ found := collects.holds_of_field? found
  version revision member := by
    have given : table.revision = some revision := (collects.holds (.version revision)).mpr member
    simp [DirectiveTable.version, given]
  versionless absent := by
    have missing : table.revision = none := Option.eq_none_iff_forall_ne_some.mpr
      fun revision given => absent revision ((collects.holds (.version revision)).mp given)
    simp [DirectiveTable.version, missing]
  noSchema := collects.holds .noSchema
  doc wrapper := collects.holds (.doc wrapper)

/-- Tables that collect the same set of facts tell the same. -/
theorem alike
    (collects : table.Collects facts)
    {other : DirectiveTable}
    {others : List Fact}
    (collectsOther : other.Collects others)
    (same : ∀ fact, fact ∈ facts ↔ fact ∈ others) :
    table.Alike other := by
  have sameHolds : ∀ fact, table.Holds fact ↔ other.Holds fact := by
    intro fact
    rw [collects.holds, collectsOther.holds, same]
  refine ⟨version_eq_of_holds fun revision => sameHolds (.version revision), ?noSchema, ?doc,
    fun name => ?field?⟩
  case noSchema => exact Bool.eq_iff_iff.mpr (sameHolds .noSchema)
  case doc => exact Option.ext fun wrapper => sameHolds (.doc wrapper)
  case field? =>
    have sameEffects : table.effectsOn name = other.effectsOn name :=
      FieldEffects.eq_of_holds fun effect => sameHolds (.field name effect)
    cases found : table.field? name with
    | none =>
        have unnamed := (collects.field?_eq_none name).mp found
        simp only [same] at unnamed
        exact ((collectsOther.field?_eq_none name).mpr unnamed).symm
    | some effects =>
        cases foundOther : other.field? name with
        | none =>
            have unnamed := (collectsOther.field?_eq_none name).mp foundOther
            simp only [← same] at unnamed
            rw [(collects.field?_eq_none name).mpr unnamed] at found
            cases found
        | some otherEffects =>
            simp only [effectsOn, found, foundOther, Option.getD_some] at sameEffects
            rw [sameEffects]

end Collects

/-! ## Checking the finished table -/

/-- Why a finished table is refused. -/
def fault? (table : DirectiveTable) (definition : TypeDef) : Option ConfigurationIssue :=
  if table.noSchema && !table.effects.isEmpty then
    some (.noSchemaWithFieldDirectives table.effectLabels)
  else table.firstConflict? definition

private theorem firstConflict?_eq_none {table : DirectiveTable} {definition : TypeDef} :
    table.firstConflict? definition = none ↔
      ∀ name ∈ definition.fieldNames, ∀ effects, table.field? name = some effects →
        Effect.Compatible effects.Holds := by
  simp only [firstConflict?, List.findSome?_eq_none_iff, Option.map_eq_none_iff,
    Option.bind_eq_none_iff, TypeDef.fieldNames, List.forall_mem_map,
    FieldEffects.conflict?_eq_none]

namespace Collects

variable {table : DirectiveTable} {facts : List Fact} {definition : TypeDef}

theorem effects_isEmpty (collects : table.Collects facts) :
    table.effects.isEmpty = true ↔ ∀ name effect, .field name effect ∉ facts := by
  rw [List.isEmpty_iff]
  constructor
  · intro isEmpty name
    refine (collects.field?_eq_none name).mp ?_
    simp [field?, isEmpty]
  · intro unnamed
    cases listed : table.effects with
    | nil => rfl
    | cons entry rest =>
        obtain ⟨name, effects⟩ := entry
        have missing := (collects.field?_eq_none name).mpr (unnamed name)
        simp [field?, listed, Entries.get?_cons] at missing

private theorem firstConflict?_eq_none
    (collects : table.Collects facts)
    (known : ∀ name effect, .field name effect ∈ facts → name ∈ definition.fieldNames) :
    table.firstConflict? definition = none ↔
      ∀ name, Effect.Compatible fun effect => .field name effect ∈ facts := by
  have given : ∀ {name effects}, table.field? name = some effects →
      effects.Holds = fun effect => .field name effect ∈ facts := fun found =>
    funext fun effect => propext (collects.holds_of_field? found effect)
  rw [DirectiveTable.firstConflict?_eq_none]
  constructor
  · intro compatible name
    cases found : table.field? name with
    | none =>
        have unnamed := (collects.field?_eq_none name).mp found
        exact ⟨fun _ _ _ member => absurd member (unnamed _),
          fun member => absurd member (unnamed _)⟩
    | some effects =>
        obtain ⟨effect, holds⟩ := collects.effective _ (Entries.mem_of_get? found)
        have member := (collects.holds_of_field? found effect).mp holds
        exact given found ▸ compatible name (known name effect member) effects found
  · intro compatible name _ effects found
    exact given found ▸ compatible name

/-- A table of facts on known fields has no fault exactly when the facts are consistent. -/
theorem fault?_eq_none
    (collects : table.Collects facts)
    (known : ∀ name effect, .field name effect ∈ facts → name ∈ definition.fieldNames) :
    table.fault? definition = none ↔ Consistent definition facts := by
  have isSchemaless : table.noSchema = true ↔ .noSchema ∈ facts := collects.holds .noSchema
  have single : SingleValued facts := singleValued_iff.mpr collects.undisputed
  by_cases both : (table.noSchema && !table.effects.isEmpty) = true
  · simp only [fault?, both, if_true, reduceCtorEq, false_iff]
    intro consistent
    rw [Bool.and_eq_true, Bool.not_eq_true', isSchemaless] at both
    rw [collects.effects_isEmpty.mpr (consistent.schemaless both.1)] at both
    exact absurd both.2 (by decide)
  · have schemaless : .noSchema ∈ facts → ∀ name effect, .field name effect ∉ facts := by
      intro member
      refine collects.effects_isEmpty.mp ?_
      simpa [isSchemaless.mpr member] using both
    simp only [fault?, both, Bool.false_eq_true, if_false]
    rw [collects.firstConflict?_eq_none known]
    exact ⟨fun compatible => ⟨known, single, schemaless, compatible⟩, Consistent.compatible⟩

end Collects

/-! ## Resolving -/

section Resolving

variable {definition : TypeDef} {directives : List Directive}

theorem leastPair_eq_none {pairs : List (String × String)} :
    leastPair pairs = none ↔ pairs = [] := by
  cases pairs with
  | nil => simp [leastPair]
  | cons pair rest =>
      simp only [leastPair, reduceCtorEq, iff_false]
      split
      · simp
      · split <;> simp

/-- An unknown name is listed with the label of every effect that a fact gives it. -/
theorem mem_unknownNames {name label : String} :
    (name, label) ∈ unknownNames definition directives ↔
      name ∉ definition.fieldNames ∧
        ∃ effect, .field name effect ∈ Fact.ofDirectives directives ∧ effect.label = label := by
  have ofDirective : ∀ directive : Directive,
      (name ∈ directive.fieldNames ∧ directive.label = label) ↔
        ∃ effect, .field name effect ∈ directive.facts ∧ effect.label = label := by
    intro directive
    cases directive <;>
      simp [Directive.fieldNames, Directive.facts, Directive.label, Effect.label]
  have isUnknown : ∀ other, (definition.field? other).isNone = true ↔
      other ∉ definition.fieldNames := by
    simp [TypeDef.field?, TypeDef.fieldNames]
  simp only [unknownNames, Fact.ofDirectives, List.mem_flatMap, List.mem_map, List.mem_filter,
    Prod.mk.injEq, isUnknown]
  constructor
  · rintro ⟨directive, member, other, ⟨named, unknown⟩, rfl, labelled⟩
    obtain ⟨effect, said, isLabel⟩ := (ofDirective directive).mp ⟨named, labelled⟩
    exact ⟨unknown, effect, ⟨directive, member, said⟩, isLabel⟩
  · rintro ⟨unknown, effect, ⟨directive, member, said⟩, isLabel⟩
    obtain ⟨named, labelled⟩ := (ofDirective directive).mpr ⟨effect, said, isLabel⟩
    exact ⟨directive, member, name, ⟨named, unknown⟩, rfl, labelled⟩

/-- No name is unknown exactly when the type has every field that a fact is about. -/
theorem unknownNames_eq_nil :
    unknownNames definition directives = [] ↔
      ∀ name effect, .field name effect ∈ Fact.ofDirectives directives →
        name ∈ definition.fieldNames := by
  rw [List.eq_nil_iff_forall_not_mem]
  constructor
  · intro none name effect member
    by_contra unknown
    exact none (name, effect.label) (mem_unknownNames.mpr ⟨unknown, effect, member, rfl⟩)
  · rintro known ⟨name, label⟩ member
    obtain ⟨unknown, effect, said, _⟩ := mem_unknownNames.mp member
    exact unknown (known name effect said)

theorem resolve_of_unknown {name label : String}
    (least : leastPair (unknownNames definition directives) = some (name, label)) :
    resolve definition directives = .error (.unknownField name label) := by
  simp [resolve, least]

/-- Once every name is known, the facts are put into a table, which is checked at the end. -/
theorem resolve_of_known (known : unknownNames definition directives = []) :
    resolve definition directives =
      (empty.putAll (Fact.ofDirectives directives) >>= fun table =>
        Results.refuseFor (table.fault? definition) table) := by
  have noLeast : leastPair (unknownNames definition directives) = none :=
    leastPair_eq_none.mpr known
  simp only [resolve, noLeast, applyAll_eq]
  congr
  funext table
  unfold fault?
  split
  next => rfl
  next => cases table.firstConflict? definition <;> rfl

/-- Directives resolve to a table exactly when their facts on known fields are collected in
it and it has no fault. -/
theorem resolve_eq_ok {table : DirectiveTable} :
    resolve definition directives = .ok table ↔
      unknownNames definition directives = [] ∧
        empty.putAll (Fact.ofDirectives directives) = .ok table ∧
        table.fault? definition = none := by
  cases least : leastPair (unknownNames definition directives) with
  | some pair =>
      obtain ⟨name, label⟩ := pair
      have unknown : unknownNames definition directives ≠ [] := by
        intro known
        rw [leastPair_eq_none.mpr known] at least
        cases least
      simp [resolve_of_unknown least, unknown]
  | none =>
      have known := leastPair_eq_none.mp least
      rw [resolve_of_known known, Results.bind_eq_ok]
      simp only [Results.refuseFor_eq_ok, known, true_and]
      constructor
      · rintro ⟨middle, collected, faultless, rfl⟩
        exact ⟨collected, faultless⟩
      · rintro ⟨collected, faultless⟩
        exact ⟨table, collected, faultless, rfl⟩

theorem resolve_collects {table : DirectiveTable}
    (resolved : resolve definition directives = .ok table) :
    table.Collects (Fact.ofDirectives directives) :=
  collects_of_putAll (resolve_eq_ok.mp resolved).2.1

theorem exists_resolve_iff :
    (∃ table, resolve definition directives = .ok table) ↔
      Consistent definition (Fact.ofDirectives directives) := by
  constructor
  · rintro ⟨table, resolved⟩
    obtain ⟨allKnown, collected, faultless⟩ := resolve_eq_ok.mp resolved
    have known := unknownNames_eq_nil.mp allKnown
    exact ((collects_of_putAll collected).fault?_eq_none known).mp faultless
  · intro consistent
    have allKnown := unknownNames_eq_nil.mpr consistent.known
    obtain ⟨table, collected⟩ :=
      exists_putAll_iff.mpr (singleValued_iff.mp consistent.singleValued)
    have faultless :=
      ((collects_of_putAll collected).fault?_eq_none consistent.known).mpr consistent
    exact ⟨table, resolve_eq_ok.mpr ⟨allKnown, collected, faultless⟩⟩

end Resolving

end DirectiveTable

/-! ## Directives that say the same -/

/-- Two lists of directives say the same facts. -/
def SameFacts (left right : List Directive) : Prop :=
  ∀ fact, fact ∈ Fact.ofDirectives left ↔ fact ∈ Fact.ofDirectives right

/-- Ways to say the same otherwise: in another order, with a directive repeated, with a list
of names split in two. -/
inductive Rephrased : List Directive → List Directive → Prop where
  | permuted {left right : List Directive} (permutation : left.Perm right) : Rephrased left right
  | repeated {directive : Directive} {directives : List Directive}
      (member : directive ∈ directives) :
      Rephrased directives (directive :: directives)
  | splitMark (kind : Mark) (front back : List String) (rest : List Directive) :
      Rephrased (.mark kind (front ++ back) :: rest)
        (.mark kind front :: .mark kind back :: rest)
  | splitFieldVersion (revision : UInt32) (front back : List String) (rest : List Directive) :
      Rephrased (.fieldVersion revision (front ++ back) :: rest)
        (.fieldVersion revision front :: .fieldVersion revision back :: rest)

theorem SameFacts.of_perm {left right : List Directive} (permutation : left.Perm right) :
    SameFacts left right :=
  fun _ => (permutation.flatMap_right Directive.facts).mem_iff

private theorem Rephrased.sameFacts
    {left right : List Directive}
    (rephrased : Rephrased left right) :
    SameFacts left right := by
  cases rephrased with
  | permuted permutation => exact .of_perm permutation
  | @repeated directive _ member =>
      intro fact
      have said : fact ∈ directive.facts → fact ∈ Fact.ofDirectives left := fun inside =>
        List.mem_flatMap.mpr ⟨directive, member, inside⟩
      simpa [Fact.ofDirectives] using said
  | splitMark kind front back rest =>
      intro fact
      simp [Fact.ofDirectives, Directive.facts]
  | splitFieldVersion revision front back rest =>
      intro fact
      simp [Fact.ofDirectives, Directive.facts]

private theorem SameFacts.of_eqvGen {left right : List Directive}
    (rephrased : Relation.EqvGen Rephrased left right) :
    SameFacts left right := by
  induction rephrased with
  | rel _ _ once => exact once.sameFacts
  | refl _ => exact fun _ => Iff.rfl
  | symm _ _ _ inductionHypothesis => exact fun fact => (inductionHypothesis fact).symm
  | trans _ _ _ _ _ first second => exact fun fact => (first fact).trans (second fact)

namespace DirectiveTable

/-- Both results are tables that tell the same, or neither is a table. -/
def Agree : Except ConfigurationIssue DirectiveTable →
    Except ConfigurationIssue DirectiveTable → Prop
  | .ok left, .ok right => left.Alike right
  | .error _, .error _ => True
  | _, _ => False

/-- Directives that say the same resolve to tables that tell the same, or neither resolve. -/
theorem agree_of_sameFacts (definition : TypeDef) {left right : List Directive}
    (same : SameFacts left right) :
    Agree (resolve definition left) (resolve definition right) := by
  cases leftOutcome : resolve definition left with
  | ok table =>
      have consistent := exists_resolve_iff.mp ⟨table, leftOutcome⟩
      obtain ⟨other, rightOutcome⟩ := exists_resolve_iff.mpr (consistent.congr same)
      rw [rightOutcome]
      exact (resolve_collects leftOutcome).alike (resolve_collects rightOutcome) same
  | error issue =>
      cases rightOutcome : resolve definition right with
      | error other => trivial
      | ok table =>
          have consistent := exists_resolve_iff.mp ⟨table, rightOutcome⟩
          obtain ⟨other, resolved⟩ :=
            exists_resolve_iff.mpr (consistent.congr fun fact => (same fact).symm)
          rw [leftOutcome] at resolved
          cases resolved

/-- Directives resolve exactly when their facts are consistent, and then to a table that
tells just these facts. So the outcome depends on the set of facts: it stays under any order
and repetition of directives and any grouping of names into lists. -/
theorem resolve_tells_facts (definition : TypeDef) (directives : List Directive) :
    ((∃ table, resolve definition directives = .ok table) ↔
      Consistent definition (Fact.ofDirectives directives)) ∧
    (∀ table, resolve definition directives = .ok table →
      table.Reflects (Fact.ofDirectives directives)) ∧
    (∀ others, SameFacts directives others →
      Agree (resolve definition directives) (resolve definition others)) ∧
    (∀ others, Relation.EqvGen Rephrased directives others →
      Agree (resolve definition directives) (resolve definition others)) := by
  refine ⟨exists_resolve_iff, ?_, ?_, ?_⟩
  · intro table resolved
    exact (resolve_collects resolved).reflects
  · intro others same
    exact agree_of_sameFacts definition same
  · intro others rephrased
    exact agree_of_sameFacts definition (.of_eqvGen rephrased)

end DirectiveTable

/-! ## A type at hand -/

namespace Clusters

/-- A type with a name, a key and a revision. -/
def cluster : TypeDef :=
  { name := "Cluster"
    package := "resources"
    description := none
    fields :=
      [⟨"Name", .scalar (.plain .string), none, none⟩,
        ⟨"Key", .pointer (.scalar (.plain .string)), none, none⟩,
        ⟨"Revision", .scalar (.plain .int), none, none⟩] }

def directives : List Directive :=
  [.version 2, .mark .required ["Name", "Key"], .fieldVersion 3 ["Key"],
    .mark .sensitive ["Key"], .rename "Name" "Title", .mark .computedOnly ["Revision"]]

/-- The same facts, with names grouped otherwise, repeats and another order. -/
def regrouped : List Directive :=
  [.mark .required ["Key"], .rename "Name" "Title", .mark .exclude [], .version 2,
    .mark .sensitive ["Key"], .mark .required ["Name", "Key"], .fieldVersion 3 ["Key", "Key"],
    .mark .computedOnly ["Revision"], .version 2]

end Clusters

theorem DirectiveTable.resolve_tells_facts_regrouped :
    SameFacts Clusters.directives Clusters.regrouped ∧
    ∃ table other, resolve Clusters.cluster Clusters.directives = .ok table ∧
      resolve Clusters.cluster Clusters.regrouped = .ok other ∧
      table.Reflects (Fact.ofDirectives Clusters.directives) ∧ table.Alike other := by
  have same : SameFacts Clusters.directives Clusters.regrouped := by
    have left : ∀ fact ∈ Fact.ofDirectives Clusters.directives,
        fact ∈ Fact.ofDirectives Clusters.regrouped := by decide
    have right : ∀ fact ∈ Fact.ofDirectives Clusters.regrouped,
        fact ∈ Fact.ofDirectives Clusters.directives := by decide
    exact fun fact => ⟨left fact, right fact⟩
  obtain ⟨_, reflects, agrees, _⟩ := resolve_tells_facts Clusters.cluster Clusters.directives
  have resolves : (resolve Clusters.cluster Clusters.directives).toOption.isSome = true := by
    decide +kernel
  have agree := agrees Clusters.regrouped same
  refine ⟨same, ?_⟩
  cases outcome : resolve Clusters.cluster Clusters.directives with
  | error issue => simp [outcome, Except.toOption] at resolves
  | ok table =>
      cases otherOutcome : resolve Clusters.cluster Clusters.regrouped with
      | error issue => simp [outcome, otherOutcome, Agree] at agree
      | ok other =>
          rw [outcome, otherOutcome] at agree
          exact ⟨table, other, rfl, rfl, reflects table outcome, agree⟩

end BlockSchema
