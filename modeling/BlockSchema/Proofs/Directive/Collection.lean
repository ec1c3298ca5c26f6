import BlockSchema.Proofs.Directive.Facts
import BlockSchema.Proofs.Entries

/-!
Contract: what a table holds once directives are applied to it.

`putAll` puts facts one by one, and applying directives is that. The invariant is `Collects`:
a table holds the facts put so far and no others, lists each field once and lists no field
without an effect. It makes the table, up to the order of its fields, a function of the set
of facts.
-/

set_option autoImplicit false

namespace BlockSchema

namespace DirectiveTable

/-- A fact is among those of a table. -/
def Holds (table : DirectiveTable) : Fact → Prop
  | .field name effect => (table.effectsOn name).Holds effect
  | .version revision => table.revision = some revision
  | .noSchema => table.noSchema = true
  | .doc wrapper => table.doc = some wrapper

def put (table : DirectiveTable) : Fact → DirectiveTable
  | .field name effect => table.update name (·.put effect)
  | .version revision => { table with revision := some revision }
  | .noSchema => { table with noSchema := true }
  | .doc wrapper => { table with doc := some wrapper }

/-- The issue with a fact beside those of a table. -/
def dispute? (table : DirectiveTable) : Fact → Option ConfigurationIssue
  | .field name effect => (table.effectsOn name).dispute? effect
  | .version revision => table.revision.bind ((Slot.revision "version").dispute? · revision)
  | .noSchema => none
  | .doc wrapper => table.doc.bind (Slot.wrapper.dispute? · wrapper)

/-- Puts facts in order, up to the first that disputes one put before. -/
def putAll (table : DirectiveTable) : List Fact → Except ConfigurationIssue DirectiveTable
  | [] => .ok table
  | fact :: rest =>
      match table.dispute? fact with
      | some issue => .error issue
      | none => (table.put fact).putAll rest

section Putting

variable {table : DirectiveTable} {fact : Fact}

private theorem putAll_cons_of_dispute {issue : ConfigurationIssue} (rest : List Fact)
    (disputed : table.dispute? fact = some issue) :
    table.putAll (fact :: rest) = .error issue := by
  simp [putAll, disputed]

private theorem putAll_cons_of_undisputed
    (rest : List Fact)
    (undisputed : table.dispute? fact = none) :
    table.putAll (fact :: rest) = (table.put fact).putAll rest := by
  simp [putAll, undisputed]

theorem putAll_append (table : DirectiveTable) (front back : List Fact) :
    table.putAll (front ++ back) = (table.putAll front).bind fun later => later.putAll back := by
  induction front generalizing table with
  | nil => rfl
  | cons fact rest inductionHypothesis =>
      rw [List.cons_append]
      cases disputed : table.dispute? fact with
      | some issue =>
          rw [putAll_cons_of_dispute _ disputed, putAll_cons_of_dispute _ disputed]
          rfl
      | none =>
          rw [putAll_cons_of_undisputed _ disputed, putAll_cons_of_undisputed _ disputed]
          exact inductionHypothesis _

end Putting

/-! ## Applying directives -/

private theorem apply_mark (kind : Mark) (names : List String) (table : DirectiveTable) :
    table.apply (.mark kind names) = table.putAll (Directive.facts (.mark kind names)) := by
  induction names generalizing table with
  | nil => rfl
  | cons name rest inductionHypothesis =>
      have undisputed : table.dispute? (.field name (.mark kind)) = none := rfl
      rw [Directive.facts, List.map_cons, putAll_cons_of_undisputed _ undisputed]
      exact inductionHypothesis _

private theorem applyFieldVersion_eq
    (revision : UInt32)
    (names : List String)
    (table : DirectiveTable) :
    table.applyFieldVersion revision names =
      table.putAll (Directive.facts (.fieldVersion revision names)) := by
  induction names generalizing table with
  | nil => rfl
  | cons name rest inductionHypothesis =>
      have opened := Slot.bind_settle (.revision "field_version")
        (table.effectsOn name).version revision fun slot =>
          applyFieldVersion revision
            (table.update name fun effects => { effects with version := slot }) rest
      refine opened.trans ?_
      simp only [inductionHypothesis]
      rfl

/-- The slot of wrappers is the one that directives settle. It is opened by name here, as
comparing what its fields compute is far more work. -/
theorem settle_wrapper (held : Option DocWrapper) (value : DocWrapper) :
    settle "doc" wrapperText wrapperBefore held value =
      settle Slot.wrapper.directive Slot.wrapper.text Slot.wrapper.before held value := by
  simp only [Slot.wrapper]

/-- Applying a directive is putting its facts. -/
theorem apply_eq (table : DirectiveTable) (directive : Directive) :
    table.apply directive = table.putAll directive.facts := by
  cases directive with
  | mark kind names => exact apply_mark kind names table
  | rename declared name =>
      exact Slot.bind_settle .name (table.effectsOn declared).rename name fun slot =>
        .ok (table.update declared fun effects => { effects with rename := slot })
  | version revision =>
      exact Slot.bind_settle (.revision "version") table.revision revision fun slot =>
        .ok { table with revision := slot }
  | fieldVersion revision names => exact applyFieldVersion_eq revision names table
  | noSchema => rfl
  | doc wrapper =>
      rw [apply, settle_wrapper]
      exact Slot.bind_settle .wrapper table.doc wrapper fun slot =>
        .ok { table with doc := slot }

theorem applyAll_eq (directives : List Directive) (table : DirectiveTable) :
    table.applyAll directives = table.putAll (Fact.ofDirectives directives) := by
  induction directives generalizing table with
  | nil => rfl
  | cons directive rest inductionHypothesis =>
      rw [applyAll, apply_eq, Fact.ofDirectives, List.flatMap_cons, putAll_append]
      congr
      funext later
      exact inductionHypothesis later

/-! ## Facts held -/

section Holding

variable {table : DirectiveTable} {fact : Fact}

private theorem effectsOn_update
    (name other : String)
    (change : FieldEffects → FieldEffects) :
    (table.update name change).effectsOn other =
      if name = other then change (table.effectsOn name) else table.effectsOn other := by
  simp only [effectsOn, field?, update, Entries.get?_insert]
  split <;> rfl

private theorem not_holds_empty (fact : Fact) : ¬ empty.Holds fact := by
  cases fact with
  | field name effect => exact FieldEffects.not_holds_none effect
  | version revision => simp [Holds, empty]
  | noSchema => simp [Holds, empty]
  | doc wrapper => simp [Holds, empty]

theorem version_eq_of_holds
    {left right : DirectiveTable}
    (same : ∀ revision, left.Holds (.version revision) ↔ right.Holds (.version revision)) :
    left.version = right.version := by
  have sameRevision : left.revision = right.revision := Option.ext same
  rw [version, version, sameRevision]

private theorem dispute?_eq_some {issue : ConfigurationIssue} :
    table.dispute? fact = some issue ↔
      ∃ held, table.Holds held ∧ held.dispute? fact = some issue := by
  constructor
  · intro found
    cases fact with
    | noSchema => cases found
    | field name effect =>
        obtain ⟨held, holds, disputed⟩ := FieldEffects.dispute?_eq_some.mp found
        exact ⟨.field name held, holds, by simpa [Fact.dispute?] using disputed⟩
    | version revision =>
        obtain ⟨existing, there, disputed⟩ := Option.bind_eq_some_iff.mp found
        exact ⟨.version existing, there, disputed⟩
    | doc wrapper =>
        obtain ⟨existing, there, disputed⟩ := Option.bind_eq_some_iff.mp found
        exact ⟨.doc existing, there, disputed⟩
  · rintro ⟨held, holds, disputed⟩
    cases held <;> cases fact <;> try cases disputed
    case field.field existing held name effect =>
      by_cases same : existing = name
      · simp only [Fact.dispute?, same, if_true] at disputed
        exact FieldEffects.dispute?_eq_some.mpr ⟨held, same ▸ holds, disputed⟩
      · simp [Fact.dispute?, same] at disputed
    case version.version => exact Option.bind_eq_some_iff.mpr ⟨_, holds, disputed⟩
    case doc.doc => exact Option.bind_eq_some_iff.mpr ⟨_, holds, disputed⟩

/-- No two facts of a table dispute each other. -/
theorem Holds.dispute?_eq_none {first second : Fact}
    (holdsFirst : table.Holds first)
    (holdsSecond : table.Holds second) :
    first.dispute? second = none := by
  cases first <;> cases second <;> try rfl
  case field.field name effect other otherEffect =>
    by_cases same : name = other
    · subst same
      simpa [Fact.dispute?] using FieldEffects.Holds.dispute?_eq_none holdsFirst holdsSecond
    · simp [Fact.dispute?, same]
  case version.version =>
    exact Slot.dispute?_eq_none.mpr (Option.some.inj (holdsFirst.symm.trans holdsSecond))
  case doc.doc =>
    exact Slot.dispute?_eq_none.mpr (Option.some.inj (holdsFirst.symm.trans holdsSecond))

/-- Putting a fact that disputes none adds it to those of the table. -/
theorem holds_put (undisputed : table.dispute? fact = none) (other : Fact) :
    (table.put fact).Holds other ↔ other = fact ∨ table.Holds other := by
  cases fact with
  | field name effect =>
      cases other with
      | field otherName otherEffect =>
          simp only [Holds, put, effectsOn_update, Fact.field.injEq]
          by_cases same : name = otherName
          · subst same
            simpa using FieldEffects.holds_put undisputed otherEffect
          · simp [same, Ne.symm same]
      | version revision => simp [Holds, put, update]
      | noSchema => simp [Holds, put, update]
      | doc wrapper => simp [Holds, put, update]
  | version revision =>
      cases other with
      | version otherRevision => simpa [Holds, put] using Slot.some_eq_iff undisputed
      | field name effect => simp [Holds, put, effectsOn, field?]
      | noSchema => simp [Holds, put]
      | doc wrapper => simp [Holds, put]
  | noSchema =>
      cases other with
      | noSchema => simp [Holds, put]
      | field name effect => simp [Holds, put, effectsOn, field?]
      | version revision => simp [Holds, put]
      | doc wrapper => simp [Holds, put]
  | doc wrapper =>
      cases other with
      | doc otherWrapper => simpa [Holds, put] using Slot.some_eq_iff undisputed
      | field name effect => simp [Holds, put, effectsOn, field?]
      | version revision => simp [Holds, put]
      | noSchema => simp [Holds, put]

end Holding

/-! ## Collecting -/

/-- A table that holds the facts of a list and no others, with every field listed once and
for some effect. -/
structure Collects (table : DirectiveTable) (facts : List Fact) : Prop where
  holds : ∀ fact, table.Holds fact ↔ fact ∈ facts
  distinct : table.effects.keys.Nodup
  effective : ∀ entry ∈ table.effects, ∃ effect, entry.2.Holds effect

namespace Collects

variable {table : DirectiveTable} {facts : List Fact}

private theorem nothing : empty.Collects [] where
  holds fact := by simpa using not_holds_empty fact
  distinct := by simp [empty, Entries.keys]
  effective := by simp [empty]

/-- One more fact that disputes none is collected. -/
theorem put
    (collects : table.Collects facts)
    {fact : Fact}
    (undisputed : table.dispute? fact = none) :
    (table.put fact).Collects (facts ++ [fact]) := by
  have holds : ∀ other, (table.put fact).Holds other ↔ other ∈ facts ++ [fact] := by
    intro other
    rw [holds_put undisputed, collects.holds, List.mem_append, List.mem_singleton, or_comm]
  cases fact with
  | field name effect =>
      refine ⟨holds, Entries.nodup_keys_insert collects.distinct _ _, fun entry member => ?_⟩
      rcases Entries.mem_of_mem_insert member with rfl | earlier
      · exact ⟨effect, (FieldEffects.holds_put undisputed effect).mpr (.inl rfl)⟩
      · exact collects.effective entry earlier
  | version revision => exact ⟨holds, collects.distinct, collects.effective⟩
  | noSchema => exact ⟨holds, collects.distinct, collects.effective⟩
  | doc wrapper => exact ⟨holds, collects.distinct, collects.effective⟩

/-- What is put after the facts of a table is collected with them, or else two of all these
facts dispute each other. -/
theorem putAll
    (collects : table.Collects facts)
    (more : List Fact) :
    (∀ later, table.putAll more = .ok later → later.Collects (facts ++ more)) ∧
      ∀ issue, table.putAll more = .error issue → Disputed (facts ++ more) issue := by
  induction more generalizing table facts with
  | nil =>
      constructor
      · intro later equal
        obtain rfl := Except.ok.inj equal
        simpa using collects
      · intro issue impossible
        cases impossible
  | cons fact rest inductionHypothesis =>
      cases disputed : table.dispute? fact with
      | some issue =>
          rw [putAll_cons_of_dispute _ disputed]
          constructor
          · intro later impossible
            cases impossible
          · intro other equal
            obtain rfl := Except.error.inj equal
            obtain ⟨held, holds, isDispute⟩ := dispute?_eq_some.mp disputed
            have inside : held ∈ facts := (collects.holds held).mp holds
            exact ⟨held, by simp [inside], fact, by simp, isDispute⟩
      | none =>
          rw [putAll_cons_of_undisputed _ disputed, List.append_cons]
          exact inductionHypothesis (collects.put disputed)

/-- No two collected facts dispute each other. -/
theorem undisputed (collects : table.Collects facts) (issue : ConfigurationIssue) :
    ¬ Disputed facts issue := by
  rintro ⟨first, firstMember, second, secondMember, disputed⟩
  have agree := Holds.dispute?_eq_none ((collects.holds first).mpr firstMember)
    ((collects.holds second).mpr secondMember)
  rw [agree] at disputed
  cases disputed

end Collects

theorem collects_of_putAll {facts : List Fact} {table : DirectiveTable}
    (collected : empty.putAll facts = .ok table) :
    table.Collects facts :=
  (Collects.nothing.putAll facts).1 table collected

theorem disputed_of_putAll {facts : List Fact} {issue : ConfigurationIssue}
    (refused : empty.putAll facts = .error issue) :
    Disputed facts issue :=
  (Collects.nothing.putAll facts).2 issue refused

/-- Facts are collected exactly when no two of them dispute each other. -/
theorem exists_putAll_iff {facts : List Fact} :
    (∃ table, empty.putAll facts = .ok table) ↔ ∀ issue, ¬ Disputed facts issue := by
  constructor
  · rintro ⟨table, collected⟩
    exact (collects_of_putAll collected).undisputed
  · intro undisputed
    cases outcome : empty.putAll facts with
    | ok table => exact ⟨table, rfl⟩
    | error issue => exact absurd (disputed_of_putAll outcome) (undisputed issue)

end DirectiveTable

end BlockSchema
