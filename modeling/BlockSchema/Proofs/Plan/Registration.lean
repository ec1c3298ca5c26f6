import BlockSchema.Plan.Format
import BlockSchema.Proofs.Directive.Order
import BlockSchema.Proofs.Document.Records

/-!
Contract: a registration that was read resolves to what is written in it.

A registration gives its directives by kind, so two of them can give one slot two values only
where a map has one key twice. No map that is read has. So the table tells the parts of the
registration one by one, or the error is the same whatever order its directives are in.
-/

set_option autoImplicit false

namespace BlockSchema

open DirectiveTable (resolve)

namespace RegistrationRecord

variable {record : RegistrationRecord}

/-! ## What a registration says -/

/-- What a registration says, part by part. -/
def Says (record : RegistrationRecord) : Fact → Prop
  | .field name (.mark kind) => name ∈ record.names kind
  | .field name (.rename external) => (name, external) ∈ record.rename
  | .field name (.version revision) => (name, revision) ∈ record.fieldVersions
  | .version revision => record.version = some revision
  | .noSchema => record.noSchema = true
  | .doc wrapper => record.doc = some wrapper

/-- The marks of a registration are those of its lists; a list without names gives none. -/
theorem mem_markFacts {fact : Fact} :
    fact ∈ (Mark.all.filterMap record.markDirective?).flatMap Directive.facts ↔
      ∃ kind, ∃ name ∈ record.names kind, fact = .field name (.mark kind) := by
  simp only [List.mem_flatMap, List.mem_filterMap, Mark.mem_all, true_and]
  constructor
  · rintro ⟨directive, ⟨kind, given⟩, said⟩
    unfold markDirective? at given
    split at given
    next => cases given
    next =>
      obtain rfl := Option.some.inj given
      obtain ⟨name, named, rfl⟩ := List.mem_map.mp said
      exact ⟨kind, name, named, rfl⟩
  · rintro ⟨kind, name, named, rfl⟩
    have isListed : (record.names kind).isEmpty ≠ true := by
      simpa using List.ne_nil_of_mem named
    exact ⟨_, ⟨kind, if_neg isListed⟩, List.mem_map_of_mem named⟩

/-- The directives of a registration say what the registration says. -/
theorem mem_facts {fact : Fact} :
    fact ∈ Fact.ofDirectives record.directives ↔ record.Says fact := by
  simp only [Fact.ofDirectives, directives, List.flatMap_append, List.mem_append, mem_markFacts]
  cases fact with
  | field name effect => cases effect <;> simp [Says, Directive.facts, List.mem_flatMap]
  | version revision => simp [Says, Directive.facts, List.mem_flatMap]
  | noSchema => simp [Says, Directive.facts, List.mem_flatMap]
  | doc wrapper => simp [Says, Directive.facts, List.mem_flatMap]

/-! ## Registrations that are read -/

/-- The maps of a registration have no key twice. -/
structure Distinct (record : RegistrationRecord) : Prop where
  rename : record.rename.keys.Nodup
  fieldVersions : record.fieldVersions.keys.Nodup

private theorem keeps_distinct (dialect : Dialect) :
    (RegistrationRecord.record dialect).Keeps Distinct := by
  intro field member path tree value next ⟨renames, revisions⟩ isRead
  simp only [RegistrationRecord.record, List.mem_cons, List.not_mem_nil, or_false] at member
  rcases member with
    rfl | rfl | rfl | rfl | rfl | rfl | rfl | rfl | rfl | rfl | rfl | rfl | rfl
  all_goals
    obtain ⟨given, isGiven, same⟩ := Results.bind_eq_ok.mp isRead
    obtain rfl := Except.ok.inj same
  -- Two of the parts are maps; the others leave the maps as they are.
  all_goals try exact ⟨renames, revisions⟩
  · exact ⟨Tree.nodup_keys_of_readMap isGiven, revisions⟩
  · exact ⟨renames, Tree.nodup_keys_of_readMap isGiven⟩

private theorem distinct_of_read
    {dialect : Dialect}
    {path : Path}
    {tree : Tree}
    (isRead : (RegistrationRecord.record dialect).read dialect path tree = .ok record) :
    record.Distinct :=
  (keeps_distinct dialect).read ⟨List.nodup_nil, List.nodup_nil⟩ isRead

namespace Distinct

private theorem mem_iff_get?
    {α : Type}
    {entries : Entries α}
    (distinct : entries.keys.Nodup)
    {name : String}
    {value : α} :
    (name, value) ∈ entries ↔ entries.get? name = some value :=
  ⟨Entries.get?_of_mem distinct, Entries.mem_of_get?⟩

/-- A registration without repeated keys gives no slot two values. -/
theorem singleValued (distinct : record.Distinct) :
    SingleValued (Fact.ofDirectives record.directives) where
  version first second saysFirst saysSecond := by
    rw [mem_facts] at saysFirst saysSecond
    exact Option.some.inj (saysFirst.symm.trans saysSecond)
  rename name first second saysFirst saysSecond := by
    rw [mem_facts, Says, mem_iff_get? distinct.rename] at saysFirst saysSecond
    exact Option.some.inj (saysFirst.symm.trans saysSecond)
  fieldVersion name first second saysFirst saysSecond := by
    rw [mem_facts, Says, mem_iff_get? distinct.fieldVersions] at saysFirst saysSecond
    exact Option.some.inj (saysFirst.symm.trans saysSecond)
  doc first second saysFirst saysSecond := by
    rw [mem_facts] at saysFirst saysSecond
    exact Option.some.inj (saysFirst.symm.trans saysSecond)

end Distinct

/-! ## Tables -/

/-- A table tells what is written in a registration, and no more. -/
structure ToldBy (record : RegistrationRecord) (table : DirectiveTable) : Prop where
  marks : ∀ kind name, (table.effectsOn name).has kind = true ↔ name ∈ record.names kind
  rename : ∀ name, (table.effectsOn name).rename = record.rename.get? name
  fieldVersion : ∀ name, (table.effectsOn name).version = record.fieldVersions.get? name
  version : table.version = record.version.getD 0
  noSchema : table.noSchema = record.noSchema
  doc : table.doc = record.doc

private theorem Distinct.toldBy
    (distinct : record.Distinct)
    {table : DirectiveTable}
    (collects : table.Collects (Fact.ofDirectives record.directives)) :
    record.ToldBy table := by
  have holds : ∀ fact, table.Holds fact ↔ record.Says fact := fun fact =>
    (collects.holds fact).trans mem_facts
  have sameRevision : table.revision = record.version :=
    Option.ext fun revision => holds (.version revision)
  refine ⟨fun kind name => holds (.field name (.mark kind)), fun name => ?rename,
    fun name => ?fieldVersion, by rw [DirectiveTable.version, sameRevision],
    Bool.eq_iff_iff.mpr (holds .noSchema), Option.ext fun wrapper => holds (.doc wrapper)⟩
  case rename =>
    refine Option.ext fun external => ?_
    rw [← Distinct.mem_iff_get? distinct.rename]
    exact holds (.field name (.rename external))
  case fieldVersion =>
    refine Option.ext fun revision => ?_
    rw [← Distinct.mem_iff_get? distinct.fieldVersions]
    exact holds (.field name (.version revision))

/-- The directives of a registration that was read are never refused for conflicting values.
When they resolve, the table tells what is written in the registration; when they do not, they
fail with the same issue in every order. -/
theorem resolve_as_written
    {dialect : Dialect}
    {path : Path}
    {tree : Tree}
    (isRead : (RegistrationRecord.record dialect).read dialect path tree = .ok record)
    (definition : TypeDef) :
    (∀ directive first second, resolve definition record.toRegistration.directives ≠
      .error (.conflictingValues directive first second)) ∧
    (∀ table, resolve definition record.toRegistration.directives = .ok table →
      record.ToldBy table) ∧
    (∀ issue, resolve definition record.toRegistration.directives = .error issue →
      ∀ others, record.toRegistration.directives.Perm others →
        resolve definition others = .error issue) := by
  have distinct := distinct_of_read isRead
  refine ⟨DirectiveTable.resolve_ne_conflictingValues distinct.singleValued, ?_, ?_⟩
  · intro table resolved
    exact distinct.toldBy (DirectiveTable.resolve_collects resolved)
  · intro issue fails others permutation
    have same : SameFacts record.directives others := .of_perm permutation
    exact DirectiveTable.resolve_error_of_singleValued distinct.singleValued same fails

end RegistrationRecord

/-! ## Registrations at hand -/

namespace Clusters

/-- A registration of clusters, with some more parts. -/
def registered (more : List (String × Document)) : Document :=
  .object
    ([("type", .text "resources.Cluster"),
      ("required", .list [.text "Name"]),
      ("rename", .object [("Name", .text "Title"), ("Key", .text "Secret")])] ++ more)

/-- Revisions of the type and of a field. -/
def revised : Document :=
  registered [("version", .nat 2), ("field_versions", .object [("Key", .nat 3)])]

/-- Two fields that are required may be null as well. -/
def opposed : Document :=
  registered [("nullable", .list [.text "Key", .text "Name"])]

end Clusters

open Clusters in
/-- A registration with revisions is told by its table; one whose name is required and may be
null has the same conflict in every order. -/
theorem RegistrationRecord.resolve_as_written_clusters :
    (∃ record table, (RegistrationRecord.record .yaml).read .yaml [] revised.toTree = .ok record ∧
      record.rename.get? "Key" = some "Secret" ∧
      resolve cluster record.toRegistration.directives = .ok table ∧ record.ToldBy table) ∧
    ∃ record, (RegistrationRecord.record .yaml).read .yaml [] opposed.toTree = .ok record ∧
      ∀ others, record.toRegistration.directives.Perm others →
        resolve cluster others = .error (.conflict "Name" "required" "nullable") := by
  have isRevised : ((RegistrationRecord.record .yaml).read .yaml [] revised.toTree).toOption.any
      (fun record => record.rename.get? "Key" = some "Secret" ∧
        (resolve cluster record.toRegistration.directives).toOption.isSome = true) = true := by
    decide +kernel
  have isOpposed : ((RegistrationRecord.record .yaml).read .yaml [] opposed.toTree).toOption.any
      (fun record => resolve cluster record.toRegistration.directives =
        .error (.conflict "Name" "required" "nullable")) = true := by decide +kernel
  obtain ⟨record, isRead, decided⟩ := Results.exists_of_any isRevised
  obtain ⟨renamed, resolves⟩ := of_decide_eq_true decided
  obtain ⟨other, isReadOther, decidedOther⟩ := Results.exists_of_any isOpposed
  obtain ⟨_, tells, _⟩ := resolve_as_written isRead cluster
  obtain ⟨_, _, unordered⟩ := resolve_as_written isReadOther cluster
  refine ⟨?_, other, isReadOther, unordered _ (of_decide_eq_true decidedOther)⟩
  cases outcome : resolve cluster record.toRegistration.directives with
  | ok table => exact ⟨record, table, isRead, renamed, outcome, tells table outcome⟩
  | error issue => simp [outcome, Except.toOption] at resolves

end BlockSchema
