import BlockSchema.Proofs.Graph.Failures
import BlockSchema.Proofs.Group.Registry
import BlockSchema.Proofs.Manifest.References

/-!
Contract: what compiling a group says of types without a definition.

A compilation fails for a table, for a type that cannot be built or for a field that would not
survive a round trip. The tables come first and there is none for a type without a definition.
So every walk starts at defined types, and where the references of the manifest were checked
it meets no others.
-/

set_option autoImplicit false

namespace BlockSchema

variable {manifest : Manifest} {group : GroupPlan} {error : CompileError}

/-! ## Errors of conversions -/

/-- An error about a field that would not survive a round trip. -/
def CompileError.IsRoundTrip (error : CompileError) : Prop :=
  ∃ site fault, error = .roundTrip site fault

namespace Conversion

private theorem deriveField_failsOnly
    (owner : TypeId)
    (field : FieldNode TypeNode)
    (below : ∀ inner, field.shape.nested? = some inner →
      (derive inner).FailsOnly CompileError.IsRoundTrip) :
    (deriveField owner field).FailsOnly CompileError.IsRoundTrip := by
  have checked : ∀ error, field.checkRoundTrip owner = .error error → error.IsRoundTrip := by
    intro error failed
    unfold FieldNode.checkRoundTrip at failed
    split at failed
    next fault _ => exact ⟨_, fault, (Except.error.inj failed).symm⟩
    next => cases failed
  rw [deriveField_eq]
  refine .bind (.ofExcept checked) fun _ => .bind ?_ fun nested => .pure _
  obtain ⟨declared, external, ⟨arity, target⟩, effects, version, description⟩ := field
  cases target with
  | scalar type => exact .pure _
  | struct inner => exact .bind (below inner rfl) fun conversion => .pure _

private theorem derive_failsOnly (node : TypeNode) :
    (derive node).FailsOnly CompileError.IsRoundTrip := by
  induction node using TypeNode.induction with
  | step node inductionHypothesis =>
      rw [derive_eq]
      refine .once (.bind (.each fun field member => ?_) fun entries => .pure _)
      exact deriveField_failsOnly node.id field fun inner isNested =>
        inductionHypothesis inner (TypeNode.mem_nested.mpr ⟨field, member, isNested⟩)

private theorem deriveGroup_failsOnly (graph : TypeGraph) (roots : List TypeNode) :
    (deriveGroup graph roots).FailsOnly CompileError.IsRoundTrip :=
  .bind (.each fun node _ => derive_failsOnly node) fun _ =>
    .each fun root _ => derive_failsOnly root

end Conversion

/-! ## Errors of tables -/

namespace Registry

variable {name : String} {registry : Registry}

private theorem tableOf_eq_error
    {registration : Registration}
    (failed : Registry.tableOf manifest name registry registration = .error error) :
    ∃ issue, error = .configuration registration.typeId issue := by
  unfold Registry.tableOf at failed
  dsimp only at failed
  split at failed
  next => exact ⟨_, (Except.error.inj failed).symm⟩
  next =>
    split at failed
    next => exact ⟨_, (Except.error.inj failed).symm⟩
    next =>
      split at failed
      next => exact ⟨_, (Except.error.inj failed).symm⟩
      next => cases failed

/-- The error of a registry is about one of the registrations. -/
theorem extend_eq_error
    {registrations : List Registration}
    (failed : Registry.extend manifest name registry registrations = .error error) :
    ∃ registration ∈ registrations, ∃ issue, error = .configuration registration.typeId issue := by
  induction registrations generalizing registry with
  | nil => cases failed
  | cons registration rest inductionHypothesis =>
      rw [Registry.extend] at failed
      cases made : Registry.tableOf manifest name registry registration with
      | ok table =>
          rw [made] at failed
          obtain ⟨other, member, reported⟩ := inductionHypothesis failed
          exact ⟨other, List.mem_cons_of_mem registration member, reported⟩
      | error own =>
          rw [made] at failed
          obtain rfl : own = error := Except.error.inj failed
          exact ⟨registration, List.mem_cons_self, tableOf_eq_error made⟩

private theorem extend_append (left right : List Registration) :
    Registry.extend manifest name registry (left ++ right) =
      Registry.extend manifest name registry left >>= fun next =>
        Registry.extend manifest name next right := by
  induction left generalizing registry with
  | nil => rfl
  | cons registration rest inductionHypothesis =>
      rw [List.cons_append, Registry.extend, Registry.extend, bind_assoc]
      exact bind_congr fun table => inductionHypothesis

/-- Every type that has a table is defined. -/
theorem get?_of_resolved
    (resolved : Registry.ofGroup manifest group = .ok registry)
    {id : TypeId}
    (isRegistered : id ∈ registry.ids) :
    ∃ definition, manifest.get? id = some definition := by
  obtain ⟨entry, member, rfl⟩ := List.mem_map.mp isRegistered
  obtain ⟨registration, _, _, definition, found, _⟩ :=
    Results.exists_of_mem_right (Registry.ofGroup_eq_ok.mp resolved).2 member
  exact ⟨definition, found⟩

/-- A registration of a type that is not defined is reported, unless there is an error in an
earlier one. -/
theorem ofGroup_of_undefined
    {earlier later : List Registration}
    {registration : Registration}
    (place : group.types = earlier ++ registration :: later)
    (missing : manifest.get? registration.typeId = none) :
    Registry.ofGroup manifest group =
      Registry.ofGroup manifest { group with types := earlier } >>= fun _ =>
        .error (.configuration registration.typeId (.unknownType group.name)) := by
  have whole : Registry.ofGroup manifest group =
      Registry.ofGroup manifest { group with types := earlier } >>= fun next =>
        Registry.extend manifest group.name next (registration :: later) := by
    rw [Registry.ofGroup, place, extend_append]
    rfl
  rw [whole]
  cases before : Registry.ofGroup manifest { group with types := earlier } with
  | error error => rfl
  | ok registry =>
      -- A type that is registered is defined, so this one is not refused as a duplicate.
      have isNew : registry.registers registration.typeId = false := by
        rw [← Bool.not_eq_true, registers_iff]
        intro isRegistered
        obtain ⟨definition, found⟩ := get?_of_resolved before isRegistered
        rw [missing] at found
        cases found
      have refused : Registry.tableOf manifest group.name registry registration =
          .error (.configuration registration.typeId (.unknownType group.name)) := by
        simp [Registry.tableOf, isNew, missing]
      change Registry.extend manifest group.name registry (registration :: later) = _
      rw [Registry.extend, refused]
      rfl

end Registry

/-! ## Errors of groups -/

namespace GroupPlan

private theorem compile_of_unresolved (failed : Registry.ofGroup manifest group = .error error) :
    group.compile manifest = .error error := by
  rw [compile, failed]
  rfl

/-- A group fails for a table, for a registered type that cannot be built, or for a field that
would not survive a round trip. -/
theorem compile_eq_error (failed : group.compile manifest = .error error) :
    Registry.ofGroup manifest group = .error error ∨
      (∃ registry, Registry.ofGroup manifest group = .ok registry ∧
        ∃ id ∈ registry.ids, BuildFails manifest registry [] id error) ∨
      error.IsRoundTrip := by
  cases resolved : Registry.ofGroup manifest group with
  | error own =>
      obtain rfl : own = error :=
        Except.error.inj ((compile_of_unresolved resolved).symm.trans failed)
      exact .inl rfl
  | ok registry =>
      refine .inr ?_
      have ofWalk := @walkAll_failsOnly manifest registry registry.ids []
      rw [compile, resolved] at failed
      simp only [bind, Except.bind] at failed
      generalize walkAll manifest registry registry.ids [] = outcome at failed ofWalk
      obtain ⟨result, nodes⟩ := outcome
      cases result with
      | error own =>
          obtain rfl : own = error := Except.error.inj failed
          exact .inl ⟨registry, rfl, ofWalk own rfl⟩
      | ok roots =>
          have ofConversions := Conversion.deriveGroup_failsOnly ⟨nodes⟩ roots []
          simp only at failed
          generalize Conversion.deriveGroup ⟨nodes⟩ roots [] = outcome at failed ofConversions
          obtain ⟨result, conversions⟩ := outcome
          cases result with
          | error own =>
              obtain rfl : own = error := Except.error.inj failed
              exact .inr (ofConversions own rfl)
          | ok ofRoots => cases failed

/-- Where the references of a manifest were checked, no type turns out to be undefined. -/
theorem compile_ne_undefinedType
    (checked : manifest.checkReferences = .ok ())
    (site : Site) :
    group.compile manifest ≠ .error (.unsupportedShape site .undefinedType) := by
  intro failed
  rcases compile_eq_error failed with ofTable | ⟨registry, resolved, id, isRegistered, fails⟩ |
    ⟨_, _, impossible⟩
  · obtain ⟨_, _, _, impossible⟩ := Registry.extend_eq_error ofTable
    cases impossible
  · obtain ⟨type, path, missing⟩ := fails.exists_undefined rfl
    obtain ⟨definition, found⟩ := Manifest.get?_of_reaches checked
      (Registry.get?_of_resolved resolved isRegistered) path
    rw [missing] at found
    cases found
  · cases impossible

/-- An error for a registration comes from its table, so before any walk: its type is not
defined, or an earlier registration is faulty. -/
inductive Reports (manifest : Manifest) (group : GroupPlan) (earlier : List Registration)
    (registration : Registration) : CompileError → Prop where
  | unknown {registry : Registry}
      (resolved : Registry.ofGroup manifest { group with types := earlier } = .ok registry) :
      Reports manifest group earlier registration
        (.configuration registration.typeId (.unknownType group.name))
  | before {other : Registration} {issue : ConfigurationIssue}
      (member : other ∈ earlier)
      (failed : Registry.ofGroup manifest { group with types := earlier } =
        .error (.configuration other.typeId issue)) :
      Reports manifest group earlier registration (.configuration other.typeId issue)

private theorem exists_reports
    {earlier later : List Registration}
    {registration : Registration}
    (place : group.types = earlier ++ registration :: later)
    (missing : manifest.get? registration.typeId = none) :
    ∃ error, Registry.ofGroup manifest group = .error error ∧
      Reports manifest group earlier registration error := by
  rw [Registry.ofGroup_of_undefined place missing]
  cases before : Registry.ofGroup manifest { group with types := earlier } with
  | ok registry => exact ⟨_, rfl, .unknown before⟩
  | error error =>
      obtain ⟨other, member, issue, rfl⟩ := Registry.extend_eq_error before
      exact ⟨_, rfl, .before member before⟩

end GroupPlan

/-! ## Types without a definition -/

/-- No compilation over a manifest whose references were checked ends at a type without a
definition. A registered type without one is reported before any walk, unless an earlier
registration is. The check fails exactly when some field mentions a type without a definition,
at any depth, and it reports the first such field. -/
theorem GroupPlan.compile_answered (manifest : Manifest) :
    (manifest.checkReferences = .ok () → ∀ (group : GroupPlan) (site : Site),
      group.compile manifest ≠ .error (.unsupportedShape site .undefinedType)) ∧
    (∀ (group : GroupPlan) earlier registration later,
      group.types = earlier ++ registration :: later →
      manifest.get? registration.typeId = none →
      ∃ error, Registry.ofGroup manifest group = .error error ∧
        group.compile manifest = .error error ∧
        Reports manifest group earlier registration error) ∧
    ((∃ error, manifest.checkReferences = .error error) ↔
      ∃ definition ∈ manifest.types, ∃ field ∈ definition.fields, ∃ id,
        field.shape.Mentions id ∧ manifest.get? id = none) ∧
    ∀ error, manifest.checkReferences = .error error ↔ manifest.FirstOpen error := by
  refine ⟨fun checked group site => compile_ne_undefinedType checked site, ?reported,
    Manifest.checkReferences_fails_iff, fun error => Manifest.checkReferences_eq_error⟩
  case reported =>
    intro group earlier registration later place missing
    obtain ⟨error, failed, reports⟩ := exists_reports place missing
    exact ⟨error, failed, compile_of_unresolved failed, reports⟩

/-! ## A desk -/

namespace Tickets

/-- Tickets name their watchers, and the events of their history in a shape that no field can
have. -/
def ticket : TypeDef :=
  { name := "Ticket"
    package := "desk"
    description := none
    fields :=
      [⟨"Watchers", .list (.struct (.ofParts "desk" "User")), none, none⟩,
        ⟨"History", .pointer (.pointer (.struct (.ofParts "desk" "Event"))), none, none⟩] }

def user : TypeDef :=
  { name := "User"
    package := "desk"
    description := none
    fields := [⟨"Name", .scalar (.plain .string), none, none⟩] }

def event : TypeDef :=
  { name := "Event"
    package := "desk"
    description := none
    fields := [⟨"Title", .scalar (.plain .string), none, none⟩] }

def model : Manifest :=
  ⟨[ticket, user, event], by decide, by decide⟩

/-- The model without its events. -/
def eventless : Manifest :=
  ⟨[user, ticket], by decide, by decide⟩

/-- Tickets are registered without their history, and events after them. -/
def desk : GroupPlan :=
  { name := "desk"
    docs := none
    readOnly := false
    types := [⟨ticket.id, [.mark .exclude ["History"]]⟩, ⟨event.id, []⟩] }

end Tickets

open Tickets in
/-- The references of the whole model are in order. Without events, the group that registers
them is refused, and the check finds them in the history that the group excludes. -/
theorem GroupPlan.compile_answered_tickets :
    (∀ site, desk.compile model ≠ .error (.unsupportedShape site .undefinedType)) ∧
    desk.compile eventless = .error (.configuration event.id (.unknownType "desk")) ∧
    eventless.checkReferences =
      .error (.unsupportedShape (.field ticket.id "History") (.danglingReference event.id)) := by
  have checked : model.checkReferences = .ok () := by decide +kernel
  have missing : eventless.get? event.id = none := by decide +kernel
  have resolvable : (Registry.ofGroup eventless
      { desk with types := desk.types.take 1 }).toOption.isSome = true := by decide +kernel
  obtain ⟨_, reported, _, firstOpen⟩ := GroupPlan.compile_answered eventless
  refine ⟨(GroupPlan.compile_answered model).1 checked desk, ?_, (firstOpen _).mpr ?_⟩
  · obtain ⟨error, _, refused, reports⟩ :=
      reported desk (desk.types.take 1) ⟨event.id, []⟩ [] rfl missing
    cases reports with
    | unknown _ => exact refused
    | before _ failed =>
        rw [failed] at resolvable
        cases resolvable
  · have ofUser : ∀ field ∈ user.fields, eventless.dangling? user.id field = none := by
      decide +kernel
    have ofWatchers : ∀ field ∈ ticket.fields.take 1,
        eventless.dangling? ticket.id field = none := by
      decide +kernel
    refine ⟨[user], ticket, [], rfl, fun other member field declared => ?_,
      ticket.fields.take 1, _, [], rfl, fun field earlier => ?_,
      event.id, .pointer (.pointer .struct), missing, rfl⟩
    · obtain rfl := List.mem_singleton.mp member
      exact Manifest.dangling?_eq_none.mp (ofUser field declared)
    · exact Manifest.dangling?_eq_none.mp (ofWatchers field earlier)

end BlockSchema
