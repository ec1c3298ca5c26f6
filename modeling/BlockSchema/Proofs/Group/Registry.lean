import BlockSchema.Proofs.Group.Closure
import Mathlib.Data.List.Perm.Basic

/-!
Contract: the tables of a group, and what depends on them.

A group's tables are resolved one registration at a time, and only a type that is registered
twice lets one registration see another. So the same registrations in another order give the
same tables in that order. Building a type looks its tables up and does nothing else with a
registry, so registries with equal look-ups build equal nodes.
-/

set_option autoImplicit false

namespace BlockSchema

variable {manifest : Manifest} {group : GroupPlan}

/-! ## Registrations and their tables -/

/-- An entry of a registry is the type of a registration with the table of its directives. -/
def Registration.Gives
    (manifest : Manifest)
    (registration : Registration)
    (entry : TypeId × DirectiveTable) :
    Prop :=
  registration.typeId = entry.1 ∧
    ∃ definition, manifest.get? entry.1 = some definition ∧
      DirectiveTable.resolve definition registration.directives = .ok entry.2

namespace Registry

variable {name : String} {registry later : Registry}

private theorem tableOf_eq_ok {registration : Registration} {table : DirectiveTable} :
    Registry.tableOf manifest name registry registration = .ok table ↔
      registration.typeId ∉ registry.ids ∧
        registration.Gives manifest (registration.typeId, table) := by
  simp only [Registry.tableOf, Registration.Gives, ← registers_iff, true_and]
  cases registry.registers registration.typeId with
  | true => simp
  | false =>
      cases manifest.get? registration.typeId with
      | none => simp
      | some definition =>
          cases resolved : DirectiveTable.resolve definition registration.directives with
          | error issue => simp [resolved]
          | ok other => simp [resolved]

/-- Registrations extend a registry when their types are new and each of them gives an
entry by itself. -/
theorem extend_eq_ok {registrations : List Registration} :
    Registry.extend manifest name registry registrations = .ok later ↔
      (∀ registration ∈ registrations, registration.typeId ∉ registry.ids) ∧
        (registrations.map Registration.typeId).Nodup ∧
          ∃ added, registry ++ added = later ∧
            List.Forall₂ (Registration.Gives manifest) registrations added := by
  induction registrations generalizing registry with
  | nil => simp [Registry.extend]
  | cons registration rest inductionHypothesis =>
      rw [Registry.extend, Results.bind_eq_ok, List.forall_mem_cons, List.map_cons,
        List.nodup_cons]
      simp only [inductionHypothesis, tableOf_eq_ok, List.forall₂_cons_left_iff]
      have idsConcat : ∀ table, Registry.ids (registry ++ [(registration.typeId, table)]) =
          registry.ids ++ [registration.typeId] := fun table => by simp [ids]
      constructor
      · rintro ⟨table, ⟨isNew, gives⟩, apart, distinct, added, rfl, pairwise⟩
        refine ⟨⟨isNew, fun other member inside => ?_⟩, ⟨fun inside => ?_, distinct⟩,
          (registration.typeId, table) :: added, by simp, _, added, gives, pairwise, rfl⟩
        · refine apart other member ?_
          rw [idsConcat]
          exact List.mem_append_left _ inside
        · obtain ⟨other, member, same⟩ := List.mem_map.mp inside
          refine apart other member ?_
          rw [idsConcat, same]
          simp
      · rintro ⟨⟨isNew, apart⟩, ⟨first, distinct⟩, _, rfl, entry, added, gives, pairwise, rfl⟩
        obtain ⟨type, table⟩ := entry
        obtain rfl : registration.typeId = type := gives.1
        refine ⟨table, ⟨isNew, gives⟩, fun other member inside => ?_, distinct, added, by simp,
          pairwise⟩
        rw [idsConcat] at inside
        rcases List.mem_append.mp inside with earlier | isFirst
        · exact apart other member earlier
        · exact first (List.mem_singleton.mp isFirst ▸ List.mem_map_of_mem member)

/-- The tables of a group are resolved when no type is registered twice and each registration
gives an entry. -/
theorem ofGroup_eq_ok :
    Registry.ofGroup manifest group = .ok registry ↔
      (group.types.map Registration.typeId).Nodup ∧
        List.Forall₂ (Registration.Gives manifest) group.types registry := by
  rw [Registry.ofGroup, extend_eq_ok]
  simp [ids]

/-- The registrations in another order give their tables in that order. -/
theorem ofGroup_perm
    {types : List Registration}
    (permuted : group.types.Perm types)
    (resolved : Registry.ofGroup manifest group = .ok registry) :
    ∃ other, Registry.ofGroup manifest { group with types := types } = .ok other ∧
      registry.Perm other := by
  obtain ⟨distinct, pairwise⟩ := ofGroup_eq_ok.mp resolved
  obtain ⟨other, others, reordered⟩ := List.perm_comp_forall₂ permuted.symm pairwise
  refine ⟨other, ofGroup_eq_ok.mpr ⟨?_, others⟩, reordered.symm⟩
  exact (permuted.map Registration.typeId).nodup_iff.mp distinct

theorem nodup_ids (resolved : Registry.ofGroup manifest group = .ok registry) :
    registry.ids.Nodup := by
  rw [ofGroup_ids resolved]
  exact (ofGroup_eq_ok.mp resolved).1

/-! ## Looking tables up -/

theorem lookup_eq_some
    (distinct : registry.ids.Nodup)
    {id : TypeId}
    {table : DirectiveTable} :
    registry.lookup id = some table ↔ (id, table) ∈ registry := by
  induction registry with
  | nil => simp
  | cons entry rest inductionHypothesis =>
      obtain ⟨type, first⟩ := entry
      obtain ⟨isNew, distinctRest⟩ := List.nodup_cons.mp distinct
      rw [List.lookup_cons, List.mem_cons, Prod.mk.injEq]
      by_cases same : id = type
      · have absent : (type, table) ∉ rest := fun member =>
          isNew (List.mem_map.mpr ⟨_, member, rfl⟩)
        simp [same, absent, eq_comm]
      · simp [same, beq_eq_false_iff_ne.mpr same, inductionHypothesis distinctRest]

theorem table_of_mem
    (distinct : registry.ids.Nodup)
    {type : TypeId}
    {table : DirectiveTable}
    (member : (type, table) ∈ registry) :
    registry.table type = table := by
  rw [Registry.table, (lookup_eq_some distinct).mpr member]
  rfl

/-- The order of the entries does not show when no type has two. -/
theorem lookup_perm
    (permuted : registry.Perm later)
    (distinct : registry.ids.Nodup)
    (id : TypeId) :
    registry.lookup id = later.lookup id := by
  have distinctLater : later.ids.Nodup := (permuted.map Prod.fst).nodup_iff.mp distinct
  refine Option.ext fun table => ?_
  rw [lookup_eq_some distinct, lookup_eq_some distinctLater]
  exact permuted.mem_iff

end Registry

/-! ## Registries with equal look-ups -/

section Lookups

variable {left right : Registry}

private theorem Registry.table_congr (same : ∀ id, left.lookup id = right.lookup id) :
    left.table = right.table := by
  funext id
  rw [Registry.table, same id, Registry.table]

private theorem TypeDef.outline_congr
    (same : ∀ id, left.lookup id = right.lookup id)
    (definition : TypeDef) :
    definition.outline left = definition.outline right := by
  rw [TypeDef.outline, TypeDef.outline, Registry.table_congr same]

private theorem TypeDef.node_congr
    (same : ∀ id, left.lookup id = right.lookup id)
    (definition : TypeDef) :
    definition.node left = definition.node right := by
  funext fields
  simp only [TypeDef.node, Registry.table_congr same, Registry.registers, same]

theorem Refers.congr (same : ∀ id, left.lookup id = right.lookup id) :
    Refers manifest left = Refers manifest right := by
  funext outer inner
  simp only [Refers, Manifest.included?, Registry.table_congr same]

/-- A type is built alike below every stack. -/
theorem TypeNode.rebuild_congr
    (same : ∀ id, left.lookup id = right.lookup id)
    (stack : List TypeId)
    (id : TypeId) :
    TypeNode.rebuild manifest left stack id = TypeNode.rebuild manifest right stack id := by
  by_cases inside : id ∈ stack
  · rw [TypeNode.rebuild_of_mem inside, TypeNode.rebuild_of_mem inside]
  · cases found : manifest.get? id with
    | none =>
        rw [TypeNode.rebuild_of_undefined inside found, TypeNode.rebuild_of_undefined inside found]
    | some definition =>
        have shorter := Manifest.free_length_lt inside found
        have below : TypeNode.rebuild manifest left (stack ++ [id]) =
            TypeNode.rebuild manifest right (stack ++ [id]) := by
          funext inner
          exact TypeNode.rebuild_congr same (stack ++ [id]) inner
        rw [TypeNode.rebuild_of_defined inside found, TypeNode.rebuild_of_defined inside found,
          below, TypeDef.rebuild, TypeDef.rebuild, TypeDef.outline_congr same,
          TypeDef.node_congr same]
termination_by (manifest.free stack).length

end Lookups

end BlockSchema
