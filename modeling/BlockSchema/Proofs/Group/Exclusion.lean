import BlockSchema.Proofs.Graph.Exclusion
import BlockSchema.Proofs.Group.Registry
import BlockSchema.Proofs.Group.Supply

/-!
Contract: groups that exclude one field more.

A field that no directive names can be excluded from a registered type besides what the
directives say. The group then compiles as it did: what is asked of a group is asked of its
fields and references, and there are fewer of them. Its nodes are those that there were, with
the changed node in them.
-/

set_option autoImplicit false

namespace BlockSchema

variable {manifest : Manifest} {registry : Registry} {group : GroupPlan}

/-! ## Conversions -/

namespace Registry.Excluding

variable {type : TypeId} {name : String} {later : Registry}

private theorem hasField
    (excluding : registry.Excluding type name later)
    {id : TypeId}
    {field : FieldDef}
    {effects : FieldEffects}
    (has : HasField manifest later id field effects) :
    HasField manifest registry id field effects := by
  obtain ⟨fields, found, member, rfl⟩ := has
  obtain ⟨before, foundBefore, memberBefore, apart⟩ :=
    excluding.mem_included?_iff.mp ⟨fields, found, member⟩
  refine ⟨before, foundBefore, memberBefore, ?_⟩
  by_cases same : id = type
  · subst same
    exact (excluding.own.others field.name (apart rfl)).symm
  · rw [excluding.others id same]

/-- What could be converted can be converted still. -/
theorem convertible
    (excluding : registry.Excluding type name later)
    {id : TypeId}
    (convertible : Convertible manifest registry id) :
    Convertible manifest later id where
  nullable field effects has := convertible.nullable field effects (excluding.hasField has)
  supplied := by
    rintro inner ⟨field, effects, has, computes⟩ ⟨required, others, hasRequired, isRequired⟩
    exact convertible.supplied inner ⟨field, effects, excluding.hasField has, computes⟩
      ⟨required, others, excluding.hasField hasRequired, isRequired⟩

/-- A group over the registry compiles when one did over the registry before. -/
theorem exists_compile
    (excluding : registry.Excluding type name later)
    {other : GroupPlan}
    (resolved : Registry.ofGroup manifest group = .ok registry)
    (resolvedLater : Registry.ofGroup manifest other = .ok later)
    (sameIds : later.ids = registry.ids)
    {compiled : CompiledGroup}
    (accepted : group.compile manifest = .ok compiled) :
    ∃ narrowed, other.compile manifest = .ok narrowed := by
  have eachType := (GroupPlan.compiles_iff resolved).mp ⟨compiled, accepted⟩
  refine (GroupPlan.compiles_iff resolvedLater).mpr fun id isAsked => ?_
  obtain ⟨acceptable, convertible⟩ :=
    TypeNode.exists_converted_iff.mp (eachType id (sameIds ▸ isAsked))
  refine TypeNode.exists_converted_iff.mpr ⟨excluding.acceptable acceptable, fun other path => ?_⟩
  exact excluding.convertible
    (convertible other (Relation.ReflTransGen.mono excluding.refers _ _ path))

end Registry.Excluding

/-! ## Registrations -/

/-- A registration of a type with a schema, of which it leaves a declared field as it is. -/
structure Registration.Leaves
    (manifest : Manifest)
    (definition : TypeDef)
    (name : String)
    (registration : Registration) :
    Prop where
  found : manifest.get? registration.typeId = some definition
  declared : name ∈ definition.fieldNames
  hasSchema : .noSchema ∉ registration.directives
  unnamed : ∀ directive ∈ registration.directives, name ∉ directive.fieldNames

namespace Registry

/-- A registry with another table in one place, which excludes a field more. -/
theorem excluding_of_split
    {front back : Registry}
    {type : TypeId}
    {name : String}
    {table later : DirectiveTable}
    (distinct : (Registry.ids (front ++ (type, table) :: back)).Nodup)
    (excluding : table.Excluding name later) :
    Registry.Excluding type name (front ++ (type, table) :: back)
      (front ++ (type, later) :: back) := by
  have sameIds : Registry.ids (front ++ (type, later) :: back) =
      Registry.ids (front ++ (type, table) :: back) := by simp [ids]
  have distinctLater : (Registry.ids (front ++ (type, later) :: back)).Nodup := sameIds ▸ distinct
  refine ⟨fun id => ?_, fun id apart => ?_, ?_⟩
  · rw [Bool.eq_iff_iff, registers_iff, registers_iff, sameIds]
  · have sameLookup : List.lookup id (front ++ (type, later) :: back) =
        List.lookup id (front ++ (type, table) :: back) := by
      refine Option.ext fun other => ?_
      rw [lookup_eq_some distinct, lookup_eq_some distinctLater]
      simp [apart]
    rw [Registry.table, Registry.table, sameLookup]
  · rw [table_of_mem distinct List.mem_append_cons_self,
      table_of_mem distinctLater List.mem_append_cons_self]
    exact excluding

/-- A field that a registration leaves as it is can be excluded by it. -/
theorem exists_excluding
    {front back : List Registration}
    {registration : Registration}
    {definition : TypeDef}
    {name : String}
    {others : List Directive}
    (resolved : Registry.ofGroup manifest group = .ok registry)
    (registered : group.types = front ++ registration :: back)
    (leaves : registration.Leaves manifest definition name)
    (also : AlsoExclude name registration.directives others) :
    ∃ later,
      Registry.ofGroup manifest
        { group with types := front ++ { registration with directives := others } :: back } =
          .ok later ∧
      later.ids = registry.ids ∧ registry.Excluding registration.typeId name later := by
  obtain ⟨distinct, pairwise⟩ := ofGroup_eq_ok.mp resolved
  have distinctIds := nodup_ids resolved
  rw [registered] at distinct pairwise
  obtain ⟨first, entry, last, rfl, fronts, gives, backs⟩ :=
    Results.exists_split_of_forall₂ pairwise
  obtain ⟨type, table⟩ := entry
  obtain ⟨rfl, _, found, resolvedTable⟩ := gives
  obtain rfl := Option.some.inj (leaves.found.symm.trans found)
  obtain ⟨later, resolvedLater, excluding⟩ := DirectiveTable.exists_resolve_excluding also
    leaves.declared leaves.hasSchema leaves.unnamed resolvedTable
  refine ⟨first ++ (registration.typeId, later) :: last, ofGroup_eq_ok.mpr ⟨?_, ?_⟩, ?_,
    excluding_of_split distinctIds excluding⟩
  · simpa using distinct
  · exact List.rel_append fronts (.cons ⟨rfl, definition, found, resolvedLater⟩ backs)
  · simp [ids]

end Registry

/-! ## Graphs -/

namespace CompiledGroup

section Graphs

variable
  {type : TypeId}
  {name : String}
  {later : Registry}
  {other : GroupPlan}
  {roots laterRoots : List TypeNode}
  {ofRoots ofLaterRoots : List Conversion}
  {compiled narrowed : CompiledGroup}

/-- The types that are left are those that registered types reach beside the field. -/
theorem Steps.reached_beside
    (steps : narrowed.Steps manifest other later laterRoots ofLaterRoots)
    (excluding : registry.Excluding type name later)
    (id : TypeId) :
    id ∈ narrowed.graph.ids ↔
      ∃ root ∈ later.ids,
        Relation.ReflTransGen (RefersBeside manifest registry type name) root id := by
  have sameRefers : Refers manifest later = RefersBeside manifest registry type name :=
    funext fun _ => funext fun _ => propext excluding.refers_iff
  rw [← sameRefers]
  exact walkAll_reaches steps.walked id

/-- Where the same types are registered, they are the roots of what is left. -/
theorem Steps.reached_registered
    (steps : narrowed.Steps manifest other later laterRoots ofLaterRoots)
    (excluding : registry.Excluding type name later)
    (resolved : Registry.ofGroup manifest group = .ok registry)
    (sameIds : later.ids = registry.ids)
    (id : TypeId) :
    id ∈ narrowed.graph.ids ↔
      ∃ registration ∈ group.types,
        Relation.ReflTransGen (RefersBeside manifest registry type name)
          registration.typeId id := by
  rw [steps.reached_beside excluding id, sameIds, Registry.ofGroup_ids resolved]
  simp

/-- A group has nodes for types of another group alone, and they are the nodes of that group
with one node put in them. -/
structure Narrows
    (new : TypeNode)
    (compiled narrowed : CompiledGroup) :
    Prop where
  kept : ∀ id ∈ narrowed.graph.ids, id ∈ compiled.graph.ids
  replaced : ∀ node ∈ compiled.graph.nodes, ∀ after ∈ narrowed.graph.nodes,
    after.id = node.id → after = node.replacing new

theorem Steps.narrows
    (steps : compiled.Steps manifest group registry roots ofRoots)
    (stepsLater : narrowed.Steps manifest other later laterRoots ofLaterRoots)
    (excluding : registry.Excluding type name later)
    (sameIds : later.ids = registry.ids)
    {definition : TypeDef}
    (found : manifest.get? type = some definition)
    {own : TypeNode}
    (isOwn : own ∈ compiled.graph.nodes)
    (named : own.id = type) :
    compiled.Narrows (own.without definition name) narrowed where
  kept id inside := by
    obtain ⟨root, isRoot, path⟩ := (stepsLater.reached_beside excluding id).mp inside
    refine (walkAll_reaches steps.walked id).mpr ⟨root, sameIds ▸ isRoot, ?_⟩
    exact Relation.ReflTransGen.mono (fun _ _ beside => beside.refers) _ _ path
  replaced node member after memberAfter sameId :=
    excluding.eq_replacing steps.derives.built stepsLater.derives.built found isOwn named member
      memberAfter sameId

end Graphs

namespace Narrows

variable {new : TypeNode} {compiled narrowed : CompiledGroup}

private theorem mem_nodes_iff (narrows : compiled.Narrows new narrowed) {after : TypeNode} :
    after ∈ narrowed.graph.nodes ↔
      ∃ node ∈ compiled.graph.nodes, node.id ∈ narrowed.graph.ids ∧
        node.replacing new = after := by
  constructor
  · intro member
    have inside : after.id ∈ narrowed.graph.ids := List.mem_map_of_mem member
    obtain ⟨node, isNode, sameId⟩ := List.mem_map.mp (narrows.kept after.id inside)
    have isChanged := narrows.replaced node isNode after member sameId.symm
    exact ⟨node, isNode, sameId ▸ inside, isChanged.symm⟩
  · rintro ⟨node, isNode, inside, rfl⟩
    obtain ⟨after, member, sameId⟩ := List.mem_map.mp inside
    exact narrows.replaced node isNode after member sameId ▸ member

/-- What is made of the nodes changes with them. -/
theorem made_iff
    (narrows : compiled.Narrows new narrowed)
    {α : Type}
    {make : TypeNode → α}
    {typeOf : α → TypeId}
    {change : α → α}
    (typed : ∀ node, typeOf (make node) = node.id)
    (changed : ∀ node ∈ compiled.graph.nodes, make (node.replacing new) = change (make node))
    {value : α} :
    (∃ after ∈ narrowed.graph.nodes, make after = value) ↔
      ∃ before, (∃ node ∈ compiled.graph.nodes, make node = before) ∧
        typeOf before ∈ narrowed.graph.ids ∧ change before = value := by
  constructor
  · rintro ⟨after, member, rfl⟩
    obtain ⟨node, isNode, inside, rfl⟩ := narrows.mem_nodes_iff.mp member
    exact ⟨make node, ⟨node, isNode, rfl⟩, (typed node).symm ▸ inside, (changed node isNode).symm⟩
  · rintro ⟨_, ⟨node, isNode, rfl⟩, inside, rfl⟩
    rw [typed] at inside
    exact ⟨_, narrows.mem_nodes_iff.mpr ⟨node, isNode, inside, rfl⟩, changed node isNode⟩

theorem get?_eq
    (narrows : compiled.Narrows new narrowed)
    {later : Registry}
    (derived : compiled.Derived manifest registry)
    (derivedLater : narrowed.Derived manifest later)
    {id : TypeId}
    (inside : id ∈ narrowed.graph.ids) :
    narrowed.graph.get? id = (compiled.graph.get? id).map fun node => node.replacing new := by
  obtain ⟨after, member, rfl⟩ := List.mem_map.mp inside
  obtain ⟨node, isNode, _, rfl⟩ := narrows.mem_nodes_iff.mp member
  have foundLater : narrowed.graph.get? (node.replacing new).id = some (node.replacing new) :=
    derivedLater.built.get?_eq member
  have found : compiled.graph.get? (node.replacing new).id = some node := by
    rw [TypeNode.replacing_id]
    exact derived.built.get?_eq isNode
  rw [foundLater, found, Option.map_some]

end Narrows

end CompiledGroup

end BlockSchema
