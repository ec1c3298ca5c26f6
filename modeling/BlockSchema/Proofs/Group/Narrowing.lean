import BlockSchema.Proofs.Conversion.Replacement
import BlockSchema.Proofs.Group.Exclusion
import BlockSchema.Proofs.Group.Order
import BlockSchema.Proofs.Schema.Replacement

/-!
Contract: excluding a field is a local change.

In the group that excludes it, the type of the field is what it was without the field: its
node, its schema, its conversion and its section. Every other type that is still reached is
what it was around the changed type, and a type is lost only when no way to it is left.
-/

set_option autoImplicit false

namespace BlockSchema

variable {manifest : Manifest} {registry : Registry} {group : GroupPlan}

/-! ## What a group becomes -/

/-- What the root of a type is without a field of the type. -/
structure CompiledType.Without
    (definition : TypeDef)
    (field : FieldNode TypeNode)
    (schema : Schema)
    (before after : CompiledType) :
    Prop where
  node : after.node = before.node.without definition field.declared
  conversion : after.conversion = before.conversion.without definition field.declared
  schema : after.schema = some (schema.without field.external)
  wrapper : after.doc.map DocPage.wrapper = before.doc.map DocPage.wrapper
  docSection : after.doc.map DocPage.root =
    before.doc.map fun page => page.root.without field.external

/-- A root made of a node without a field is the root made of the node, without the field. -/
theorem TypeNode.compiled_without
    {own : TypeNode}
    {field : FieldNode TypeNode}
    (lists : own.Lists field)
    (hasSchema : own.noSchema = false)
    (definition : TypeDef)
    (readOnly : Bool) :
    CompiledType.Without definition field (own.schema readOnly) (own.compiled readOnly)
      ((own.without definition field.declared).compiled readOnly) := by
  have kept : (own.without definition field.declared).noSchema = false := hasSchema
  have sameSchema := TypeNode.schema_without lists definition readOnly
  refine
    { node := rfl
      conversion := own.conversion_without definition field.declared
      schema := ?_
      wrapper := ?_
      docSection := ?_ }
  · rw [TypeNode.compiled, kept, sameSchema]
    rfl
  · rw [TypeNode.compiled, TypeNode.compiled, Option.map_map, Option.map_map]
    rfl
  · rw [TypeNode.compiled, TypeNode.compiled, Option.map_map, Option.map_map, sameSchema]
    refine congrArg (Option.map · own.doc) (funext fun wrapper => ?_)
    exact DocSection.ofSchema_without field.external (own.schema readOnly)

/-- What a root becomes around a type that loses a field: its node and its conversion embed
those that the type has then, and so do its schema and its page. -/
structure CompiledType.Narrowed
    (definition : TypeDef)
    (field : FieldNode TypeNode)
    (own : CompiledType)
    (schema : Schema)
    (before after : CompiledType) :
    Prop where
  node : after.node = before.node.replacing (own.node.without definition field.declared)
  conversion : after.conversion =
    before.conversion.replacing (own.conversion.without definition field.declared)
  schema : after.schema =
    before.schema.map fun outer => outer.replacing (schema.without field.external)
  wrapper : after.doc.map DocPage.wrapper = before.doc.map DocPage.wrapper
  docSection : after.doc.map DocPage.root =
    before.doc.map fun page => page.root.withoutOf definition.id field.external

/-- A root made of a node becomes the root made of the changed node. -/
theorem TypeNode.compiled_narrowed
    {node own : TypeNode}
    (isOwn : node.id = own.id → node = own)
    {field : FieldNode TypeNode}
    (lists : own.Lists field)
    {definition : TypeDef}
    (named : own.id = definition.id)
    (readOnly : Bool) :
    CompiledType.Narrowed definition field (own.compiled readOnly) (own.schema readOnly)
      (node.compiled readOnly)
      ((node.replacing (own.without definition field.declared)).compiled readOnly) := by
  have kept : (node.replacing (own.without definition field.declared)).noSchema = node.noSchema ∧
      (node.replacing (own.without definition field.declared)).doc = node.doc := by
    by_cases same : node.id = own.id
    · obtain rfl := isOwn same
      rw [TypeNode.replacing_without_self]
      exact ⟨rfl, rfl⟩
    · have apart : node.id ≠ (own.without definition field.declared).id := same
      rw [TypeNode.replacing_of_id_ne apart]
      exact ⟨rfl, rfl⟩
  have shown := DocSection.ofSchema_withoutOf isOwn lists definition readOnly
  have sameSchema := TypeNode.schema_replacing readOnly node (own.without definition field.declared)
  rw [TypeNode.schema_without lists] at sameSchema
  refine
    { node := rfl
      conversion := ?_
      schema := ?_
      wrapper := ?_
      docSection := ?_ }
  · rw [TypeNode.compiled, TypeNode.conversion_replacing, TypeNode.conversion_without]
    rfl
  · rw [TypeNode.compiled, kept.1, sameSchema, TypeNode.compiled]
    cases node.noSchema <;> rfl
  · rw [TypeNode.compiled, kept.2, TypeNode.compiled, Option.map_map, Option.map_map]
    rfl
  · rw [TypeNode.compiled, kept.2, TypeNode.compiled, Option.map_map, Option.map_map, ← named]
    exact congrArg (Option.map · node.doc) (funext fun wrapper => shown)

/-- What a compiled group becomes when a registered type loses a field. -/
structure CompiledGroup.Narrowed
    (manifest : Manifest)
    (registry : Registry)
    (group : GroupPlan)
    (definition : TypeDef)
    (field : FieldNode TypeNode)
    (own : CompiledType)
    (schema : Schema)
    (compiled narrowed : CompiledGroup) :
    Prop where
  settings : narrowed.name = compiled.name ∧ narrowed.readOnly = compiled.readOnly ∧
    narrowed.docs = compiled.docs
  /-- The types that are left are those that a registered type reaches without the field. -/
  reached : ∀ id, id ∈ narrowed.graph.ids ↔
    ∃ registration ∈ group.types,
      Relation.ReflTransGen (RefersBeside manifest registry definition.id field.declared)
        registration.typeId id
  kept : ∀ id ∈ narrowed.graph.ids, id ∈ compiled.graph.ids
  /-- A type that is lost is not registered, and every way to it goes over the field. -/
  lost : ∀ id ∈ compiled.graph.ids, id ∉ narrowed.graph.ids →
    ∀ registration ∈ group.types, registration.typeId ≠ id ∧
      ¬ Relation.ReflTransGen (RefersBeside manifest registry definition.id field.declared)
        registration.typeId id
  /-- The type itself is what it was without the field. -/
  ownRoot : ∃ after, narrowed.root? definition.id = some after ∧
    CompiledType.Without definition field schema own after
  nodes : ∀ id ∈ narrowed.graph.ids,
    narrowed.graph.get? id = (compiled.graph.get? id).map fun node =>
      node.replacing (own.node.without definition field.declared)
  conversions : ∀ id ∈ narrowed.graph.ids,
    narrowed.conversion? id = (compiled.conversion? id).map fun conversion =>
      conversion.replacing (own.conversion.without definition field.declared)
  schemas : ∀ after, narrowed.Describes after ↔
    ∃ before, compiled.Describes before ∧ before.typeId ∈ narrowed.graph.ids ∧
      before.replacing (schema.without field.external) = after
  sections : ∀ after, narrowed.Documents after ↔
    ∃ before, compiled.Documents before ∧ before.typeId ∈ narrowed.graph.ids ∧
      before.withoutOf definition.id field.external = after
  roots : ∀ registration ∈ group.types,
    ∃ before after, compiled.root? registration.typeId = some before ∧
      narrowed.root? registration.typeId = some after ∧
      CompiledType.Narrowed definition field own schema before after

/-! ## Groups with a changed node -/

namespace CompiledGroup.Narrows

section Parts

variable
  {definition : TypeDef}
  {field : FieldNode TypeNode}
  {own : TypeNode}
  {other : GroupPlan}
  {later : Registry}
  {roots laterRoots : List TypeNode}
  {ofRoots ofLaterRoots : List Conversion}
  {compiled narrowed : CompiledGroup}

private theorem conversion?_eq
    (narrows : compiled.Narrows (own.without definition field.declared) narrowed)
    (accepted : group.compile manifest = .ok compiled)
    (acceptedLater : other.compile manifest = .ok narrowed)
    {id : TypeId}
    (inside : id ∈ narrowed.graph.ids) :
    narrowed.conversion? id = (compiled.conversion? id).map fun conversion =>
      conversion.replacing (own.conversion.without definition field.declared) := by
  obtain ⟨_, resolved, derived⟩ := GroupPlan.compile_derived accepted
  obtain ⟨_, resolvedLater, derivedLater⟩ := GroupPlan.compile_derived acceptedLater
  obtain ⟨_, inOrder, _⟩ := GroupPlan.compile_parts accepted resolved
  obtain ⟨_, inOrderLater, _⟩ := GroupPlan.compile_parts acceptedLater resolvedLater
  rw [conversion?_eq_map inOrderLater, conversion?_eq_map inOrder,
    narrows.get?_eq derived derivedLater inside, Option.map_map, Option.map_map,
    ← TypeNode.conversion_without]
  exact congrArg (Option.map · (compiled.graph.get? id))
    (funext fun node => node.conversion_replacing _)

variable
  (narrows : compiled.Narrows (own.without definition field.declared) narrowed)
  (steps : compiled.Steps manifest group registry roots ofRoots)
  (stepsLater : narrowed.Steps manifest other later laterRoots ofLaterRoots)
  (sameReadOnly : narrowed.readOnly = compiled.readOnly)
  (lists : own.Lists field)

include narrows steps stepsLater sameReadOnly lists

private theorem describes_iff {after : Schema} :
    narrowed.Describes after ↔
      ∃ before, compiled.Describes before ∧ before.typeId ∈ narrowed.graph.ids ∧
        before.replacing ((own.schema compiled.readOnly).without field.external) = after := by
  simp only [steps.describes_iff, stepsLater.describes_iff, sameReadOnly]
  refine narrows.made_iff (TypeNode.schema_typeId compiled.readOnly) fun node _ => ?_
  rw [node.schema_replacing, TypeNode.schema_without lists]

private theorem documents_iff (isOwn : own ∈ compiled.graph.nodes) {after : DocSection} :
    narrowed.Documents after ↔
      ∃ before, compiled.Documents before ∧ before.typeId ∈ narrowed.graph.ids ∧
        before.withoutOf own.id field.external = after := by
  simp only [steps.documents_iff, stepsLater.documents_iff, sameReadOnly]
  have typed : ∀ node : TypeNode,
      (DocSection.ofSchema (node.schema compiled.readOnly)).typeId = node.id :=
    fun node => node.schema_typeId compiled.readOnly
  refine narrows.made_iff typed fun node isNode => ?_
  exact DocSection.ofSchema_withoutOf
    (fun same => steps.derives.built.eq_of_id_eq isNode isOwn same) lists definition
      compiled.readOnly

end Parts

/-- A registered type has a root in both groups, made of its node and of the changed node. -/
theorem exists_roots
    {new : TypeNode}
    {types : List Registration}
    {later : Registry}
    {compiled narrowed : CompiledGroup}
    (narrows : compiled.Narrows new narrowed)
    (accepted : group.compile manifest = .ok compiled)
    (resolved : Registry.ofGroup manifest group = .ok registry)
    (acceptedLater : { group with types := types }.compile manifest = .ok narrowed)
    (resolvedLater : Registry.ofGroup manifest { group with types := types } = .ok later)
    {id : TypeId}
    (registered : id ∈ registry.ids)
    (registeredLater : id ∈ later.ids)
    (inside : id ∈ narrowed.graph.ids) :
    ∃ node ∈ compiled.graph.nodes, node.id = id ∧
      compiled.root? id = some (node.compiled group.readOnly) ∧
      narrowed.root? id = some ((node.replacing new).compiled group.readOnly) := by
  obtain ⟨_, _, derived⟩ := GroupPlan.compile_derived accepted
  obtain ⟨_, _, derivedLater⟩ := GroupPlan.compile_derived acceptedLater
  obtain ⟨node, isNode, rfl⟩ := List.mem_map.mp (narrows.kept id inside)
  have found : compiled.graph.get? node.id = some node := derived.built.get?_eq isNode
  have foundLater := narrows.get?_eq derived derivedLater inside
  rw [found, Option.map_some] at foundLater
  refine ⟨node, isNode, rfl, ?_, ?_⟩
  · refine (root?_eq_some accepted resolved).mpr ⟨registered, ?_⟩
    rw [found, Option.map_some]
  · refine (root?_eq_some acceptedLater resolvedLater).mpr ⟨registeredLater, ?_⟩
    rw [foundLater, Option.map_some]

end CompiledGroup.Narrows

/-! ## Excluding a field -/

section Excluding

variable {definition : TypeDef} {name : String} {later : Registry} {own : TypeNode}

/-- The node of a type has a declared field that nothing is said of. -/
theorem Registry.Excluding.exists_field
    (excluding : registry.Excluding definition.id name later)
    (found : manifest.get? definition.id = some definition)
    (declared : name ∈ definition.fieldNames)
    (matching : own.Matches manifest registry)
    (named : own.id = definition.id) :
    ∃ field, own.Lists field ∧ field.declared = name := by
  obtain ⟨_, foundOwn, names, _⟩ := matching.declared_eq
  rw [named] at foundOwn names
  obtain rfl := Option.some.inj (found.symm.trans foundOwn)
  have leftIn : (registry.table definition.id).excludes name = false := by
    rw [DirectiveTable.excludes, excluding.own.unnamed]
    rfl
  have isField : name ∈ own.fields.map FieldNode.declared := by
    rw [names]
    exact List.mem_filter.mpr ⟨declared, by simp [leftIn]⟩
  obtain ⟨field, member, isDeclared⟩ := List.mem_map.mp isField
  exact ⟨field, ⟨member, matching.declared_nodup, matching.external_nodup⟩, isDeclared⟩

private theorem Registry.Excluding.noSchema_eq_false
    (excluding : registry.Excluding definition.id name later)
    (matching : own.Matches manifest registry)
    (named : own.id = definition.id) :
    own.noSchema = false := by
  obtain ⟨_, found, _, isNode⟩ := matching
  have isType := Manifest.id_of_get? found
  rw [isNode, TypeDef.node, isType, named]
  exact excluding.own.hasSchema

/-- Of two compiled groups, over registries of which the later one excludes a field more, the
later one is the earlier one without the field. -/
theorem CompiledGroup.narrowed_of_excluding
    {field : FieldNode TypeNode}
    {types : List Registration}
    {compiled narrowed : CompiledGroup}
    (accepted : group.compile manifest = .ok compiled)
    (resolved : Registry.ofGroup manifest group = .ok registry)
    (acceptedLater : { group with types := types }.compile manifest = .ok narrowed)
    (resolvedLater : Registry.ofGroup manifest { group with types := types } = .ok later)
    (sameIds : later.ids = registry.ids)
    (excluding : registry.Excluding definition.id field.declared later)
    (found : manifest.get? definition.id = some definition)
    (registered : definition.id ∈ registry.ids)
    (isOwn : own ∈ compiled.graph.nodes)
    (named : own.id = definition.id)
    (lists : own.Lists field)
    (hasSchema : own.noSchema = false) :
    compiled.Narrowed manifest registry group definition field (own.compiled group.readOnly)
      (own.schema group.readOnly) narrowed := by
  obtain ⟨_, _, _, steps⟩ := GroupPlan.compile_steps accepted
  obtain rfl := Except.ok.inj (resolved.symm.trans steps.resolved)
  obtain ⟨_, _, _, stepsLater⟩ := GroupPlan.compile_steps acceptedLater
  obtain rfl := Except.ok.inj (resolvedLater.symm.trans stepsLater.resolved)
  have built := steps.derives.built
  have narrows := steps.narrows stepsLater excluding sameIds found isOwn named
  have sameReadOnly : narrowed.readOnly = compiled.readOnly :=
    stepsLater.readOnly.trans steps.readOnly.symm
  have reached := stepsLater.reached_registered excluding resolved sameIds
  have exists_roots : ∀ id ∈ registry.ids, ∃ node ∈ compiled.graph.nodes, node.id = id ∧
      compiled.root? id = some (node.compiled group.readOnly) ∧
      narrowed.root? id = some ((node.replacing (own.without definition field.declared)).compiled
        group.readOnly) := by
    intro id isAsked
    have inside := (stepsLater.reached_beside excluding id).mpr ⟨id, sameIds ▸ isAsked, .refl⟩
    exact narrows.exists_roots accepted resolved acceptedLater resolvedLater isAsked
      (sameIds ▸ isAsked) inside
  have isOwnOf : ∀ node ∈ compiled.graph.nodes, node.id = own.id → node = own :=
    fun node isNode same => built.eq_of_id_eq isNode isOwn same
  exact
    { settings := ⟨stepsLater.name.trans steps.name.symm, sameReadOnly,
        stepsLater.docs.trans steps.docs.symm⟩
      reached := reached
      kept := narrows.kept
      lost := by
        intro id _ isLost registration isRegistered
        refine ⟨fun same => isLost ?_, fun path => isLost ?_⟩
        · exact (reached id).mpr ⟨registration, isRegistered, same ▸ .refl⟩
        · exact (reached id).mpr ⟨registration, isRegistered, path⟩
      ownRoot := by
        obtain ⟨node, isNode, isType, _, foundLater⟩ := exists_roots definition.id registered
        obtain rfl := isOwnOf node isNode (isType.trans named.symm)
        rw [TypeNode.replacing_without_self] at foundLater
        exact ⟨_, foundLater, TypeNode.compiled_without lists hasSchema definition group.readOnly⟩
      nodes := fun id inside => narrows.get?_eq steps.derives stepsLater.derives inside
      conversions := fun id inside => narrows.conversion?_eq accepted acceptedLater inside
      schemas := fun after => by
        rw [← steps.readOnly]
        exact narrows.describes_iff steps stepsLater sameReadOnly lists
      sections := fun after => by
        rw [← named]
        exact narrows.documents_iff steps stepsLater sameReadOnly lists isOwn
      roots := by
        intro registration isRegistered
        have isAsked : registration.typeId ∈ registry.ids := by
          rw [Registry.ofGroup_ids resolved]
          exact List.mem_map_of_mem isRegistered
        obtain ⟨node, isNode, _, foundNode, foundLater⟩ := exists_roots _ isAsked
        exact ⟨_, _, foundNode, foundLater,
          TypeNode.compiled_narrowed (isOwnOf node isNode) lists named group.readOnly⟩ }

end Excluding

/-- A field that no directive of a registered type names can be excluded besides what the
directives say, by one more directive or by one name more in a directive: the group compiles
again, and all that changes is that the type loses the field. -/
theorem GroupPlan.compile_excluding
    {compiled : CompiledGroup}
    (accepted : group.compile manifest = .ok compiled)
    {front back : List Registration}
    {registration : Registration}
    (registered : group.types = front ++ registration :: back)
    {definition : TypeDef}
    {name : String}
    (leaves : registration.Leaves manifest definition name)
    {others : List Directive}
    (also : AlsoExclude name registration.directives others) :
    ∃ registry own schema field narrowed,
      Registry.ofGroup manifest group = .ok registry ∧
      compiled.root? definition.id = some own ∧
      own.schema = some schema ∧
      field ∈ own.node.fields ∧
      field.declared = name ∧
      { group with types := front ++ { registration with directives := others } :: back }.compile
        manifest = .ok narrowed ∧
      compiled.Narrowed manifest registry group definition field own schema narrowed := by
  obtain ⟨registry, _, _, steps⟩ := GroupPlan.compile_steps accepted
  have resolved := steps.resolved
  obtain ⟨later, resolvedLater, sameIds, excluding⟩ :=
    Registry.exists_excluding resolved registered leaves also
  obtain ⟨narrowed, acceptedLater⟩ :=
    excluding.exists_compile resolved resolvedLater sameIds accepted
  have found := leaves.found
  have isType : definition.id = registration.typeId := Manifest.id_of_get? found
  rw [← isType] at found excluding
  have isAsked : definition.id ∈ registry.ids := by
    rw [Registry.ofGroup_ids resolved, registered, isType]
    simp
  obtain ⟨own, isOwn, named⟩ :=
    List.mem_map.mp ((walkAll_reaches steps.walked definition.id).mpr ⟨_, isAsked, .refl⟩)
  have matching := steps.derives.built.matches_of_mem isOwn
  have hasSchema := excluding.noSchema_eq_false matching named
  obtain ⟨field, lists, rfl⟩ := excluding.exists_field found leaves.declared matching named
  have isRoot : compiled.root? definition.id = some (own.compiled group.readOnly) := by
    refine (CompiledGroup.root?_eq_some accepted resolved).mpr ⟨isAsked, ?_⟩
    have foundOwn : compiled.graph.get? own.id = some own := steps.derives.built.get?_eq isOwn
    rw [← named, foundOwn, Option.map_some]
  have isSchema : (own.compiled group.readOnly).schema = some (own.schema group.readOnly) := by
    rw [TypeNode.compiled, hasSchema]
    rfl
  exact ⟨registry, _, _, field, narrowed, resolved, isRoot, isSchema, lists.member, rfl,
    acceptedLater, CompiledGroup.narrowed_of_excluding accepted resolved acceptedLater
      resolvedLater sameIds excluding found isAsked isOwn named lists hasSchema⟩

/-! ## A load without its item -/

namespace Vans

/-- An item with a note. -/
def load : TypeDef :=
  { name := "Load"
    package := "shop"
    description := none
    fields :=
      [Orders.field "Main" (.struct Orders.item.id),
        Orders.field "Note" (.scalar (.plain .string))] }

/-- A van carries loads. -/
def van : TypeDef :=
  { name := "Van"
    package := "shop"
    description := none
    fields := [Orders.field "Loads" (.list (.struct load.id))] }

def model : Manifest :=
  ⟨[Orders.item, load, van], by decide, by decide⟩

/-- Loads have a page, and a note is required. -/
def loading : Registration :=
  ⟨load.id, [.mark .required ["Note"], .doc ⟨"Loads", ""⟩]⟩

/-- Vans and loads are registered, and items are not. -/
def driving (types : List Registration) : GroupPlan :=
  { name := "driving", docs := none, readOnly := false, types := ⟨van.id, []⟩ :: types }

end Vans

open Vans in
/-- Without the item in a load, vans carry the smaller loads and there is no item any more. -/
theorem GroupPlan.compile_excluding_vans :
    ∃ compiled registry own schema field narrowed,
      (driving [loading]).compile model = .ok compiled ∧
      compiled.graph.ids = [Orders.item.id, load.id, van.id] ∧
      loading.Leaves model load "Main" ∧
      field.declared = "Main" ∧
      (driving [⟨load.id, loading.directives ++ [.mark .exclude ["Main"]]⟩]).compile model =
        .ok narrowed ∧
      narrowed.graph.ids = [load.id, van.id] ∧
      compiled.Narrowed model registry (driving [loading]) load field own schema narrowed := by
  have before : ((driving [loading]).compile model).toOption.any (fun compiled =>
      compiled.graph.ids == [Orders.item.id, load.id, van.id]) = true := by decide +kernel
  have after :
      ((driving [⟨load.id, loading.directives ++ [.mark .exclude ["Main"]]⟩]).compile
        model).toOption.any (fun narrowed =>
          narrowed.graph.ids == [load.id, van.id]) = true := by decide +kernel
  obtain ⟨compiled, accepted, idsBefore⟩ := Results.exists_of_any before
  obtain ⟨_, acceptedLater, idsAfter⟩ := Results.exists_of_any after
  have leaves : loading.Leaves model load "Main" :=
    ⟨by decide, by decide, by decide, by decide⟩
  have also := AlsoExclude.insert "Main" loading.directives []
  obtain ⟨registry, own, schema, field, narrowed, _, _, _, _, declared, given, holds⟩ :=
    @GroupPlan.compile_excluding model (driving [loading]) compiled accepted [⟨van.id, []⟩] []
      loading rfl load "Main" leaves _ also
  obtain rfl := Except.ok.inj (acceptedLater.symm.trans given)
  exact ⟨compiled, registry, own, schema, field, _, accepted, beq_iff_eq.mp idsBefore, leaves,
    declared, given, beq_iff_eq.mp idsAfter, holds⟩

end BlockSchema
