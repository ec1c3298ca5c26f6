import BlockSchema.Proofs.Group.Acceptance
import BlockSchema.Proofs.Group.Registry

/-!
Contract: the order in which a group registers its types.

The order decides which root builds a shared type first, and in which order the results are
listed. It does not decide what the results are: a node is what its type gives when it is
built by itself, its conversion and its schema are made of the node alone, and which types
are reached is a matter of the references.
-/

set_option autoImplicit false

namespace BlockSchema

variable {manifest : Manifest} {registry : Registry} {group : GroupPlan}

/-! ## What a compiled group has of a type -/

/-- A registered type with everything that is derived from its node. -/
def TypeNode.compiled (readOnly : Bool) (node : TypeNode) : CompiledType where
  node := node
  schema := if node.noSchema then none else some (node.schema readOnly)
  conversion := node.conversion
  doc := node.doc.map (DocPage.ofSchema (node.schema readOnly))

namespace CompiledGroup

variable {compiled : CompiledGroup}

/-- The graph has a node for a type exactly when the type is in it, and then it is the node
that the type gives by itself. -/
theorem Derived.get?_eq_some
    (derived : compiled.Derived manifest registry)
    {type : TypeId}
    {node : TypeNode} :
    compiled.graph.get? type = some node ↔
      type ∈ compiled.graph.ids ∧ TypeNode.rebuild manifest registry [] type = .ok node := by
  constructor
  · intro found
    have member : node ∈ compiled.graph.nodes := List.mem_of_find?_eq_some found
    obtain rfl : node.id = type := by simpa using List.find?_some found
    exact ⟨List.mem_map_of_mem member, derived.rebuild_eq member⟩
  · rintro ⟨inside, rebuilt⟩
    obtain ⟨other, member, rfl⟩ := List.mem_map.mp inside
    obtain rfl := Except.ok.inj ((derived.rebuild_eq member).symm.trans rebuilt)
    exact derived.built.get?_eq member

/-- The conversion of a type is that of its node. -/
theorem conversion?_eq_map
    (inOrder : compiled.conversions = compiled.graph.nodes.map TypeNode.conversion)
    (type : TypeId) :
    compiled.conversion? type = (compiled.graph.get? type).map TypeNode.conversion := by
  rw [conversion?, inOrder, List.find?_map]
  simp only [Function.comp_def, TypeNode.conversion_typeId]
  rfl

/-- A root is made of the node of its type, and every registered type has a root. -/
theorem root?_eq_some
    (accepted : group.compile manifest = .ok compiled)
    (resolved : Registry.ofGroup manifest group = .ok registry)
    {type : TypeId}
    {root : CompiledType} :
    compiled.root? type = some root ↔
      type ∈ registry.ids ∧
        (compiled.graph.get? type).map (TypeNode.compiled group.readOnly) = some root := by
  obtain ⟨_, _, _, steps⟩ := GroupPlan.compile_steps accepted
  obtain ⟨_, _, named⟩ := GroupPlan.compile_parts accepted resolved
  have derived := steps.derives
  have made : ∀ other ∈ compiled.roots,
      compiled.graph.get? other.node.id = some other.node ∧
        other.node.compiled group.readOnly = other := by
    intro other isRoot
    obtain ⟨member, converted⟩ := derived.rooted other isRoot
    have ofNode := steps.ofNode other isRoot
    refine ⟨derived.built.get?_eq member, ?_⟩
    rw [← steps.readOnly, TypeNode.compiled, ← ofNode.schema, ← ofNode.doc, converted]
  constructor
  · intro found
    have isRoot : root ∈ compiled.roots := List.mem_of_find?_eq_some found
    obtain rfl : root.node.id = type := by simpa using List.find?_some found
    obtain ⟨isNode, same⟩ := made root isRoot
    rw [isNode, ← named]
    exact ⟨List.mem_map.mpr ⟨root, isRoot, rfl⟩, congrArg some same⟩
  · rintro ⟨registered, isMade⟩
    rw [← named] at registered
    obtain ⟨other, isRoot, sameType⟩ := List.mem_map.mp registered
    cases found : compiled.root? type with
    | none =>
        have missing := List.find?_eq_none.mp found other isRoot
        simp [sameType] at missing
    | some first =>
        have isFirst : first ∈ compiled.roots := List.mem_of_find?_eq_some found
        obtain rfl : first.node.id = type := by simpa using List.find?_some found
        obtain ⟨isNode, same⟩ := made first isFirst
        rw [isNode, Option.map_some, same] at isMade
        exact isMade

end CompiledGroup

/-! ## Groups with the same registrations -/

/-- Two groups have the same types, and the same of each of them: its node, its conversion
and, where it is registered, its root with the schema and the page that the root has. -/
structure CompiledGroup.SameTypes (left right : CompiledGroup) : Prop where
  ids : ∀ type, type ∈ left.graph.ids ↔ type ∈ right.graph.ids
  nodes : ∀ type, left.graph.get? type = right.graph.get? type
  conversions : ∀ type, left.conversion? type = right.conversion? type
  roots : ∀ type, left.root? type = right.root? type

section Reordered

variable {types : List Registration} {other : Registry}

/-- One order of the registrations is accepted when another one is. -/
theorem GroupPlan.compiles_of_perm
    (permuted : group.types.Perm types)
    {compiled : CompiledGroup}
    (accepted : group.compile manifest = .ok compiled) :
    ∃ reordered, { group with types := types }.compile manifest = .ok reordered := by
  obtain ⟨registry, _, _, steps⟩ := GroupPlan.compile_steps accepted
  obtain ⟨other, resolved, reordered⟩ := Registry.ofGroup_perm permuted steps.resolved
  have same := Registry.lookup_perm reordered (Registry.nodup_ids steps.resolved)
  have eachNode := (GroupPlan.compiles_iff steps.resolved).mp ⟨compiled, accepted⟩
  refine (GroupPlan.compiles_iff resolved).mpr fun id isAsked => ?_
  rw [← TypeNode.rebuild_congr same]
  exact eachNode id ((reordered.map Prod.fst).mem_iff.mpr isAsked)

/-- Compiled groups over registries of the same entries have the same types. -/
theorem CompiledGroup.sameTypes_of_perm
    {left right : CompiledGroup}
    (leftAccepted : group.compile manifest = .ok left)
    (leftResolved : Registry.ofGroup manifest group = .ok registry)
    (rightAccepted : { group with types := types }.compile manifest = .ok right)
    (rightResolved : Registry.ofGroup manifest { group with types := types } = .ok other)
    (permuted : registry.Perm other) :
    left.SameTypes right := by
  have same := Registry.lookup_perm permuted (Registry.nodup_ids leftResolved)
  have sameIds : ∀ type, type ∈ registry.ids ↔ type ∈ other.ids := fun type =>
    (permuted.map Prod.fst).mem_iff
  obtain ⟨leftReached, leftInOrder, _⟩ := GroupPlan.compile_parts leftAccepted leftResolved
  obtain ⟨rightReached, rightInOrder, _⟩ := GroupPlan.compile_parts rightAccepted rightResolved
  obtain ⟨_, _, _, leftSteps⟩ := GroupPlan.compile_steps leftAccepted
  obtain rfl := Except.ok.inj (leftSteps.resolved.symm.trans leftResolved)
  obtain ⟨_, _, _, rightSteps⟩ := GroupPlan.compile_steps rightAccepted
  obtain rfl := Except.ok.inj (rightSteps.resolved.symm.trans rightResolved)
  have ids : ∀ type, type ∈ left.graph.ids ↔ type ∈ right.graph.ids := by
    intro type
    rw [leftReached, rightReached, Refers.congr same]
    simp only [sameIds]
  have nodes : ∀ type, left.graph.get? type = right.graph.get? type := by
    intro type
    refine Option.ext fun node => ?_
    rw [leftSteps.derives.get?_eq_some, rightSteps.derives.get?_eq_some, ids type,
      TypeNode.rebuild_congr same]
  refine ⟨ids, nodes, fun type => ?_, fun type => ?_⟩
  · rw [CompiledGroup.conversion?_eq_map leftInOrder, CompiledGroup.conversion?_eq_map rightInOrder,
      nodes type]
  · refine Option.ext fun root => ?_
    rw [CompiledGroup.root?_eq_some leftAccepted leftResolved,
      CompiledGroup.root?_eq_some rightAccepted rightResolved, sameIds type, nodes type]

end Reordered

/-- The order of its registrations decides neither whether a group compiles nor what it has
of any type. -/
theorem GroupPlan.compile_reordered
    (manifest : Manifest)
    (group : GroupPlan)
    {types : List Registration}
    (permuted : group.types.Perm types) :
    ((∃ compiled, group.compile manifest = .ok compiled) ↔
      ∃ compiled, { group with types := types }.compile manifest = .ok compiled) ∧
    ∀ left right, group.compile manifest = .ok left →
      { group with types := types }.compile manifest = .ok right → left.SameTypes right := by
  refine ⟨⟨?forward, ?backward⟩, fun left right leftAccepted rightAccepted => ?same⟩
  case forward =>
    rintro ⟨compiled, accepted⟩
    exact GroupPlan.compiles_of_perm permuted accepted
  case backward =>
    rintro ⟨compiled, accepted⟩
    exact @GroupPlan.compiles_of_perm manifest { group with types := types } group.types
      permuted.symm compiled accepted
  case same =>
    obtain ⟨registry, _, _, leftSteps⟩ := GroupPlan.compile_steps leftAccepted
    obtain ⟨other, rightResolved, reordered⟩ := Registry.ofGroup_perm permuted leftSteps.resolved
    exact CompiledGroup.sameTypes_of_perm leftAccepted leftSteps.resolved rightAccepted
      rightResolved reordered

/-! ## Two orders -/

namespace Baskets

/-- Items that are carried under names. -/
def basket : TypeDef :=
  { name := "Basket"
    package := "shop"
    description := none
    fields := [Orders.field "Items" (.map (.struct Orders.item.id))] }

def model : Manifest :=
  ⟨[basket, Orders.item, Orders.order], by decide, by decide⟩

/-- Orders have a page, and their total is computed. -/
def ordering : Registration :=
  ⟨Orders.order.id, [.mark .computedOnly ["Total"], .doc ⟨"Orders", ""⟩]⟩

/-- Baskets have no schema. -/
def carrying : Registration :=
  ⟨basket.id, [.noSchema]⟩

def shop (types : List Registration) : GroupPlan :=
  { name := "shop", docs := none, readOnly := false, types := types }

end Baskets

open Baskets in
/-- Orders and baskets are the same whichever of them are registered first, and so are the
items that both hold, though the graphs list them in different orders. -/
theorem GroupPlan.compile_reordered_baskets :
    [ordering, carrying].Perm [carrying, ordering] ∧
    ∃ left right, (shop [ordering, carrying]).compile model = .ok left ∧
      (shop [carrying, ordering]).compile model = .ok right ∧
      left.SameTypes right ∧
      left.graph.ids = [Orders.item.id, Orders.order.id, basket.id] ∧
      right.graph.ids = [Orders.item.id, basket.id, Orders.order.id] := by
  have swapped : [ordering, carrying].Perm [carrying, ordering] := .swap _ _ _
  have leftPasses : ((shop [ordering, carrying]).compile model).toOption.any (fun left =>
      left.graph.ids == [Orders.item.id, Orders.order.id, basket.id]) = true := by
    decide +kernel
  have rightPasses : ((shop [carrying, ordering]).compile model).toOption.any (fun right =>
      right.graph.ids == [Orders.item.id, basket.id, Orders.order.id]) = true := by
    decide +kernel
  obtain ⟨left, leftAccepted, leftInOrder⟩ := Results.exists_of_any leftPasses
  obtain ⟨right, rightAccepted, rightInOrder⟩ := Results.exists_of_any rightPasses
  obtain ⟨_, same⟩ := GroupPlan.compile_reordered model (shop [ordering, carrying]) swapped
  exact ⟨swapped, left, right, leftAccepted, rightAccepted,
    same left right leftAccepted rightAccepted, beq_iff_eq.mp leftInOrder,
    beq_iff_eq.mp rightInOrder⟩

end BlockSchema
