import BlockSchema.Proofs.Directive.Resolution
import BlockSchema.Proofs.Group.Alignment
import BlockSchema.Proofs.Group.Registry
import BlockSchema.Proofs.Group.Supply
import BlockSchema.Proofs.Page.Links

/-!
Contract: the doc pages of a compiled group.

Types of a group refer to one another without a cycle, and each has one schema. So the page of
a root shows every type inside the root's schema once, and every link on it has its target.
-/

set_option autoImplicit false

namespace BlockSchema

variable
  {manifest : Manifest}
  {group : GroupPlan}
  {registry : Registry}
  {nodes : List TypeNode}
  {compiled : CompiledGroup}

/-! ## Schemas of built nodes -/

/-- What a schema embeds, at any depth, belongs to a type that its own type leads to. -/
theorem WellBuilt.node_of_descendant
    (built : WellBuilt manifest registry nodes)
    {readOnly : Bool}
    {node : TypeNode}
    (member : node ∈ nodes)
    {inner : Schema}
    (isInner : inner ∈ (node.schema readOnly).descendants) :
    ∃ found ∈ nodes, found.schema readOnly = inner ∧
      Relation.TransGen (Refers manifest registry) node.id found.id := by
  obtain ⟨nested, nests, within⟩ := Schema.mem_descendants.mp isInner
  clear isInner
  induction within using Relation.ReflTransGen.head_induction_on with
  | refl =>
      obtain ⟨found, isNested, rfl⟩ := TypeNode.mem_schema_nested.mp nests
      exact ⟨found, built.nested_mem member isNested, rfl,
        .single ((built.matches_of_mem member).refers_of_nested isNested)⟩
  | head embeds _ inductionHypothesis =>
      obtain ⟨outer, isOuter, rfl, path⟩ := inductionHypothesis
      obtain ⟨found, isNested, rfl⟩ := TypeNode.mem_schema_nested.mp embeds
      exact ⟨found, built.nested_mem isOuter isNested, rfl,
        path.tail ((built.matches_of_mem isOuter).refers_of_nested isNested)⟩

private theorem WellBuilt.schema_consistent
    (built : WellBuilt manifest registry nodes)
    {readOnly : Bool}
    {node : TypeNode}
    (member : node ∈ nodes) :
    (node.schema readOnly).Consistent where
  eq_of_typeId_eq left right isLeft isRight sameType := by
    obtain ⟨first, isFirst, rfl⟩ := built.coherent.node_of_schema_within member isLeft
    obtain ⟨second, isSecond, rfl⟩ := built.coherent.node_of_schema_within member isRight
    rw [TypeNode.schema_typeId, TypeNode.schema_typeId] at sameType
    rw [built.eq_of_id_eq isFirst isSecond sameType]
  typeId_ne outer within inner isInner := by
    obtain ⟨around, isAround, rfl⟩ := built.coherent.node_of_schema_within member within
    obtain ⟨found, _, rfl, path⟩ := built.node_of_descendant isAround isInner
    rw [TypeNode.schema_typeId, TypeNode.schema_typeId]
    intro same
    rw [same] at path
    exact built.acyclic (List.mem_map_of_mem isAround) path

/-! ## Roots with pages -/

/-- A node has the texts around a page that the registration of its type gives. -/
theorem WellBuilt.doc_of_registration
    (built : WellBuilt manifest registry nodes)
    (resolved : Registry.ofGroup manifest group = .ok registry)
    {node : TypeNode}
    (member : node ∈ nodes)
    {registration : Registration}
    (registered : registration ∈ group.types)
    (named : registration.typeId = node.id)
    {wrapper : DocWrapper}
    (documented : .doc wrapper ∈ registration.directives) :
    node.doc = some wrapper := by
  obtain ⟨definition, found, _, made⟩ := built.matches_of_mem member
  obtain ⟨entry, isEntry, sameType, declared, foundAgain, tableMade⟩ :=
    Results.exists_of_mem_left (Registry.ofGroup_eq_ok.mp resolved).2 registered
  obtain ⟨type, table⟩ := entry
  obtain rfl : type = node.id := sameType.symm.trans named
  obtain rfl : definition = declared := Option.some.inj (found.symm.trans foundAgain)
  have tableOf := Registry.table_of_mem (Registry.nodup_ids resolved) isEntry
  have told := (DirectiveTable.resolve_collects tableMade).reflects.doc wrapper
  have isTable : node.doc = table.doc := by
    rw [made] at tableOf ⊢
    exact congrArg DirectiveTable.doc tableOf
  rw [isTable, told]
  exact List.mem_flatMap.mpr ⟨_, documented, List.mem_singleton_self _⟩

/-- What the page of a root shows, whose schema is given. -/
structure CompiledGroup.PageShows
    (compiled : CompiledGroup)
    (schema : Schema)
    (page : DocPage) :
    Prop where
  root : page.root = .ofSchema schema
  distinct : (page.nested.map DocSection.typeId).Nodup
  reached : ∀ id, id ∈ page.nested.map DocSection.typeId ↔
    id ≠ schema.typeId ∧ ∃ inner : Schema, inner.Within schema ∧ inner.typeId = id
  /-- The sections stand in the order in which a traversal first comes to their types. -/
  inOrder : page.nested.map DocSection.typeId =
    (schema.descendants.map Schema.typeId).eraseDups
  /-- A section shows the only schema that the group has for its type. -/
  shown : ∀ docSection ∈ page.nested, ∃ inner, docSection = .ofSchema inner ∧
    ∀ other, compiled.Describes other ∧ other.typeId = docSection.typeId ↔ other = inner
  linked : ∀ docSection ∈ page.sections, ∀ record ∈ docSection.records, ∀ id,
    record.nested = some id →
      (∃ target ∈ page.nested, target.typeId = id) ∧
      ∀ readOnly,
        Text.Contains (page.render readOnly) record.line ∧
        Text.Contains record.line id.link ∧
        Text.Contains (page.render readOnly) id.linkTarget

/-- The page of a root shows what is inside the schema of its node. -/
theorem CompiledGroup.Steps.pageShows
    {roots : List TypeNode}
    {ofRoots : List Conversion}
    (steps : compiled.Steps manifest group registry roots ofRoots)
    {node : TypeNode}
    (member : node ∈ compiled.graph.nodes)
    (wrapper : DocWrapper) :
    compiled.PageShows (node.schema compiled.readOnly)
      (.ofSchema (node.schema compiled.readOnly) wrapper) := by
  have consistent : (node.schema compiled.readOnly).Consistent :=
    steps.derives.built.schema_consistent member
  refine
    { root := rfl
      distinct := DocPage.nodup_ofSchema consistent wrapper
      reached := DocPage.mem_typeIds_ofSchema consistent wrapper
      inOrder := DocPage.typeIds_ofSchema consistent wrapper
      shown := ?shown
      linked := ?linked }
  case shown =>
    intro docSection isNested
    obtain ⟨inner, within, rfl⟩ :=
      DocPage.exists_of_mem_sections (List.mem_cons_of_mem _ isNested)
    obtain ⟨found, isFound, rfl⟩ :=
      steps.derives.built.coherent.node_of_schema_within member within
    refine ⟨_, rfl, fun other => ?_⟩
    have only := (steps.holdsOnly isFound).schemas other
    rwa [← TypeNode.schema_typeId compiled.readOnly found] at only
  case linked =>
    intro docSection isSection record isRecord id names
    have target := DocPage.exists_section_of_record consistent isSection isRecord names
    refine ⟨target, fun readOnly => ⟨?_, DocRecord.line_contains_link names, ?_⟩⟩
    · exact DocPage.render_contains_line readOnly isSection isRecord
    · obtain ⟨found, isFound, rfl⟩ := target
      apply (DocPage.render_contains_titledLines readOnly isFound).trans
      exact found.titledLines_contains_target

/-- A root with a doc directive has a page, which has one nested section for every type that
is reached from the root's schema and none for the root's type. The sections stand in the order
in which a traversal first comes to their types, and show the schemas of their types. Every
record that names a type has a section for it, and its link has its target in the text. -/
theorem GroupPlan.compile_page
    (accepted : group.compile manifest = .ok compiled)
    {root : CompiledType}
    (isRoot : root ∈ compiled.roots)
    {registration : Registration}
    (registered : registration ∈ group.types)
    (named : registration.typeId = root.node.id)
    {wrapper : DocWrapper}
    (documented : .doc wrapper ∈ registration.directives) :
    ∃ schema page,
      compiled.Describes schema ∧
      schema.typeId = root.node.id ∧
      root.schema = (if root.node.noSchema then none else some schema) ∧
      root.doc = some page ∧
      page.wrapper = wrapper ∧
      compiled.PageShows schema page := by
  obtain ⟨registry, roots, ofRoots, steps⟩ := GroupPlan.compile_steps accepted
  have derived := steps.derives
  have member := (derived.rooted root isRoot).1
  have made := steps.ofNode root isRoot
  have isDoc := derived.built.doc_of_registration steps.resolved member registered named documented
  refine ⟨root.node.schema compiled.readOnly,
    .ofSchema (root.node.schema compiled.readOnly) wrapper, derived.describes member,
    root.node.schema_typeId compiled.readOnly, made.schema, ?_, rfl,
    steps.pageShows member wrapper⟩
  rw [made.doc, isDoc]
  rfl

namespace Shipments

/-- Loose items and an order, sent together. -/
def shipment : TypeDef :=
  { name := "Shipment"
    package := "shop"
    description := none
    fields :=
      [Orders.field "Loose" (.map (.struct Orders.item.id)),
        Orders.field "Order" (.struct Orders.order.id)] }

def model : Manifest :=
  ⟨[Orders.item, Orders.order, shipment], by decide, by decide⟩

def sending : Registration :=
  ⟨shipment.id, [.doc ⟨"Shipments", ""⟩]⟩

def shop : GroupPlan :=
  { name := "shipments", docs := none, readOnly := false, types := [sending] }

end Shipments

open Shipments in
/-- The page of shipments has a section for items, which come first, and one for orders, though
the orders hold items in three places. -/
theorem GroupPlan.compile_page_shipments :
    ∃ compiled root schema page,
      shop.compile model = .ok compiled ∧
      root ∈ compiled.roots ∧
      root.doc = some page ∧
      page.wrapper = ⟨"Shipments", ""⟩ ∧
      compiled.PageShows schema page ∧
      page.nested.map DocSection.typeId = [Orders.item.id, Orders.order.id] ∧
      Text.Contains (page.render false) Orders.item.id.linkTarget := by
  have passes : (shop.compile model).toOption.any (fun compiled =>
      compiled.roots.any fun root => root.node.id == shipment.id &&
        root.doc.any fun page =>
          page.nested.map DocSection.typeId == [Orders.item.id, Orders.order.id] &&
            page.root.records.any fun record => record.nested == some Orders.item.id) = true := by
    decide +kernel
  obtain ⟨compiled, accepted, passes⟩ := Results.exists_of_any passes
  obtain ⟨root, isRoot, passes⟩ := List.any_eq_true.mp passes
  rw [Bool.and_eq_true, beq_iff_eq] at passes
  obtain ⟨named, passes⟩ := passes
  have registered : sending ∈ shop.types := by decide
  have documented : .doc ⟨"Shipments", ""⟩ ∈ sending.directives := by decide
  obtain ⟨schema, page, _, _, _, isDoc, wrapper, shows⟩ :=
    GroupPlan.compile_page accepted isRoot registered named.symm documented
  rw [isDoc] at passes
  simp only [Option.any_some, Bool.and_eq_true, beq_iff_eq, List.any_eq_true] at passes
  obtain ⟨types, record, isRecord, names⟩ := passes
  have linked := (shows.linked page.root List.mem_cons_self record isRecord _ names).2 false
  exact ⟨compiled, root, schema, page, accepted, isRoot, isDoc, wrapper, shows, types, linked.2.2⟩

end BlockSchema
