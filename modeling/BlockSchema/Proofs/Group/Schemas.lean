import BlockSchema.Proofs.Group.Conversions
import BlockSchema.Proofs.Page.Sections

/-!
Contract: the schemas and doc pages of a compiled group.

The roots of a group share the schemas derived so far. Whichever of them came first, a root
has the schema of its node and the page of that schema. So every schema of the group, a copy
inside another one included, is the schema of a node of its graph.
-/

set_option autoImplicit false

namespace BlockSchema

/-! ## Roots -/

section Roots

variable {readOnly : Bool} {nodes : List TypeNode}

/-- What a root has is made of its node. -/
structure CompiledType.OfNode (readOnly : Bool) (root : CompiledType) : Prop where
  schema : root.schema = if root.node.noSchema then none else some (root.node.schema readOnly)
  doc : root.doc = root.node.doc.map (DocPage.ofSchema (root.node.schema readOnly))

/-- Making a root gives what its node says, whatever schemas of the nodes are at hand. -/
theorem CompiledType.ofNode_ofNode
    (coherent : Coherent nodes)
    {node : TypeNode}
    (member : node ∈ nodes)
    (conversion : Conversion)
    {schemas : List Schema}
    (remembers : Remembers (TypeNode.derivedSchema readOnly) nodes schemas) :
    (CompiledType.ofNode readOnly node conversion schemas).1.OfNode readOnly ∧
      Remembers (TypeNode.derivedSchema readOnly) nodes
        (CompiledType.ofNode readOnly node conversion schemas).2 := by
  unfold CompiledType.ofNode
  by_cases bare : node.noSchema && node.doc.isNone
  · obtain ⟨noSchema, noDoc⟩ := Bool.and_eq_true_iff.mp bare
    rw [if_pos bare]
    refine ⟨⟨?_, ?_⟩, remembers⟩
    · exact (if_pos noSchema).symm
    · rw [Option.isNone_iff_eq_none.mp noDoc]
      rfl
  · have advanced := Schema.derive_alone readOnly coherent node member schemas remembers
    have isSchema := Building.value_eq advanced.ensured.1
    have kept : Remembers (TypeNode.derivedSchema readOnly) nodes
        ((Schema.derive readOnly node).value schemas).2 := by
      rw [Building.value_memory]
      exact advanced.kept
    rw [if_neg bare]
    exact ⟨⟨by simp only [isSchema], by simp only [isSchema]⟩, kept⟩

private theorem CompiledType.ofNodes_ofNode
    (coherent : Coherent nodes)
    {pairs : List (TypeNode × Conversion)}
    (among : ∀ pair ∈ pairs, pair.1 ∈ nodes)
    {schemas : List Schema}
    (remembers : Remembers (TypeNode.derivedSchema readOnly) nodes schemas) :
    ∀ root ∈ CompiledType.ofNodes readOnly schemas pairs, root.OfNode readOnly := by
  induction pairs generalizing schemas with
  | nil =>
      intro root member
      cases member
  | cons pair rest inductionHypothesis =>
      obtain ⟨node, conversion⟩ := pair
      have made := CompiledType.ofNode_ofNode coherent (among _ List.mem_cons_self) conversion
        remembers
      intro root member
      rcases List.mem_cons.mp member with rfl | later
      · exact made.1
      · exact inductionHypothesis (fun pair isLater => among pair (List.mem_cons_of_mem _ isLater))
          made.2 root later

end Roots

/-! ## Groups -/

namespace CompiledGroup

/-- A schema of a group: one of its roots', one derived for a node of its graph after the
schemas of other nodes, or one inside those. -/
def Describes (compiled : CompiledGroup) (schema : Schema) : Prop :=
  ∃ outer, schema.Within outer ∧
    ((∃ root ∈ compiled.roots, root.schema = some outer) ∨
      ∃ node ∈ compiled.graph.nodes, ∃ earlier : List TypeNode,
        (∀ other ∈ earlier, other ∈ compiled.graph.nodes) ∧
          ((Schema.derive compiled.readOnly node).value
            (Schema.deriveAll compiled.readOnly earlier)).1 = outer)

/-- A section of a group: one on the page of a root, or on a page of one of its schemas. -/
def Documents (compiled : CompiledGroup) (docSection : DocSection) : Prop :=
  (∃ root ∈ compiled.roots, ∃ page, root.doc = some page ∧ docSection ∈ page.sections) ∨
    ∃ schema wrapper, compiled.Describes schema ∧
      docSection ∈ (DocPage.ofSchema schema wrapper).sections

section Group

variable
  {manifest : Manifest}
  {group : GroupPlan}
  {registry : Registry}
  {roots : List TypeNode}
  {ofRoots : List Conversion}
  {compiled : CompiledGroup}

/-- The roots of a compiled group are made of their nodes. -/
theorem Steps.ofNode
    (steps : compiled.Steps manifest group registry roots ofRoots) :
    ∀ root ∈ compiled.roots, root.OfNode compiled.readOnly := by
  have built := (walkAll_eq_ok steps.walked).1
  rw [steps.rooted]
  refine CompiledType.ofNodes_ofNode built.coherent (fun pair member => ?_) Remembers.nothing
  exact steps.roots_among pair.1 (List.of_mem_zip member).1

/-- Every schema of a compiled group is the schema of a node of its graph. -/
theorem Steps.node_of_describes
    (steps : compiled.Steps manifest group registry roots ofRoots)
    {schema : Schema}
    (describes : compiled.Describes schema) :
    ∃ node ∈ compiled.graph.nodes, node.schema compiled.readOnly = schema := by
  have derived := steps.derives
  obtain ⟨outer, within, isOuter⟩ := describes
  have ofNode : ∃ node ∈ compiled.graph.nodes, node.schema compiled.readOnly = outer := by
    rcases isOuter with ⟨root, member, isSchema⟩ | ⟨node, member, earlier, among, rfl⟩
    · refine ⟨root.node, (derived.rooted root member).1, ?_⟩
      rw [(steps.ofNode root member).schema] at isSchema
      split at isSchema
      next => cases isSchema
      next => exact Option.some.inj isSchema
    · exact ⟨node, member, (Schema.derive_value derived.built.coherent among member).symm⟩
  obtain ⟨node, member, rfl⟩ := ofNode
  exact derived.built.coherent.node_of_schema_within member within

/-- Every section of a compiled group shows the schema of a node of its graph. -/
theorem Steps.node_of_documents
    (steps : compiled.Steps manifest group registry roots ofRoots)
    {docSection : DocSection}
    (documents : compiled.Documents docSection) :
    ∃ node ∈ compiled.graph.nodes,
      DocSection.ofSchema (node.schema compiled.readOnly) = docSection := by
  have derived := steps.derives
  have coherent := derived.built.coherent
  rcases documents with ⟨root, isRoot, page, isPage, member⟩ | ⟨schema, _, describes, member⟩
  · rw [(steps.ofNode root isRoot).doc] at isPage
    obtain ⟨wrapper, _, rfl⟩ := Option.map_eq_some_iff.mp isPage
    obtain ⟨inner, within, shown⟩ := DocPage.exists_of_mem_sections member
    obtain ⟨node, isNode, rfl⟩ :=
      coherent.node_of_schema_within (derived.rooted root isRoot).1 within
    exact ⟨node, isNode, shown⟩
  · obtain ⟨outer, isOuter, rfl⟩ := steps.node_of_describes describes
    obtain ⟨inner, within, shown⟩ := DocPage.exists_of_mem_sections member
    obtain ⟨node, isNode, rfl⟩ := coherent.node_of_schema_within isOuter within
    exact ⟨node, isNode, shown⟩

/-- Every node of the graph has its schema among those of the group. -/
theorem Derived.describes
    (derived : compiled.Derived manifest registry)
    {node : TypeNode}
    (member : node ∈ compiled.graph.nodes) :
    compiled.Describes (node.schema compiled.readOnly) := by
  have among : ∀ other ∈ ([] : List TypeNode), other ∈ compiled.graph.nodes := by simp
  exact ⟨_, .refl, .inr ⟨node, member, [], among,
    Schema.derive_value derived.built.coherent among member⟩⟩

/-- The schemas of a group are those of the nodes of its graph. -/
theorem Steps.describes_iff
    (steps : compiled.Steps manifest group registry roots ofRoots)
    {schema : Schema} :
    compiled.Describes schema ↔
      ∃ node ∈ compiled.graph.nodes, node.schema compiled.readOnly = schema := by
  refine ⟨steps.node_of_describes, ?_⟩
  rintro ⟨node, member, rfl⟩
  exact steps.derives.describes member

/-- The sections of a group show the schemas of the nodes of its graph. -/
theorem Steps.documents_iff
    (steps : compiled.Steps manifest group registry roots ofRoots)
    {docSection : DocSection} :
    compiled.Documents docSection ↔
      ∃ node ∈ compiled.graph.nodes,
        DocSection.ofSchema (node.schema compiled.readOnly) = docSection := by
  refine ⟨steps.node_of_documents, ?_⟩
  rintro ⟨node, member, rfl⟩
  exact .inr ⟨_, ⟨"", ""⟩, steps.derives.describes member, List.mem_cons_self⟩

end Group

end CompiledGroup

end BlockSchema
