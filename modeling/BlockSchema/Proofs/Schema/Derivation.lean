import BlockSchema.Proofs.Graph.Derivation
import BlockSchema.Schema.Basic

/-!
Contract: the schema of a node, and what a derivation of schemas gives.

The schema of a node depends on the node and on whether it is read only. A derivation that
remembers schemas gives it, whatever it derived before.
-/

set_option autoImplicit false

namespace BlockSchema

/-- The schema of a node. -/
def TypeNode.schema (readOnly : Bool) (node : TypeNode) : Schema :=
  node.fold fun node fields =>
    ⟨node.id, node.version, fields.map (SchemaElement.ofField readOnly)⟩

/-- The element of a field of a node. -/
def FieldNode.element (readOnly : Bool) (field : FieldNode TypeNode) : SchemaElement Schema :=
  .ofField readOnly (field.withShape (field.shape.map (TypeNode.schema readOnly)))

theorem TypeNode.schema_eq (readOnly : Bool) (node : TypeNode) :
    node.schema readOnly =
      ⟨node.id, node.version, node.fields.map (FieldNode.element readOnly)⟩ := by
  rw [schema, fold_eq, List.map_map]
  rfl

/-- Derives the element of a field. -/
def Schema.deriveField (readOnly : Bool) (field : FieldNode TypeNode) :
    SchemaDeriving (SchemaElement Schema) :=
  (Schema.deriveTarget readOnly field.shape.target).bind fun nested =>
    Building.pure (.ofField readOnly (field.withShape ⟨field.shape.arity, nested⟩))

private theorem Schema.deriveFields_eq_each (readOnly : Bool) (fields : List (FieldNode TypeNode)) :
    Schema.deriveFields readOnly fields =
      Building.each (Schema.deriveField readOnly) fields := by
  induction fields with
  | nil => rfl
  | cons field rest inductionHypothesis =>
      obtain ⟨declared, external, ⟨arity, target⟩, effects, version, description⟩ := field
      rw [Schema.deriveFields, Building.each, Schema.deriveField, Building.bind_assoc,
        inductionHypothesis]
      rfl

theorem Schema.derive_eq (readOnly : Bool) (node : TypeNode) :
    Schema.derive readOnly node =
      Building.once (fun schema => schema.typeId == node.id)
        ((Building.each (Schema.deriveField readOnly) node.fields).bind fun elements =>
          Building.pure ⟨node.id, node.version, elements⟩) := by
  cases node with
  | mk => rw [Schema.derive, Schema.deriveFields_eq_each]

/-- The schema of a node as the result of a derivation, which cannot fail. -/
def TypeNode.derivedSchema (readOnly : Bool) (node : TypeNode) : Except Empty Schema :=
  .ok (node.schema readOnly)

section Derivations

variable (readOnly : Bool) {nodes : List TypeNode}

private theorem Schema.deriveTarget_advances
    (target : Target TypeNode)
    (derivedBelow : ∀ inner, target.nested? = some inner →
      DerivesAlone (TypeNode.derivedSchema readOnly) nodes (Schema.derive readOnly) inner)
    {built : List Schema}
    (remembers : Remembers (TypeNode.derivedSchema readOnly) nodes built) :
    Building.Advances (Remembers (TypeNode.derivedSchema readOnly) nodes) built
      (Schema.deriveTarget readOnly target built) fun result _ =>
        result = .ok (target.map (TypeNode.schema readOnly)) := by
  cases target with
  | scalar type => exact .pure remembers rfl
  | struct inner =>
      change Building.Advances _ _ _ fun result _ =>
        result = (inner.derivedSchema readOnly).bind fun schema => .ok (Target.struct schema)
      exact .bindAlone ((derivedBelow inner rfl built remembers).weaken And.left)
        fun schema later keeps => .pure keeps rfl

private theorem Schema.deriveField_advances
    (field : FieldNode TypeNode)
    (derivedBelow : ∀ inner, field.shape.nested? = some inner →
      DerivesAlone (TypeNode.derivedSchema readOnly) nodes (Schema.derive readOnly) inner)
    {built : List Schema}
    (remembers : Remembers (TypeNode.derivedSchema readOnly) nodes built) :
    Building.Advances (Remembers (TypeNode.derivedSchema readOnly) nodes) built
      (Schema.deriveField readOnly field built) fun result _ =>
        result = .ok (field.element readOnly) := by
  change Building.Advances _ _ _ fun result _ =>
    result = (Except.ok (field.shape.target.map (TypeNode.schema readOnly))).bind fun nested =>
      .ok (SchemaElement.ofField readOnly (field.withShape ⟨field.shape.arity, nested⟩))
  exact .bindAlone (Schema.deriveTarget_advances readOnly field.shape.target derivedBelow remembers)
    fun nested later keeps => .pure keeps rfl

/-- Deriving the schema of one of some coherent nodes gives it, whatever of the nodes was
derived before. -/
theorem Schema.derive_alone
    (coherent : Coherent nodes)
    (node : TypeNode)
    (member : node ∈ nodes) :
    DerivesAlone (TypeNode.derivedSchema readOnly) nodes (Schema.derive readOnly) node := by
  induction node using TypeNode.induction with
  | step node inductionHypothesis =>
      intro built remembers
      rw [Schema.derive_eq]
      refine coherent.once_advances ?typed member remembers ?made
      case typed =>
        intro other schema given
        obtain rfl := Except.ok.inj given
        rw [TypeNode.schema_eq]
      case made =>
        have fields := Building.Advances.eachAlone node.fields
          (fun field fieldMember before keeps =>
            Schema.deriveField_advances readOnly field
              (fun inner isNested =>
                have nests := TypeNode.mem_nested.mpr ⟨field, fieldMember, isNested⟩
                inductionHypothesis inner nests (coherent.nested_mem node member inner nests))
              keeps)
          remembers
        have alone : node.derivedSchema readOnly =
            (node.fields.mapM fun field => Except.ok (field.element readOnly)).bind
              fun elements => .ok ⟨node.id, node.version, elements⟩ := by
          rw [Results.mapM_eq_map fun _ _ => rfl, TypeNode.derivedSchema, TypeNode.schema_eq]
          rfl
        rw [alone]
        exact .bindAlone fields fun elements later keeps => .pure keeps rfl

end Derivations

theorem Building.value_eq
    {σ α : Type}
    {computation : Building Empty σ α}
    {memory : σ}
    {value : α}
    (given : (computation memory).1 = .ok value) :
    (computation.value memory).1 = value := by
  unfold Building.value
  generalize computation memory = outcome at given
  obtain ⟨result, later⟩ := outcome
  obtain rfl : result = .ok value := given
  rfl

theorem Building.value_memory
    {σ α : Type}
    (computation : Building Empty σ α)
    (memory : σ) :
    (computation.value memory).2 = (computation memory).2 := by
  unfold Building.value
  split
  next ended => rw [ended]
  next impossible _ _ => cases impossible

/-- The schemas that deriving nodes in order leaves. -/
def Schema.deriveAll (readOnly : Bool) (nodes : List TypeNode) : List Schema :=
  (Building.each (Schema.derive readOnly) nodes []).2

/-- The schema derived for a node after others is the schema of the node. -/
theorem Schema.derive_value
    {readOnly : Bool}
    {nodes : List TypeNode}
    (coherent : Coherent nodes)
    {earlier : List TypeNode}
    (among : ∀ node ∈ earlier, node ∈ nodes)
    {node : TypeNode}
    (member : node ∈ nodes) :
    ((Schema.derive readOnly node).value (Schema.deriveAll readOnly earlier)).1 =
      node.schema readOnly := by
  have derives := Schema.derive_alone readOnly coherent
  have before := DerivesAlone.each derives earlier among Remembers.nothing
  have derived := (derives node member _ before.kept).ensured.1
  exact Building.value_eq derived

end BlockSchema
