import BlockSchema.Proofs.Schema.Form

/-!
Contract: the text of schemas that derivations give.

A derivation limits single blocks to one block and gives only zeros as defaults, so the document
of a schema has plain numbers and no key twice in an object. Its text is JSON text for it and
tells the group and the schema.
-/

set_option autoImplicit false

namespace BlockSchema

/-! ## What derivations make -/

/-- A single block is limited to one block, and a default is a zero. -/
structure SchemaElement.IsPlain {σ : Type} (element : SchemaElement σ) : Prop where
  single : ∀ limit inner, element.kind = .block limit inner → limit = 1
  zero : ∀ value, element.default = some value → ∃ kind, value = Scalar.zero kind

/-- All elements are plain, at every depth. -/
inductive Schema.IsPlain : Schema → Prop where
  | ofElements
      {schema : Schema}
      (each : ∀ element ∈ schema.elements, element.IsPlain)
      (nested : ∀ inner ∈ schema.nested, IsPlain inner) :
      IsPlain schema

/-- An element is plain and has a plain schema inside, if it has one. -/
def SchemaElement.IsPlainWithin (element : SchemaElement Schema) : Prop :=
  element.IsPlain ∧ ∀ schema, element.kind.nested? = some schema → schema.IsPlain

private theorem SchemaElement.ofField_isPlain
    {σ : Type}
    (readOnly : Bool)
    (field : FieldNode σ) :
    (SchemaElement.ofField readOnly field).IsPlain := by
  obtain ⟨declared, external, ⟨arity, target⟩, effects, version, description⟩ := field
  constructor
  case single =>
    intro limit inner isBlock
    change ElementKind.ofShape ⟨arity, target⟩ = .block limit inner at isBlock
    cases arity <;> cases target <;> simp [ElementKind.ofShape] at isBlock <;> exact isBlock.1.symm
  case zero =>
    intro value isDefault
    change SchemaElement.defaultOf _ _ ⟨arity, target⟩ = some value at isDefault
    unfold SchemaElement.defaultOf at isDefault
    split at isDefault
    case h_1 =>
      split at isDefault
      case isTrue => exact ⟨_, (Option.some.inj isDefault).symm⟩
      case isFalse => cases isDefault
    case h_2 => cases isDefault

/-- All schemas that a derivation remembers are plain. -/
def Schema.AllPlain (built : List Schema) : Prop :=
  ∀ schema ∈ built, schema.IsPlain

/-- Deriving the schema of a node among plain schemas gives a plain one. -/
def TypeNode.GivesPlain (readOnly : Bool) (node : TypeNode) : Prop :=
  ∀ built, Schema.AllPlain built →
    Building.Advances Schema.AllPlain built (Schema.derive readOnly node built)
      fun result _ => ∀ schema, result = .ok schema → schema.IsPlain

section Derivations

variable (readOnly : Bool)

private theorem Schema.deriveTarget_isPlain
    (target : Target TypeNode)
    (below : ∀ inner, target.nested? = some inner → inner.GivesPlain readOnly)
    {built : List Schema}
    (plain : Schema.AllPlain built) :
    Building.Advances Schema.AllPlain built (Schema.deriveTarget readOnly target built)
      fun result _ => ∀ derived, result = .ok derived →
        ∀ schema, derived.nested? = some schema → schema.IsPlain := by
  cases target with
  | scalar type =>
      refine .pure plain fun derived given schema impossible => ?_
      obtain rfl := Except.ok.inj given
      cases impossible
  | struct inner =>
      refine .bind (below inner rfl built plain) (fun _ _ _ _ impossible => by cases impossible) ?_
      intro schema later keeps isPlain
      refine .pure keeps fun derived given nested isNested => ?_
      obtain rfl := Except.ok.inj given
      obtain rfl := Option.some.inj isNested
      exact isPlain schema rfl

private theorem Schema.deriveField_isPlain
    (field : FieldNode TypeNode)
    (below : ∀ inner, field.shape.nested? = some inner → inner.GivesPlain readOnly)
    {built : List Schema}
    (plain : Schema.AllPlain built) :
    Building.Advances Schema.AllPlain built (Schema.deriveField readOnly field built)
      fun result _ => ∀ element, result = .ok element → element.IsPlainWithin := by
  refine .bind (Schema.deriveTarget_isPlain readOnly field.shape.target below plain)
    (fun _ _ _ _ impossible => by cases impossible) ?_
  intro target later keeps isPlain
  refine .pure keeps fun element given => ?_
  obtain rfl := Except.ok.inj given
  refine ⟨SchemaElement.ofField_isPlain readOnly _, fun schema isNested => ?_⟩
  change (ElementKind.ofShape ⟨field.shape.arity, target⟩).nested? = some schema at isNested
  rw [ElementKind.nested?_ofShape] at isNested
  exact isPlain target rfl schema isNested

private theorem TypeNode.givesPlain (node : TypeNode) : node.GivesPlain readOnly := by
  induction node using TypeNode.induction with
  | step node inductionHypothesis =>
      intro built plain
      have fields := Building.Advances.eachHolds
        (fun _ (element : SchemaElement Schema) _ => element.IsPlainWithin)
        (fun _ _ _ _ _ isPlain => isPlain)
        node.fields
        (fun field member before keeps => Schema.deriveField_isPlain readOnly field
          (fun inner isNested =>
            inductionHypothesis inner (TypeNode.mem_nested.mpr ⟨field, member, isNested⟩))
          keeps)
        plain
      have made : Building.Advances Schema.AllPlain built
          (((Building.each (Schema.deriveField readOnly) node.fields).bind fun elements =>
            Building.pure (Schema.mk node.id node.version elements)) built)
          fun result _ => ∀ schema, result = .ok schema → schema.IsPlain := by
        refine .bind fields (fun _ _ _ _ impossible => by cases impossible) ?_
        intro elements later keeps arePlain
        refine .pure keeps fun schema given => ?_
        obtain rfl := Except.ok.inj given
        have isPlain : ∀ element ∈ elements, element.IsPlainWithin := fun element member =>
          (Results.exists_of_mem_right (arePlain elements rfl) member).elim fun _ found => found.2
        refine .ofElements (fun element member => (isPlain element member).1) ?_
        intro inner isNested
        obtain ⟨element, member, nests⟩ := Schema.mem_nested.mp isNested
        exact (isPlain element member).2 inner nests
      rw [Schema.derive_eq]
      -- A schema found under the name may be that of another node. It is plain because all are.
      refine .once plain ?found (fun _ => made)
        (fun _ _ keeps _ => ⟨keeps, fun _ impossible => by cases impossible⟩) ?added
      case found =>
        intro schema member _ given same
        obtain rfl := Except.ok.inj same
        exact plain schema member
      case added =>
        intro schema later keeps isPlain
        refine ⟨fun other member => ?_, isPlain⟩
        rcases List.mem_append.mp member with isOld | isNew
        · exact keeps other isOld
        · obtain rfl := List.mem_singleton.mp isNew
          exact isPlain other rfl

end Derivations

/-- A derivation gives the schema, for some node and after deriving some others. -/
def Schema.Derivable (schema : Schema) : Prop :=
  ∃ (readOnly : Bool) (earlier : List TypeNode) (node : TypeNode),
    ((Schema.derive readOnly node).value (Schema.deriveAll readOnly earlier)).1 = schema

private theorem Schema.Derivable.isPlain {schema : Schema} (derivable : schema.Derivable) :
    schema.IsPlain := by
  obtain ⟨readOnly, earlier, node, rfl⟩ := derivable
  have before : Schema.AllPlain (Schema.deriveAll readOnly earlier) :=
    (Building.Keeps.each earlier
      (fun other _ built keeps => .of_advances (other.givesPlain readOnly built keeps))
      (fun _ impossible => by cases impossible)).kept
  have derives := (node.givesPlain readOnly _ before).ensured
  cases given : (Schema.derive readOnly node (Schema.deriveAll readOnly earlier)).1 with
  | error impossible => cases impossible
  | ok schema =>
      rw [Building.value_eq given]
      exact derives schema given

/-! ## The documents are regular -/

private theorem revisionDocument_regular
    (version : UInt32) :
    (revisionDocument version).Regular := by
  have fits : (version.toNat : Int) ≤ Number.maxWord := by
    have small := version.toNat_lt
    have large : (2 ^ 32 : Nat) ≤ Number.maxWord := by decide
    omega
  exact .number ⟨Int.natCast_nonneg _, fits⟩

private theorem literalsDocument_regular
    (values : List String) :
    (literalsDocument values).Regular := by
  refine .list fun item member => ?_
  obtain ⟨value, _, rfl⟩ := List.mem_map.mp member
  exact .text value

private theorem Scalar.toDocument_zero_regular (kind : ScalarKind) :
    (Scalar.zero kind).toDocument.Regular := by
  cases kind with
  | string => exact .text ""
  | int => exact .number ⟨by decide, by decide⟩
  | bool => exact .bool false
  | float => exact .number rfl

private theorem ElementKind.entries_regular
    {kind : ElementKind Document}
    (single : ∀ limit inner, kind = .block limit inner → limit = 1)
    (nested : ∀ inner, kind.nested? = some inner → inner.Regular) :
    ∀ entry ∈ kind.entries, entry.2.Regular := by
  cases kind with
  | scalar kind oneOf =>
      rw [entries, oneOfEntry_eq, List.forall_mem_append]
      refine ⟨?_, regular_optionalEntry _ _ _ fun values _ => literalsDocument_regular values⟩
      simp [Document.Regular.text]
  | list element => simp [entries, Document.Regular.text]
  | map element => simp [entries, Document.Regular.text]
  | block limit schema =>
      obtain rfl := single limit schema rfl
      have one : (Document.nat 1).Regular := .number ⟨by decide, by decide⟩
      simp [entries, Document.Regular.text, one, nested schema rfl]
  | blockList schema => simp [entries, Document.Regular.text, nested schema rfl]
  | blockMap schema => simp [entries, Document.Regular.text, nested schema rfl]

private theorem SchemaElement.entries_regular
    {element : SchemaElement Document}
    (plain : element.IsPlain)
    (nested : ∀ inner, element.kind.nested? = some inner → inner.Regular) :
    (Document.object element.entries).Regular := by
  refine .object (element.keys_entries.nodup (by decide)) ?_
  have defaultRegular : ∀ value ∈ element.default, value.toDocument.Regular := by
    intro value isDefault
    obtain ⟨kind, rfl⟩ := plain.zero value isDefault
    exact Scalar.toDocument_zero_regular kind
  rw [entries]
  simp only [List.forall_mem_append, List.forall_mem_singleton]
  exact ⟨⟨⟨⟨⟨⟨⟨⟨.text _, ElementKind.entries_regular plain.single nested⟩, .text _⟩,
    regular_optionalEntry _ _ _ fun _ _ => .bool _⟩,
    regular_optionalEntry _ _ _ fun _ _ => .bool _⟩,
    regular_optionalEntry _ _ _ fun _ _ => .bool _⟩,
    regular_optionalEntry _ _ _ defaultRegular⟩,
    regular_optionalEntry _ _ _ fun version _ => revisionDocument_regular version⟩,
    regular_optionalEntry _ _ _ fun _ _ => .text _⟩

private theorem Schema.elementForm_isPlain
    {element : SchemaElement Schema}
    (plain : element.IsPlain) :
    (Schema.elementForm element).IsPlain := by
  refine ⟨fun limit document isBlock => ?_, plain.zero⟩
  change Schema.kindDocuments element.kind = .block limit document at isBlock
  cases isKind : element.kind with
  | block found inner =>
      rw [isKind] at isBlock
      rw [← (ElementKind.block.inj isBlock).1]
      exact plain.single found inner isKind
  | scalar | list | map | blockList | blockMap =>
      rw [isKind] at isBlock
      cases isBlock

private theorem Schema.kindDocuments_nested? (kind : ElementKind Schema) :
    (Schema.kindDocuments kind).nested? =
      kind.nested?.map fun inner => Document.object inner.entries := by
  cases kind <;> rfl

private theorem Schema.IsPlain.entries_regular {schema : Schema} (plain : schema.IsPlain) :
    (Document.object schema.entries).Regular := by
  induction plain with
  | @ofElements schema each _ inductionHypothesis =>
      have elements : (Document.list (schema.elements.map fun element =>
          .object (Schema.elementForm element).entries)).Regular := by
        refine .list fun document member => ?_
        obtain ⟨element, isElement, rfl⟩ := List.mem_map.mp member
        refine SchemaElement.entries_regular (elementForm_isPlain (each element isElement)) ?_
        intro document isNested
        change (Schema.kindDocuments element.kind).nested? = some document at isNested
        rw [kindDocuments_nested?] at isNested
        obtain ⟨inner, nests, rfl⟩ := Option.map_eq_some_iff.mp isNested
        exact inductionHypothesis inner (Schema.mem_nested.mpr ⟨element, isElement, nests⟩)
      rw [Schema.entries_eq]
      have distinct : ["type_id", "version", "elements"].Nodup := by decide
      refine .object distinct ?_
      simp only [List.forall_mem_cons]
      exact ⟨.text _, revisionDocument_regular schema.version, elements, fun _ impossible => by
        cases impossible⟩

private theorem Schema.IsPlain.toDocument_regular
    {schema : Schema}
    (plain : schema.IsPlain)
    (group : String) :
    (schema.toDocument group).Regular := by
  cases plain.entries_regular with
  | object _ each =>
      refine .object ?_ ?_
      · rw [Schema.entries_eq]
        have distinct : ["$comment", "group", "type_id", "version", "elements"].Nodup := by decide
        exact distinct
      · exact List.forall_mem_append.mpr
          ⟨List.forall_mem_cons.mpr ⟨.text _, List.forall_mem_singleton.mpr (.text _)⟩, each⟩

/-! ## The text -/

/-- The text of a schema that a derivation gives is JSON text for its document, in which no
object has a key twice, and differs from the text of every other group or schema. -/
theorem Schema.render_lossless
    {schema : Schema}
    (derivable : schema.Derivable)
    (group : String) :
    Json.Spells (schema.render group) (schema.toDocument group) ∧
      (schema.toDocument group).Regular ∧
      ∀ (other : Schema) (otherGroup : String), other.Derivable →
        (schema.render group = other.render otherGroup ↔ group = otherGroup ∧ schema = other) := by
  have spelled : ∀ (schema : Schema) (group : String), schema.Derivable →
      Json.Spells (schema.render group) (schema.toDocument group) :=
    fun schema group derivable =>
      Json.spells_pretty (derivable.isPlain.toDocument_regular group)
  have spells := spelled schema group derivable
  refine ⟨spells, derivable.isPlain.toDocument_regular group, ?_⟩
  intro other otherGroup otherDerivable
  constructor
  · intro same
    have otherSpells := spelled other otherGroup otherDerivable
    rw [← same] at otherSpells
    exact Schema.toDocument_inj.mp (spells.unique otherSpells)
  · rintro ⟨rfl, rfl⟩
    rfl

namespace Warehouses

/-- A shelf with literals and a description that have quotes, controls and letters beyond ASCII. -/
def shelf : TypeNode where
  id := ⟨"depot.Shelf"⟩
  description := none
  version := 2
  noSchema := false
  doc := none
  registered := false
  fields :=
    [⟨"Zone", "zone", ⟨.plain, .scalar ⟨.string, some "Zone", ["\"inner\"", "rand\tstraße"]⟩⟩,
        .none, 0, some "a \\ and a \u0001"⟩,
      ⟨"Levels", "levels", ⟨.list, .scalar (.plain .int)⟩, .none, 3, none⟩]
  excluded := []

def warehouse : TypeNode where
  id := ⟨"depot.Warehouse"⟩
  description := none
  version := 0
  noSchema := false
  doc := none
  registered := true
  fields :=
    [⟨"Area", "area", ⟨.plain, .scalar (.plain .float)⟩, .none, 0, none⟩,
      ⟨"Main", "main", ⟨.pointer, .struct shelf⟩, .none, 0, none⟩]
  excluded := []

/-- The schema that the first derivation of all gives for a warehouse. -/
def schema (readOnly : Bool) : Schema :=
  ((Schema.derive readOnly warehouse).value (Schema.deriveAll readOnly [])).1

private theorem schema_derivable (readOnly : Bool) : (schema readOnly).Derivable :=
  ⟨readOnly, [], warehouse, rfl⟩

end Warehouses

/-- The schema of a warehouse has the schema of a shelf inside. Its text differs from that of
the read-only schema, and from that under another group. -/
theorem Schema.render_lossless_warehouses :
    (Warehouses.schema false).nested.map Schema.typeId = [Warehouses.shelf.id] ∧
      Json.Spells ((Warehouses.schema false).render "Warehouses")
        ((Warehouses.schema false).toDocument "Warehouses") ∧
      (Warehouses.schema false).render "Warehouses" ≠ (Warehouses.schema true).render "Warehouses" ∧
      (Warehouses.schema false).render "Warehouses" ≠ (Warehouses.schema false).render "Stores" := by
  obtain ⟨spells, _, tells⟩ :=
    Schema.render_lossless (Warehouses.schema_derivable false) "Warehouses"
  have differ : Warehouses.schema false ≠ Warehouses.schema true := by
    intro same
    have optionalities := congrArg
      (fun schema => schema.elements.map SchemaElement.optionality) same
    exact absurd optionalities (by decide +kernel)
  refine ⟨by decide +kernel, spells, ?_, ?_⟩
  · exact fun same => differ ((tells _ _ (Warehouses.schema_derivable true)).mp same).2
  · exact fun same => absurd ((tells _ _ (Warehouses.schema_derivable false)).mp same).1 (by decide)

end BlockSchema
