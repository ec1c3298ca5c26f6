import BlockSchema.Proofs.Directive.Exclusion
import BlockSchema.Proofs.Graph.Replacement

/-!
Contract: the graph under tables that exclude one field more.

Excluding a field takes references away and adds none, and what is asked of the fields of a
type is asked of fewer. So whatever was accepted still is. A node that is built both with and
without the exclusion differs by the node of the one type, wherever that is embedded.
-/

set_option autoImplicit false

namespace BlockSchema

/-! ## Tables -/

namespace DirectiveTable.Excluding

variable {name : String} {table later : DirectiveTable}

private theorem excludes_eq (excluding : table.Excluding name later) (other : String) :
    later.excludes other = (decide (other = name) || table.excludes other) := by
  by_cases same : other = name
  · simp [same, excluding.excluded]
  · simp [same, excludes, excluding.others other same]

private theorem included_eq (excluding : table.Excluding name later) (fields : List FieldDef) :
    later.included fields = (table.included fields).filter fun field => field.name ≠ name := by
  rw [included, included, List.filter_filter]
  refine List.filter_congr fun field _ => ?_
  rw [excluding.excludes_eq, Bool.not_or, decide_not]

private theorem externalName_eq
    (excluding : table.Excluding name later)
    {field : FieldDef}
    (apart : field.name ≠ name) :
    later.externalName field = table.externalName field := by
  rw [externalName, externalName, excluding.others field.name apart]

/-- What is asked of the fields left in is asked of fewer. -/
theorem fits
    (excluding : table.Excluding name later)
    {fields : List FieldDef}
    (fits : table.Fits (table.included fields)) :
    later.Fits (later.included fields) := by
  rw [excluding.included_eq]
  have apart : ∀ field ∈ (table.included fields).filter fun field => field.name ≠ name,
      field.name ≠ name := fun field member => by simpa using (List.mem_filter.mp member).2
  have among : ∀ field ∈ (table.included fields).filter fun field => field.name ≠ name,
      field ∈ table.included fields := fun field member => List.mem_of_mem_filter member
  refine ⟨fun field member => ?_, ?_, fun field member => fits.supported field (among field member)⟩
  · rw [excluding.externalName_eq (apart field member)]
    exact fits.valid field (among field member)
  · rw [List.map_congr_left fun field member => excluding.externalName_eq (apart field member)]
    exact fits.distinct.sublist (List.filter_sublist.map _)

/-- Another field is made of its declaration as before. -/
theorem madeOf
    (excluding : table.Excluding name later)
    {declaration : FieldDef}
    (apart : declaration.name ≠ name)
    {field : FieldNode TypeNode}
    (made : field.MadeOf later declaration) :
    field.MadeOf table declaration where
  declared := made.declared
  external := made.external.trans (excluding.externalName_eq apart)
  shape := made.shape
  effects := made.effects.trans (excluding.others _ apart)
  version := by
    rw [made.version, Outline.fieldVersion, Outline.fieldVersion, excluding.version,
      excluding.others _ apart]
  description := made.description

end DirectiveTable.Excluding

/-- Fields that are made of one declaration say the same by themselves. -/
theorem FieldNode.MadeOf.outline_eq
    {table : DirectiveTable}
    {declaration : FieldDef}
    {field other : FieldNode TypeNode}
    (made : field.MadeOf table declaration)
    (madeOther : other.MadeOf table declaration) :
    other.outline = field.outline := by
  have sameShape : other.shape.map TypeNode.id = field.shape.map TypeNode.id :=
    Except.ok.inj (madeOther.shape.symm.trans made.shape)
  rw [FieldNode.outline, FieldNode.outline, FieldNode.withShape, FieldNode.withShape,
    FieldNode.mk.injEq]
  exact ⟨madeOther.declared.trans made.declared.symm, madeOther.external.trans made.external.symm,
    sameShape, madeOther.effects.trans made.effects.symm,
    madeOther.version.trans made.version.symm, madeOther.description.trans made.description.symm⟩

/-- A node with other fields is what its type gives with those. -/
theorem TypeDef.node_eq_with
    {definition : TypeDef}
    {registry : Registry}
    {node : TypeNode}
    (isNode : node = definition.node registry node.fields)
    (fields : List (FieldNode TypeNode)) :
    definition.node registry fields = { node with fields := fields } := by
  rw [isNode]
  rfl

/-- A registry that excludes one field of a type more than another one. -/
structure Registry.Excluding (type : TypeId) (name : String) (registry later : Registry) :
    Prop where
  registers : ∀ id, later.registers id = registry.registers id
  others : ∀ id, id ≠ type → later.table id = registry.table id
  own : (registry.table type).Excluding name (later.table type)

/-! ## References -/

/-- A field of one type that is not excluded refers to another type, and is not the field of
the given type and name. -/
def RefersBeside
    (manifest : Manifest)
    (registry : Registry)
    (type : TypeId)
    (name : String)
    (outer inner : TypeId) :
    Prop :=
  ∃ fields, manifest.included? registry outer = some fields ∧
    ∃ field ∈ fields, (outer = type → field.name ≠ name) ∧ field.shape.reference? = some inner

theorem RefersBeside.refers
    {manifest : Manifest}
    {registry : Registry}
    {type : TypeId}
    {name : String}
    {outer inner : TypeId}
    (refers : RefersBeside manifest registry type name outer inner) :
    Refers manifest registry outer inner := by
  obtain ⟨fields, found, field, member, _, isReference⟩ := refers
  exact ⟨fields, found, field, member, isReference⟩

namespace Registry.Excluding

variable
  {manifest : Manifest}
  {type : TypeId}
  {name : String}
  {registry later : Registry}

private theorem included?_eq (excluding : registry.Excluding type name later) (id : TypeId) :
    manifest.included? later id =
      (manifest.included? registry id).map
        (List.filter fun field => id ≠ type || field.name ≠ name) := by
  rw [Manifest.included?, Manifest.included?, Option.map_map]
  refine congrArg (Option.map · (manifest.get? id)) (funext fun definition => ?_)
  by_cases same : id = type
  · subst same
    simp [excluding.own.included_eq]
  · simp [same, excluding.others id same]

/-- A field that is left in was left in before, and is not the excluded one. -/
theorem mem_included?_iff
    (excluding : registry.Excluding type name later)
    {id : TypeId}
    {field : FieldDef} :
    (∃ fields, manifest.included? later id = some fields ∧ field ∈ fields) ↔
      ∃ fields, manifest.included? registry id = some fields ∧ field ∈ fields ∧
        (id = type → field.name ≠ name) := by
  rw [excluding.included?_eq]
  cases manifest.included? registry id with
  | none => simp
  | some fields => simp [List.mem_filter, imp_iff_not_or]

theorem refers_iff (excluding : registry.Excluding type name later) {outer inner : TypeId} :
    Refers manifest later outer inner ↔
      RefersBeside manifest registry type name outer inner := by
  constructor
  · rintro ⟨fields, found, field, member, isReference⟩
    obtain ⟨before, foundBefore, memberBefore, apart⟩ :=
      excluding.mem_included?_iff.mp ⟨fields, found, member⟩
    exact ⟨before, foundBefore, field, memberBefore, apart, isReference⟩
  · rintro ⟨before, foundBefore, field, memberBefore, apart, isReference⟩
    obtain ⟨fields, found, member⟩ :=
      excluding.mem_included?_iff.mpr ⟨before, foundBefore, memberBefore, apart⟩
    exact ⟨fields, found, field, member, isReference⟩

theorem refers
    (excluding : registry.Excluding type name later)
    (outer inner : TypeId)
    (refers : Refers manifest later outer inner) :
    Refers manifest registry outer inner :=
  (excluding.refers_iff.mp refers).refers

/-- The fields of a type fit when they did before. -/
theorem exists_fits
    (excluding : registry.Excluding type name later)
    {id : TypeId}
    (fits : ∃ fields, manifest.included? registry id = some fields ∧
      (registry.table id).Fits fields) :
    ∃ fields, manifest.included? later id = some fields ∧ (later.table id).Fits fields := by
  obtain ⟨fields, found, fit⟩ := fits
  obtain ⟨definition, isDefined, rfl⟩ := Option.map_eq_some_iff.mp found
  refine ⟨_, Manifest.included?_of_get? isDefined, ?_⟩
  by_cases same : id = type
  · subst same
    exact excluding.own.fits fit
  · rw [excluding.others id same]
    exact fit

/-- What was acceptable is acceptable still. -/
theorem acceptable
    (excluding : registry.Excluding type name later)
    {id : TypeId}
    (acceptable : Acceptable manifest registry id) :
    Acceptable manifest later id := by
  have reached : ∀ other, Relation.ReflTransGen (Refers manifest later) id other →
      Relation.ReflTransGen (Refers manifest registry) id other :=
    fun other path => Relation.ReflTransGen.mono excluding.refers _ _ path
  refine ⟨fun other path => excluding.exists_fits (acceptable.fits other (reached other path)),
    fun other path cycle => ?_⟩
  exact acceptable.acyclic other (reached other path)
    (Relation.TransGen.mono excluding.refers _ _ cycle)

/-! ## Nodes -/

section Nodes

variable {definition : TypeDef}

private theorem outline_eq
    (excluding : registry.Excluding type name later)
    (apart : definition.id ≠ type) :
    definition.outline later = definition.outline registry := by
  rw [TypeDef.outline, TypeDef.outline, excluding.others _ apart]

private theorem node_eq
    (excluding : registry.Excluding type name later)
    (apart : definition.id ≠ type) :
    definition.node later = definition.node registry := by
  funext fields
  simp only [TypeDef.node, excluding.others _ apart, excluding.registers]

/-- The node of the type itself, with the same fields, excludes one declared field more. -/
theorem own_node_eq
    (excluding : registry.Excluding definition.id name later)
    (fields : List (FieldNode TypeNode)) :
    definition.node later fields =
      { definition.node registry fields with
        excluded := definition.insertName name
          (Outline.excluded definition (registry.table definition.id)) } := by
  have excluded : Outline.excluded definition (later.table definition.id) =
      definition.insertName name (Outline.excluded definition (registry.table definition.id)) := by
    refine List.filter_congr fun other (member : other ∈ definition.fieldNames) => ?_
    have known : other ∈ definition.fields.map FieldDef.name := member
    rw [excluding.own.excludes_eq]
    simp [Outline.excluded, List.mem_filter, known]
  rw [TypeDef.node, excluding.own.version, excluding.own.noSchema, excluding.own.doc,
    excluding.registers, excluded]
  rfl

/-- The fields of the type itself say what they said, without the field that is excluded. -/
theorem own_outlines
    (excluding : registry.Excluding type name later)
    {own other : TypeNode}
    (matching : own.Matches manifest registry)
    (matchingLater : other.Matches manifest later)
    (isOwn : own.id = type)
    (isOther : other.id = type) :
    other.fields.map FieldNode.outline =
      (own.fields.filter fun field => field.declared ≠ name).map FieldNode.outline := by
  subst isOwn
  obtain ⟨definition, found, made⟩ := matching.made
  obtain ⟨_, foundAgain, madeLater⟩ := matchingLater.made
  rw [isOther] at foundAgain madeLater
  obtain rfl := Option.some.inj (foundAgain.symm.trans found)
  change List.Forall₂ _ ((later.table own.id).included _) _ at madeLater
  rw [excluding.own.included_eq] at madeLater
  have sameNames : ∀ (declaration : FieldDef) (field : FieldNode TypeNode),
      field.MadeOf (registry.table own.id) declaration →
        (decide (declaration.name ≠ name) = true ↔ decide (field.declared ≠ name) = true) := by
    intro declaration field isMade
    rw [isMade.declared]
  have left := List.rel_filter (fun _ _ isMade => sameNames _ _ isMade) made
  refine Results.map_eq_map_of_forall₂ madeLater left fun declaration member other isOther => ?_
  have apart : declaration.name ≠ name := by simpa using (List.mem_filter.mp member).2
  exact fun field isField => isField.outline_eq (excluding.own.madeOf apart isOther)

/-- The node of another type says what it said, over the nodes that it nests now. -/
theorem eq_of_apart
    (excluding : registry.Excluding type name later)
    {node other : TypeNode}
    (matching : node.Matches manifest registry)
    (matchingLater : other.Matches manifest later)
    (sameId : other.id = node.id)
    (apart : node.id ≠ type)
    {change : TypeNode → TypeNode}
    (changed : ∀ inner ∈ node.nested, ∀ found ∈ other.nested, found.id = inner.id →
      found = change inner) :
    other = { node with
      fields := node.fields.map fun field => field.withShape (field.shape.map change) } := by
  obtain ⟨definition, found, outlined, isNode⟩ := matching
  obtain ⟨_, foundAgain, outlinedLater, isNodeLater⟩ := matchingLater
  rw [sameId] at foundAgain
  obtain rfl := Option.some.inj (found.symm.trans foundAgain)
  rw [← Manifest.id_of_get? found] at apart
  rw [excluding.outline_eq apart, outlined] at outlinedLater
  have sameFields := FieldNode.map_withShape (Outline.mk.inj outlinedLater).1.symm
    fun field member inner isNested field' member' found isFound =>
      changed inner (TypeNode.mem_nested.mpr ⟨field, member, isNested⟩)
        found (TypeNode.mem_nested.mpr ⟨field', member', isFound⟩)
  rw [isNodeLater, excluding.node_eq apart, sameFields, TypeDef.node_eq_with isNode]

/-- The node of the type itself is what it was, without the field. -/
theorem eq_without
    (excluding : registry.Excluding type name later)
    (found : manifest.get? type = some definition)
    {own other : TypeNode}
    (matching : own.Matches manifest registry)
    (matchingLater : other.Matches manifest later)
    (isOwn : own.id = type)
    (isOther : other.id = type)
    (unchanged : ∀ inner ∈ own.nested, ∀ found ∈ other.nested, found.id = inner.id →
      found = inner) :
    other = own.without definition name := by
  have outlines := excluding.own_outlines matching matchingLater isOwn isOther
  have sameFields := FieldNode.eq_of_outlines outlines
    fun field member inner isNested field' member' found isFound =>
      unchanged inner (TypeNode.mem_nested.mpr ⟨field, List.mem_of_mem_filter member, isNested⟩)
        found (TypeNode.mem_nested.mpr ⟨field', member', isFound⟩)
  obtain ⟨_, foundOwn, _, isNode⟩ := matching
  obtain ⟨_, foundOther, _, isNodeLater⟩ := matchingLater
  rw [isOwn] at foundOwn
  rw [isOther] at foundOther
  obtain rfl := Option.some.inj (found.symm.trans foundOwn)
  obtain rfl := Option.some.inj (found.symm.trans foundOther)
  obtain rfl : definition.id = type := Manifest.id_of_get? found
  have ownExcluded := congrArg TypeNode.excluded isNode
  rw [isNodeLater, sameFields, excluding.own_node_eq, TypeDef.node_eq_with isNode,
    TypeNode.without, ownExcluded]
  rfl

/-- Of a node that is built under both registries, the later one is the earlier one, with the
field left out where the node of the type is embedded. -/
theorem eq_replacing
    (excluding : registry.Excluding type name later)
    {nodes others : List TypeNode}
    (built : WellBuilt manifest registry nodes)
    (builtLater : WellBuilt manifest later others)
    (found : manifest.get? type = some definition)
    {own : TypeNode}
    (isOwn : own ∈ nodes)
    (named : own.id = type)
    {node other : TypeNode}
    (member : node ∈ nodes)
    (memberLater : other ∈ others)
    (sameId : other.id = node.id) :
    other = node.replacing (own.without definition name) := by
  induction other using TypeNode.induction generalizing node with
  | step other inductionHypothesis =>
      have matching := built.matches_of_mem member
      have matchingLater := builtLater.matches_of_mem memberLater
      have changed : ∀ inner ∈ node.nested, ∀ found ∈ other.nested, found.id = inner.id →
          found = inner.replacing (own.without definition name) :=
        fun inner isNested found isFound => inductionHypothesis found isFound
          (built.nested_mem member isNested) (builtLater.nested_mem memberLater isFound)
      by_cases same : node.id = type
      · obtain rfl := built.eq_of_id_eq member isOwn (same.trans named.symm)
        rw [TypeNode.replacing_without_self]
        -- The type does not embed itself, so what it nests is as it was.
        obtain ⟨earlier, between, place⟩ := List.append_of_mem member
        obtain ⟨builtEarlier, absent, nests⟩ := built.before_place place
        refine excluding.eq_without found matching matchingLater same (sameId.trans same) ?_
        intro inner isNested found isFound sameInner
        have absentNew : (node.without definition name).id ∉ earlier.map TypeNode.id := absent
        rw [changed inner isNested found isFound sameInner]
        exact builtEarlier.replacing_eq_self absentNew (nests inner isNested)
      · have apart : node.id ≠ (own.without definition name).id := fun isSame =>
          same (isSame.trans named)
        rw [TypeNode.replacing_of_id_ne apart]
        exact excluding.eq_of_apart matching matchingLater sameId same changed

end Nodes

end Registry.Excluding

end BlockSchema
