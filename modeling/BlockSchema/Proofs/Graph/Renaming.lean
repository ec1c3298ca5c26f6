import BlockSchema.Proofs.Directive.Renaming
import BlockSchema.Proofs.Graph.Lockstep
import BlockSchema.Proofs.Graph.Transparency
import BlockSchema.Proofs.Name.Canonical
import BlockSchema.Proofs.Schema.Derivation

/-!
Contract: fields that are given their own external names.

A directive can give a field any name. When it gives the external name that the field has
anyway, and that name is valid, the name is made into itself. So a walk meets the same faults and
builds the same nodes, which differ in nothing but in that they note the new name.
-/

set_option autoImplicit false

namespace BlockSchema

/-! ## Nodes without notes of names -/

def FieldEffects.withoutRename (effects : FieldEffects) : FieldEffects :=
  { effects with rename := Option.none }

/-- The field without a note that a directive named it. -/
def FieldNode.withoutRename {ν : Type} (field : FieldNode ν) : FieldNode ν :=
  { field with effects := field.effects.withoutRename }

/-- The node without a note, at any depth, that a directive named a field. -/
def TypeNode.withoutRenames (node : TypeNode) : TypeNode :=
  node.fold fun node fields => { node with fields := fields.map FieldNode.withoutRename }

/-- The field without such notes on it and in the node that it nests. -/
def FieldNode.withoutRenames (field : FieldNode TypeNode) : FieldNode TypeNode :=
  (field.withShape (field.shape.map TypeNode.withoutRenames)).withoutRename

/-- What does not look at the notes is made of a field without them as of the field. -/
theorem FieldNode.make_withoutRenames
    {ρ γ : Type}
    {derive : TypeNode → ρ}
    {make : FieldNode ρ → γ}
    (ignores : ∀ field : FieldNode ρ, make field.withoutRename = make field)
    {field : FieldNode TypeNode}
    (same : ∀ inner, field.shape.nested? = some inner →
      derive inner.withoutRenames = derive inner) :
    make (field.withoutRenames.withShape (field.withoutRenames.shape.map derive)) =
      make (field.withShape (field.shape.map derive)) := by
  have sameShape : field.withoutRenames.shape.map derive = field.shape.map derive :=
    (FieldShape.map_map _ _ field.shape).trans (FieldShape.map_congr same)
  rw [sameShape]
  exact ignores (field.withShape (field.shape.map derive))

namespace TypeNode

private theorem withoutRenames_eq (node : TypeNode) :
    node.withoutRenames =
      { node with fields := node.fields.map FieldNode.withoutRenames } := by
  rw [withoutRenames, fold_eq, List.map_map]
  rfl

/-- A conversion does not show who named a field. -/
theorem conversion_withoutRenames (node : TypeNode) :
    node.withoutRenames.conversion = node.conversion := by
  induction node using TypeNode.induction with
  | step node inductionHypothesis =>
      have sameFields : ∀ field ∈ node.fields,
          field.withoutRenames.conversion = field.conversion := fun field member =>
        FieldNode.make_withoutRenames (fun _ => rfl) fun inner isNested =>
          inductionHypothesis inner (mem_nested.mpr ⟨field, member, isNested⟩)
      rw [conversion_eq, conversion_eq, withoutRenames_eq, List.map_map,
        ← List.map_congr_left sameFields]
      rfl

/-- A schema does not show who named a field. -/
theorem schema_withoutRenames (readOnly : Bool) (node : TypeNode) :
    node.withoutRenames.schema readOnly = node.schema readOnly := by
  induction node using TypeNode.induction with
  | step node inductionHypothesis =>
      have sameFields : ∀ field ∈ node.fields,
          field.withoutRenames.element readOnly = field.element readOnly := fun field member =>
        FieldNode.make_withoutRenames (fun _ => rfl) fun inner isNested =>
          inductionHypothesis inner (mem_nested.mpr ⟨field, member, isNested⟩)
      rw [schema_eq, schema_eq, withoutRenames_eq, List.map_map,
        ← List.map_congr_left sameFields]
      rfl

end TypeNode

/-! ## Fields that are given their own names -/

/-- Effects on a field that differ from others at most in that they give the field the valid
external name that the others make for it. -/
inductive FieldEffects.SelfNamed (field : FieldDef) (effects : FieldEffects) :
    FieldEffects → Prop where
  | same : SelfNamed field effects effects
  | named (valid : Name.isExternal (Outline.externalName effects field) = true) :
      SelfNamed field effects
        { effects with rename := some (Outline.externalName effects field) }

instance {field : FieldDef} {effects later : FieldEffects} :
    Decidable (effects.SelfNamed field later) :=
  decidable_of_iff
    (later = effects ∨ Name.isExternal (Outline.externalName effects field) = true ∧
      later = { effects with rename := some (Outline.externalName effects field) })
    ⟨fun either => by
      rcases either with rfl | ⟨valid, rfl⟩
      · exact .same
      · exact .named valid,
    fun selfNamed => by
      cases selfNamed with
      | same => exact .inl rfl
      | named valid => exact .inr ⟨valid, rfl⟩⟩

/-- A table that differs from another one at most in that it gives fields their own names. -/
structure DirectiveTable.SelfNamed (fields : List FieldDef) (table later : DirectiveTable) :
    Prop where
  version : later.version = table.version
  noSchema : later.noSchema = table.noSchema
  doc : later.doc = table.doc
  effects : ∀ field ∈ fields,
    (table.effectsOn field.name).SelfNamed field (later.effectsOn field.name)

instance {fields : List FieldDef} {table later : DirectiveTable} :
    Decidable (table.SelfNamed fields later) :=
  decidable_of_iff
    (later.version = table.version ∧ later.noSchema = table.noSchema ∧ later.doc = table.doc ∧
      ∀ field ∈ fields,
        (table.effectsOn field.name).SelfNamed field (later.effectsOn field.name))
    ⟨fun ⟨version, noSchema, doc, effects⟩ => ⟨version, noSchema, doc, effects⟩,
      fun selfNamed => ⟨selfNamed.version, selfNamed.noSchema, selfNamed.doc, selfNamed.effects⟩⟩

/-- A registry that differs from another one at most in that it gives fields of a manifest their
own names. -/
def Registry.SelfNamed (manifest : Manifest) (registry later : Registry) : Prop :=
  ∀ definition ∈ manifest.types,
    later.registers definition.id = registry.registers definition.id ∧
      (registry.table definition.id).SelfNamed definition.fields (later.table definition.id)

instance {manifest : Manifest} {registry later : Registry} :
    Decidable (registry.SelfNamed manifest later) :=
  inferInstanceAs (Decidable (∀ definition ∈ manifest.types, _ ∧ _))

namespace FieldEffects.SelfNamed

variable {field : FieldDef} {effects later : FieldEffects}

/-- A valid name that a field has anyway is made into itself. -/
theorem externalName_eq (selfNamed : effects.SelfNamed field later) :
    Outline.externalName later field = Outline.externalName effects field := by
  cases selfNamed with
  | same => rfl
  | named valid => exact Name.external_external valid

private theorem withoutRename_eq (selfNamed : effects.SelfNamed field later) :
    later.withoutRename = effects.withoutRename := by
  cases selfNamed <;> rfl

private theorem excluded_eq (selfNamed : effects.SelfNamed field later) :
    later.excluded = effects.excluded := by
  cases selfNamed <;> rfl

private theorem version_eq (selfNamed : effects.SelfNamed field later) :
    later.version = effects.version := by
  cases selfNamed <;> rfl

end FieldEffects.SelfNamed

/-- A directive that names a field so gives it its own name, where no other directive names the
field or excludes it. -/
theorem DirectiveTable.exists_resolve_selfNamed
    {definition : TypeDef}
    {front back : List Directive}
    {table : DirectiveTable}
    {field : FieldDef}
    (resolved : resolve definition (front ++ back) = .ok table)
    (member : field ∈ definition.fields)
    (hasSchema : table.noSchema = false)
    (included : table.excludes field.name = false)
    (nameless : (table.effectsOn field.name).rename = none)
    (valid : Name.isExternal (Name.external field.name) = true) :
    ∃ later,
      resolve definition (front ++ .rename field.name (Name.external field.name) :: back) =
        .ok later ∧
      table.SelfNamed definition.fields later := by
  obtain ⟨later, resolvedLater, naming⟩ := exists_resolve_naming resolved
    (List.mem_map_of_mem member) hasSchema included nameless (Name.external field.name)
  refine ⟨later, resolvedLater, naming.version, naming.noSchema, naming.doc, fun other _ => ?_⟩
  by_cases same : other.name = field.name
  · have sameName : Outline.externalName (table.effectsOn field.name) other =
        Name.external field.name := by
      rw [Outline.externalName, nameless, same]
      rfl
    rw [same, naming.named, ← sameName]
    exact .named (sameName.symm ▸ valid)
  · rw [naming.others other.name same]
    exact .same

section Outlines

variable {table later : DirectiveTable}

private theorem Outline.field?_selfNamed
    (id : TypeId)
    {fields : List FieldDef}
    (selfNamed : table.SelfNamed fields later)
    {field : FieldDef}
    (member : field ∈ fields)
    (taken : List (String × String)) :
    Results.Agree (fun left right => left.withoutRename = right.withoutRename)
      (field? id later taken field) (field? id table taken field) := by
  have own := selfNamed.effects field member
  have sameVersion : fieldVersion later (later.effectsOn field.name) field =
      fieldVersion table (table.effectsOn field.name) field := by
    rw [fieldVersion, fieldVersion, selfNamed.version, own.version_eq]
  simp only [field?, own.externalName_eq]
  cases Name.isExternal (externalName (table.effectsOn field.name) field) with
  | false => exact .error _
  | true =>
      cases taken.lookup (externalName (table.effectsOn field.name) field) with
      | some first => exact .error _
      | none =>
          cases field.shape.classify with
          | error fault => exact .error _
          | ok shape =>
              refine .ok ?_
              rw [FieldNode.withoutRename, FieldNode.withoutRename, own.withoutRename_eq,
                sameVersion]

/-- Outlines differ in nothing but the notes of names. -/
theorem TypeDef.outline_selfNamed
    {definition : TypeDef}
    {registry others : Registry}
    (selfNamed : (registry.table definition.id).SelfNamed definition.fields
      (others.table definition.id)) :
    (definition.outline others).fields.map FieldNode.withoutRename =
        (definition.outline registry).fields.map FieldNode.withoutRename ∧
      (definition.outline others).fault? = (definition.outline registry).fault? := by
  have inStep := @Outline.ofFields_inStep (others.table definition.id)
    (registry.table definition.id)
    (fun left right => left.withoutRename = right.withoutRename)
    (fun left right same => (FieldNode.mk.inj same).2.1)
    definition.id definition.fields
    (fun field member => (selfNamed.effects field member).excluded_eq)
    (fun field member taken => Outline.field?_selfNamed definition.id selfNamed member taken) []
  refine ⟨?_, inStep.2⟩
  rw [← List.forall₂_eq_eq_eq, List.forall₂_map_left_iff, List.forall₂_map_right_iff]
  exact inStep.1

end Outlines

/-! ## Walks -/

section Walks

variable {visit : TypeId → Except CompileError TypeNode}

/-- Without the notes, a field is resolved as the field without the notes is, over nodes without
them. -/
theorem FieldNode.rebuild_withoutRenames (field : FieldNode TypeId) :
    (field.rebuild visit).map withoutRenames =
      field.withoutRename.rebuild fun id => (visit id).map TypeNode.withoutRenames := by
  obtain ⟨declared, external, ⟨arity, target⟩, effects, version, description⟩ := field
  cases target with
  | scalar type => rfl
  | struct id =>
      simp only [rebuild, withoutRename, Target.rebuild]
      cases visit id <;> rfl

private theorem TypeDef.rebuild_withoutRenames (definition : TypeDef) (registry : Registry) :
    (definition.rebuild registry visit).map TypeNode.withoutRenames =
      (((definition.outline registry).fields.map FieldNode.withoutRename).mapM
        (FieldNode.rebuild fun id => (visit id).map TypeNode.withoutRenames)).bind fun fields =>
          match (definition.outline registry).fault? with
          | some error => .error error
          | none => .ok (definition.node registry fields) := by
  have resolved := Results.map_mapM (FieldNode.rebuild visit) FieldNode.withoutRenames
    (definition.outline registry).fields
  simp only [FieldNode.rebuild_withoutRenames] at resolved
  rw [Results.mapM_map, ← resolved, TypeDef.rebuild]
  cases (definition.outline registry).fields.mapM (FieldNode.rebuild visit) with
  | error error => rfl
  | ok fields =>
      change Except.map _ (match (definition.outline registry).fault? with
        | some error => .error error
        | none => .ok (definition.node registry fields)) = _
      cases (definition.outline registry).fault? with
      | some error => rfl
      | none => exact congrArg Except.ok (TypeNode.withoutRenames_eq _)

variable {manifest : Manifest} {registry later : Registry}

/-- Under tables that differ in nothing but own names, a type gives the same node from fields. -/
theorem TypeDef.node_selfNamed
    {definition : TypeDef}
    (registers : later.registers definition.id = registry.registers definition.id)
    (selfNamed : (registry.table definition.id).SelfNamed definition.fields
      (later.table definition.id)) :
    definition.node later = definition.node registry := by
  have excluded : Outline.excluded definition (later.table definition.id) =
      Outline.excluded definition (registry.table definition.id) := by
    refine List.filter_congr fun name member => ?_
    obtain ⟨field, isField, rfl⟩ := List.mem_map.mp member
    exact (selfNamed.effects field isField).excluded_eq
  funext fields
  simp only [TypeDef.node, registers, selfNamed.version, selfNamed.noSchema, selfNamed.doc,
    excluded]

/-- Rebuilding a type gives the same fault, or the same node but for the notes. -/
theorem TypeNode.rebuild_selfNamed
    (selfNamed : registry.SelfNamed manifest later)
    (stack : List TypeId)
    (id : TypeId) :
    (TypeNode.rebuild manifest later stack id).map withoutRenames =
      (TypeNode.rebuild manifest registry stack id).map withoutRenames := by
  by_cases inside : id ∈ stack
  · rw [rebuild_of_mem inside, rebuild_of_mem inside]
  · cases found : manifest.get? id with
    | none => rw [rebuild_of_undefined inside found, rebuild_of_undefined inside found]
    | some definition =>
        have shorter := Manifest.free_length_lt inside found
        obtain ⟨registers, ownNamed⟩ := selfNamed definition (Manifest.mem_of_get? found)
        obtain ⟨sameFields, sameFault⟩ := TypeDef.outline_selfNamed ownNamed
        have visits : (fun inner => (rebuild manifest later (stack ++ [id]) inner).map
            withoutRenames) =
            fun inner => (rebuild manifest registry (stack ++ [id]) inner).map withoutRenames :=
          funext fun inner => rebuild_selfNamed selfNamed (stack ++ [id]) inner
        rw [rebuild_of_defined inside found, rebuild_of_defined inside found,
          TypeDef.rebuild_withoutRenames, TypeDef.rebuild_withoutRenames, sameFields, sameFault,
          visits, TypeDef.node_selfNamed registers ownNamed]
termination_by (manifest.free stack).length

/-- Nodes that differ in nothing but the notes of names, with the conversion and the schema of
one. -/
structure TypeNode.AlikeBesideRenames (left right : TypeNode) : Prop where
  nodes : left.withoutRenames = right.withoutRenames
  conversion : left.conversion = right.conversion
  schema : ∀ readOnly, left.schema readOnly = right.schema readOnly

private theorem TypeNode.alikeBesideRenames
    {left right : TypeNode}
    (nodes : left.withoutRenames = right.withoutRenames) :
    left.AlikeBesideRenames right where
  nodes := nodes
  conversion := by rw [← conversion_withoutRenames, nodes, conversion_withoutRenames]
  schema readOnly := by rw [← schema_withoutRenames, nodes, schema_withoutRenames]

/-- Walkers give the same fault, or nodes that are alike but for the notes, whatever they were
asked before. -/
theorem Walker.call_selfNamed
    (selfNamed : registry.SelfNamed manifest later)
    (calls others : List TypeId)
    (id : TypeId) :
    Results.Agree TypeNode.AlikeBesideRenames
      ((afterCalls manifest later others).call manifest later id).1
      ((afterCalls manifest registry calls).call manifest registry id).1 := by
  rw [call_afterCalls, call_afterCalls]
  exact (Results.Agree.of_map_eq (TypeNode.rebuild_selfNamed selfNamed [] id)).imp
    fun _ _ => TypeNode.alikeBesideRenames

end Walks

/-! ## External names -/

/-- The external name of an ASCII name is made of lower case letters, digits and single
underscores between them. Without the underscores it is the alphanumeric part of the declared
name in lower case, and it is valid when that part begins with a letter. Whatever the declared
name is made of, a valid external name is its own external name. So fields that are given their
own names are walked as before; a directive that names a field so, and that no other one stands
against, resolves to a table that differs from the former in that alone. -/
theorem Name.external_canonical :
    (∀ name : String, (∀ character ∈ name.toList, character.toNat < 128) →
      IsCanonical (external name) ∧
      (external name).toList.filter (· ≠ '_') =
        (name.toList.filter Char.isAlphanum).map Char.toLower ∧
      (isExternal (external name) = true ↔
        ∃ first, name.toList.find? Char.isAlphanum = some first ∧ first.isAlpha = true)) ∧
    (∀ name : String, isExternal (external name) = true →
      external (external name) = external name) ∧
    (∀ (manifest : Manifest) (registry later : Registry),
      registry.SelfNamed manifest later → ∀ (calls others : List TypeId) (id : TypeId),
        Results.Agree TypeNode.AlikeBesideRenames
          ((Walker.afterCalls manifest later others).call manifest later id).1
          ((Walker.afterCalls manifest registry calls).call manifest registry id).1) ∧
    (∀ (definition : TypeDef) (front back : List Directive) (table : DirectiveTable),
      DirectiveTable.resolve definition (front ++ back) = .ok table →
      table.noSchema = false →
      ∀ field ∈ definition.fields, table.excludes field.name = false →
        (table.effectsOn field.name).rename = none →
        isExternal (external field.name) = true →
        ∃ later,
          DirectiveTable.resolve definition
            (front ++ .rename field.name (external field.name) :: back) = .ok later ∧
          table.SelfNamed definition.fields later) := by
  refine ⟨fun name isAscii => ?_, fun name => external_external, ?_, ?_⟩
  · exact ⟨isCanonical_external isAscii, filter_external isAscii, isExternal_external_iff isAscii⟩
  · exact fun manifest registry later selfNamed => Walker.call_selfNamed selfNamed
  · exact fun definition front back table resolved hasSchema field member included nameless =>
      DirectiveTable.exists_resolve_selfNamed resolved member hasSchema included nameless

namespace Endpoints

def text : Shape := .scalar (.plain .string)

def peer : TypeDef :=
  ⟨"Peer", "net", none, [⟨"DNSName", text, none, none⟩]⟩

/-- The name of the last field makes no valid external name. -/
def endpoint : TypeDef :=
  ⟨"Endpoint", "net", none,
    [⟨"HTTPProxy", text, none, none⟩, ⟨"Peers", .list (.struct peer.id), none, none⟩,
      ⟨"1st", text, none, none⟩]⟩

def manifest : Manifest :=
  ⟨[peer, endpoint], by decide, by decide⟩

def directives : List Directive :=
  [.mark .required ["HTTPProxy"], .rename "1st" "First"]

def tableOf (definition : TypeDef) (directives : List Directive) : DirectiveTable :=
  (DirectiveTable.resolve definition directives).toOption.getD .empty

def registry : Registry :=
  [(endpoint.id, tableOf endpoint directives), (peer.id, tableOf peer [])]

/-- Three fields are given the external names that they have. -/
def later : Registry :=
  [(endpoint.id, tableOf endpoint
      [.mark .required ["HTTPProxy"], .rename "HTTPProxy" "http_proxy", .rename "1st" "first"]),
    (peer.id, tableOf peer [.rename "DNSName" "dns_name"])]

end Endpoints

/-- An ASCII name with acronyms, digits and separators at its ends, a name that begins with the
sign for kelvins, and endpoints whose fields are given their own names. -/
theorem Name.external_canonical_endpoints :
    (IsCanonical (external "-HTTPProxy__2ndURL ") ∧
      external "-HTTPProxy__2ndURL " = "http_proxy_2nd_url" ∧
      isExternal (external "-HTTPProxy__2ndURL ") = true) ∧
    (external (external "\u212AelvinScale") = external "\u212AelvinScale" ∧
      external "\u212AelvinScale" = "kelvin_scale") ∧
    Endpoints.registry.SelfNamed Endpoints.manifest Endpoints.later ∧
    (∃ node other,
      ((Walker.afterCalls Endpoints.manifest Endpoints.registry []).call Endpoints.manifest
        Endpoints.registry Endpoints.endpoint.id).1 = .ok node ∧
      ((Walker.afterCalls Endpoints.manifest Endpoints.later [Endpoints.peer.id]).call
        Endpoints.manifest Endpoints.later Endpoints.endpoint.id).1 = .ok other ∧
      node.fields.map FieldNode.external = ["http_proxy", "peers", "first"] ∧
      TypeNode.AlikeBesideRenames other node) ∧
    ∃ table,
      DirectiveTable.resolve Endpoints.endpoint
        (.rename "HTTPProxy" "http_proxy" :: Endpoints.directives) = .ok table ∧
      (Endpoints.tableOf Endpoints.endpoint Endpoints.directives).SelfNamed
        Endpoints.endpoint.fields table := by
  obtain ⟨canonical, settled, walked, directed⟩ := external_canonical
  have isAscii : ("-HTTPProxy__2ndURL ".toList.all fun character => character.toNat < 128) = true :=
    by decide +kernel
  have acronyms := canonical "-HTTPProxy__2ndURL " fun character member =>
    of_decide_eq_true (List.all_eq_true.mp isAscii character member)
  have selfNamed : Endpoints.registry.SelfNamed Endpoints.manifest Endpoints.later := by
    decide +kernel
  have accepted : ((Walker.afterCalls Endpoints.manifest Endpoints.registry []).call
      Endpoints.manifest Endpoints.registry Endpoints.endpoint.id).1.toOption.any
        (fun node => node.fields.map FieldNode.external == ["http_proxy", "peers", "first"]) =
      true := by
    decide +kernel
  obtain ⟨node, given, externals⟩ := Results.exists_of_any accepted
  have agree := walked Endpoints.manifest Endpoints.registry Endpoints.later selfNamed []
    [Endpoints.peer.id] Endpoints.endpoint.id
  rw [given] at agree
  obtain ⟨other, givenLater, alike⟩ := agree.exists_of_ok
  have ownName : external "HTTPProxy" = "http_proxy" := by decide +kernel
  have added := directed Endpoints.endpoint [] Endpoints.directives
    (Endpoints.tableOf Endpoints.endpoint Endpoints.directives) (by decide +kernel)
    (by decide +kernel) _ List.mem_cons_self (by decide +kernel) (by decide +kernel)
    (by decide +kernel)
  rw [ownName] at added
  refine ⟨⟨acronyms.1, by decide +kernel, acronyms.2.2.mpr ⟨'H', by decide +kernel, rfl⟩⟩,
    ⟨settled "\u212AelvinScale" (by decide +kernel), by decide +kernel⟩, selfNamed,
    ⟨node, other, given, givenLater, beq_iff_eq.mp externals, alike⟩, added⟩

end BlockSchema
