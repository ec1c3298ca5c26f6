import BlockSchema.Proofs.Graph.Offences
import BlockSchema.Proofs.Name.Snake
import Mathlib.Order.Bounds.Defs

/-!
Contract: what holds of every node that a walker has or gives, and how a type fails.

The declared fields of a type are split into those of its node and the excluded ones. Each
field of the node has the external name and the version that its declaration and its
directives make, and no two fields share an external name. A type whose building fails does
so for its first field that offends, whatever is remembered and at whatever depth.
-/

set_option autoImplicit false

namespace BlockSchema

/-! ## Names and versions -/

/-- A lower case ASCII letter, followed by such letters, digits and underscores. -/
def Name.FitsPattern (name : String) : Prop :=
  ∃ first rest, name.toList = first :: rest ∧ ('a' ≤ first ∧ first ≤ 'z') ∧
    ∀ character ∈ rest,
      ('a' ≤ character ∧ character ≤ 'z') ∨ ('0' ≤ character ∧ character ≤ '9') ∨
        character = '_'

private theorem Name.isExternal_iff {name : String} :
    isExternal name = true ↔ FitsPattern name := by
  unfold isExternal FitsPattern
  cases name.toList with
  | nil => simp [isExternalChars]
  | cons first rest =>
      simp [isExternalChars, isExternalTail, isLower_iff, Char.isDigit, Char.le_def, or_assoc]

namespace Versions

/-- The versions that are given. -/
def among (slots : List (Option UInt32)) : Set UInt32 :=
  { version | some version ∈ slots }

private theorem mem_among {slots : List (Option UInt32)} {version : UInt32} :
    version ∈ among slots ↔ some version ∈ slots :=
  Iff.rfl

private theorem isGreatest_one (version : UInt32) : IsGreatest (among [some version]) version := by
  constructor
  · exact List.mem_singleton_self _
  · intro other isOther
    rw [Option.some.inj (List.mem_singleton.mp isOther)]
    exact UInt32.le_refl version

/-- A version that is not given counts as zero. -/
theorem isGreatest_concat
    {slots : List (Option UInt32)}
    {greatest : UInt32}
    (isGreatest : IsGreatest (among slots) greatest)
    (slot : Option UInt32) :
    IsGreatest (among (slots ++ [slot])) (max greatest (slot.getD 0)) := by
  obtain ⟨inside, bound⟩ := isGreatest
  have isMax : ∀ version : UInt32,
      max greatest version = if greatest ≤ version then version else greatest := fun _ => rfl
  cases slot with
  | none =>
      have same : max greatest 0 = greatest := by
        rw [isMax]
        split
        next isZero => exact UInt32.le_antisymm (UInt32.zero_le) isZero
        next => rfl
      have noOther : among (slots ++ [none]) = among slots := by simp [among]
      change IsGreatest _ (max greatest 0)
      rw [same, noOther]
      exact ⟨inside, bound⟩
  | some version =>
      change IsGreatest _ (max greatest version)
      rw [isMax]
      split
      next above =>
        refine ⟨mem_among.mpr (by simp), fun other isOther => ?_⟩
        rcases List.mem_append.mp isOther with earlier | isLast
        · exact UInt32.le_trans (bound earlier) above
        · rw [Option.some.inj (List.mem_singleton.mp isLast)]
          exact UInt32.le_refl version
      next notAbove =>
        refine ⟨List.mem_append_left _ inside, fun other isOther => ?_⟩
        rcases List.mem_append.mp isOther with earlier | isLast
        · exact bound earlier
        · rw [Option.some.inj (List.mem_singleton.mp isLast)]
          exact (UInt32.le_total version greatest).resolve_right notAbove

/-- A field appears with the latest of the revisions that its type, its declaration and its
directives give. -/
theorem isGreatest_fieldVersion
    (table : DirectiveTable)
    (effects : FieldEffects)
    (declaration : FieldDef) :
    IsGreatest (among [some table.version, declaration.since, effects.version])
      (Outline.fieldVersion table effects declaration) :=
  isGreatest_concat (isGreatest_concat (isGreatest_one table.version) declaration.since)
    effects.version

end Versions

/-! ## Well-formed nodes -/

/-- What a field of a node has from its declaration and the table of its type. -/
structure FieldNode.WellFormed
    (table : DirectiveTable)
    (declaration : FieldDef)
    (field : FieldNode TypeNode) :
    Prop where
  declared : field.declared = declaration.name
  external : field.external =
    Name.snake ((table.effectsOn declaration.name).rename.getD declaration.name)
  valid : Name.FitsPattern field.external
  version : IsGreatest
    (Versions.among
      [some table.version, declaration.since, (table.effectsOn declaration.name).version])
    field.version

/-- A node is what a type and its table say: its fields and the excluded names are the
declared fields, each part in the declared order. -/
structure TypeNode.WellFormed
    (definition : TypeDef)
    (table : DirectiveTable)
    (node : TypeNode) :
    Prop where
  leftIn : node.fields.map FieldNode.declared =
    definition.fieldNames.filter fun name => !table.excludes name
  excluded : node.excluded = definition.fieldNames.filter table.excludes
  missing : ∀ name ∈ definition.fieldNames,
    name ∉ node.fields.map FieldNode.declared ↔ table.excludes name = true
  fields : List.Forall₂ (FieldNode.WellFormed table)
    (definition.fields.filter fun declaration => !table.excludes declaration.name) node.fields
  distinct : (node.fields.map FieldNode.external).Nodup
  version : node.version = table.version
  notBefore : ∀ field ∈ node.fields, node.version ≤ field.version

section Nodes

variable {manifest : Manifest} {registry : Registry}

private theorem TypeNode.Matches.wellFormed
    {node : TypeNode}
    (matching : node.Matches manifest registry) :
    ∃ definition, manifest.get? node.id = some definition ∧
      node.WellFormed definition (registry.table node.id) := by
  obtain ⟨definition, found, leftIn, excluded⟩ := matching.declared_eq
  obtain ⟨other, foundOther, made⟩ := matching.made
  obtain rfl := Option.some.inj (found.symm.trans foundOther)
  have fields : List.Forall₂ (FieldNode.WellFormed (registry.table node.id))
      (definition.fields.filter fun declaration =>
        !(registry.table node.id).excludes declaration.name) node.fields := by
    rw [List.forall₂_iff_zip] at made ⊢
    refine ⟨made.1, fun {declaration field} paired => ?_⟩
    have isMade := made.2 paired
    exact
      { declared := isMade.declared
        external := isMade.external
        valid := Name.isExternal_iff.mp (matching.isExternal (List.of_mem_zip paired).2)
        version := isMade.version ▸ Versions.isGreatest_fieldVersion _ _ declaration }
  have version : node.version = (registry.table node.id).version := by
    obtain ⟨_, _, _, isNode⟩ := matching
    rw [isNode]
    rfl
  refine ⟨definition, found, leftIn, excluded, ?_, fields, matching.external_nodup, version, ?_⟩
  · intro name member
    rw [leftIn]
    simp [member]
  · intro field member
    obtain ⟨declaration, _, formed⟩ := Results.exists_of_mem_right fields member
    exact formed.version.2 (version ▸ List.mem_cons_self)

end Nodes

/-! ## Calls of a walker -/

section Calls

variable {manifest : Manifest} {registry : Registry} {call inner : Call}

namespace Call

private theorem Sound.of_path
    {top : Call}
    (sound : top.Sound manifest registry)
    (path : Relation.ReflTransGen (Makes manifest registry) top call) :
    call.Sound manifest registry := by
  induction path with
  | refl => exact sound
  | tail _ makes inductionHypothesis => exact inductionHypothesis.of_makes makes

/-- The type of a call is neither remembered nor under way, so the call builds it. -/
structure Builds (manifest : Manifest) (call : Call) (definition : TypeDef) : Prop where
  absent : ∀ node ∈ call.nodes, node.id ≠ call.id
  outside : call.id ∉ call.stack
  found : manifest.get? call.id = some definition

/-- What a call gets for a type that its own type nests. -/
def nested (manifest : Manifest) (registry : Registry) (call : Call) (id : TypeId) :
    Except CompileError TypeNode :=
  ((⟨call.underWay, id, call.nodes⟩ : Call).outcome manifest registry).1

private theorem Sound.nested_eq
    (sound : call.Sound manifest registry)
    (absent : ∀ node ∈ call.nodes, node.id ≠ call.id) :
    call.nested manifest registry = TypeNode.rebuild manifest registry call.underWay := by
  funext id
  exact (walk_advances call.underWay id (sound.below.under absent)).ensured.1

/-- A call that goes down gets the same, whatever was built before on its way. -/
theorem Sound.nested_of_makes
    (sound : call.Sound manifest registry)
    (makes : call.Makes manifest registry inner) :
    (inner.outcome manifest registry).1 = call.nested manifest registry inner.id := by
  rw [(sound.of_makes makes).outcome_eq]
  obtain ⟨absent, _, _, _, _, _⟩ := makes
  rw [sound.nested_eq absent]

/-- The nodes that a call gives and leaves are well formed. -/
theorem Sound.wellFormed
    (sound : call.Sound manifest registry)
    {node : TypeNode}
    (member : (call.outcome manifest registry).1 = .ok node ∨
      node ∈ (call.outcome manifest registry).2) :
    ∃ definition, manifest.get? node.id = some definition ∧
      node.WellFormed definition (registry.table node.id) := by
  have advanced := walk_advances call.stack call.id sound.below
  have remembered : node ∈ (call.outcome manifest registry).2 := by
    rcases member with given | inside
    · exact (advanced.ensured.2 node given).1
    · exact inside
  exact (advanced.kept.built.matches_of_mem remembered).wellFormed

private theorem Sound.outcome_eq_error
    (sound : call.Sound manifest registry)
    {definition : TypeDef}
    (builds : call.Builds manifest definition)
    {error : CompileError} :
    (call.outcome manifest registry).1 = .error error ↔
      FirstOffends definition.id (registry.table definition.id) (call.nested manifest registry) []
        ((registry.table definition.id).included definition.fields) error := by
  rw [sound.outcome_eq, TypeNode.rebuild_of_defined builds.outside builds.found,
    sound.nested_eq builds.absent]
  exact definition.rebuild_eq_error registry

end Call

/-- Whatever a walker was asked before, every node that it gives and every node that it then
remembers is well formed, and so it is for every call on the way down. When a call builds a
type, it fails exactly with the error for which the first of the fields that are left in
offends: with an invalid name before a duplicate one, with a duplicate name before its shape,
and with its shape before what it nests. -/
theorem Walker.calls_wellFormed
    (manifest : Manifest)
    (registry : Registry)
    (calls : List TypeId)
    (id : TypeId) :
    (∀ node, ((afterCalls manifest registry calls).call manifest registry id).1 = .ok node ∨
        node ∈ ((afterCalls manifest registry calls).call manifest registry id).2.nodes →
      ∃ definition, manifest.get? node.id = some definition ∧
        node.WellFormed definition (registry.table node.id)) ∧
    (∀ call, Relation.ReflTransGen (Call.Makes manifest registry)
        ⟨[], id, (afterCalls manifest registry calls).nodes⟩ call →
      (∀ node, (call.outcome manifest registry).1 = .ok node ∨
          node ∈ (call.outcome manifest registry).2 →
        ∃ definition, manifest.get? node.id = some definition ∧
          node.WellFormed definition (registry.table node.id)) ∧
      ∀ definition, call.Builds manifest definition →
        (∀ error, (call.outcome manifest registry).1 = .error error ↔
          FirstOffends definition.id (registry.table definition.id)
            (call.nested manifest registry) []
            ((registry.table definition.id).included definition.fields) error) ∧
        ∀ inner, call.Makes manifest registry inner →
          (inner.outcome manifest registry).1 = call.nested manifest registry inner.id) := by
  obtain ⟨idle, built⟩ := afterCalls_sound manifest registry calls
  have start : (⟨[], id, (afterCalls manifest registry calls).nodes⟩ : Call).Sound
      manifest registry := ⟨⟨built, by simp⟩, by simp⟩
  constructor
  · intro node member
    rw [call_eq, idle] at member
    exact start.wellFormed member
  · intro call path
    have sound := start.of_path path
    refine ⟨fun node => sound.wellFormed, fun definition builds => ⟨fun error => ?_, ?_⟩⟩
    · exact sound.outcome_eq_error builds
    · exact fun inner => sound.nested_of_makes

end Calls

/-! ## Types that fit and types that do not -/

namespace Refunds

def text : Shape := .scalar (.plain .string)

def customer : TypeDef :=
  ⟨"Customer", "shop", none, [⟨"Name", text, none, none⟩]⟩

def order : TypeDef :=
  ⟨"Order", "shop", none,
    [⟨"OrderNumber", text, none, some 3⟩, ⟨"Secret", text, none, none⟩,
      ⟨"Total", text, none, none⟩, ⟨"Customer", .struct customer.id, none, some 1⟩]⟩

/-- The third field has the name of the first one, the fourth has no valid name, and the
fifth nests lists. -/
def refund : TypeDef :=
  ⟨"Refund", "shop", none,
    [⟨"Reason", text, none, none⟩, ⟨"Order", .struct order.id, none, none⟩,
      ⟨"reason", .list (.list text), none, none⟩, ⟨"9Lives", text, none, none⟩,
      ⟨"Parts", .list (.list text), none, none⟩]⟩

def manifest : Manifest :=
  ⟨[refund, order, customer], by decide, by decide⟩

def table : DirectiveTable :=
  (DirectiveTable.resolve order
    [.version 2, .mark .exclude ["Secret"], .rename "Total" "Amount",
      .fieldVersion 5 ["Total"]]).toOption.getD .empty

def registry : Registry :=
  [(order.id, table)]

/-- Whether the fields of a node have external names and versions. -/
def shows (fields : List (String × UInt32)) (node : TypeNode) : Bool :=
  node.id = order.id ∧ node.fields.map (fun field => (field.external, field.version)) = fields

end Refunds

/-- An order is well formed after a refund has failed. The refund fails for the name of its
third field, which comes before the shape of that field and before the fields after it. -/
theorem Walker.calls_wellFormed_refunds :
    (∃ node : TypeNode,
      node.WellFormed Refunds.order Refunds.table ∧
      node.fields.map (fun field => (field.external, field.version)) =
        [("order_number", 3), ("amount", 5), ("customer", 2)]) ∧
    FirstOffends Refunds.refund.id .empty
      (Call.nested Refunds.manifest Refunds.registry ⟨[], Refunds.refund.id, []⟩) []
      Refunds.refund.fields
      (.configuration Refunds.refund.id (.duplicateExternalName "reason" "Reason" "reason")) := by
  constructor
  · obtain ⟨node, given, shown⟩ := Results.exists_of_any (show
      (((afterCalls Refunds.manifest Refunds.registry [Refunds.refund.id]).call Refunds.manifest
        Refunds.registry Refunds.order.id).1.toOption.any
          (Refunds.shows [("order_number", 3), ("amount", 5), ("customer", 2)])) = true by
      decide +kernel)
    obtain ⟨named, fields⟩ := of_decide_eq_true shown
    have formed :=
      (calls_wellFormed Refunds.manifest Refunds.registry [Refunds.refund.id] Refunds.order.id).1
        node (.inl given)
    rw [named] at formed
    obtain ⟨definition, found, formed⟩ := formed
    have isOrder : Refunds.manifest.get? Refunds.order.id = some Refunds.order := by decide
    obtain rfl := Option.some.inj (found.symm.trans isOrder)
    have isTable : Refunds.registry.table Refunds.order.id = Refunds.table := by decide
    exact ⟨node, isTable ▸ formed, fields⟩
  · have failed : ((⟨[], Refunds.refund.id, []⟩ : Call).outcome Refunds.manifest
        Refunds.registry).1 = .error (.configuration Refunds.refund.id
          (.duplicateExternalName "reason" "Reason" "reason")) :=
      Results.failsWith_iff.mp (by decide +kernel)
    have builds : (⟨[], Refunds.refund.id, []⟩ : Call).Builds Refunds.manifest Refunds.refund :=
      ⟨by simp, by simp, by decide⟩
    have isFirst :=
      (((calls_wellFormed Refunds.manifest Refunds.registry [] Refunds.refund.id).2 _ .refl).2
        Refunds.refund builds).1 _ |>.mp failed
    have isTable : Refunds.registry.table Refunds.refund.id = .empty := by decide
    rw [isTable] at isFirst
    exact isFirst

end BlockSchema
