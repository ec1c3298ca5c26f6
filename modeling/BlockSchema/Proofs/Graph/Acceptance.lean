import BlockSchema.Proofs.Graph.Reference

/-!
Contract: which types a walk accepts.

A walk goes down depth first and stops at the first fault, but what it accepts can be said
of the reference graph alone: every type that is reached has to be defined with fields that
fit, and no reached type may refer to itself, at any distance. The types of a finished walk
show one direction. For the other one the types under way all lead to the type at hand, so
without a cycle none of them comes up again.
-/

set_option autoImplicit false

namespace BlockSchema

section Acceptance

variable {manifest : Manifest} {registry : Registry} {id : TypeId}

/-- What the types that a type reaches have to be for a walk to accept it. -/
structure Acceptable (manifest : Manifest) (registry : Registry) (id : TypeId) : Prop where
  fits : ∀ type, Relation.ReflTransGen (Refers manifest registry) id type →
    ∃ fields, manifest.included? registry type = some fields ∧
      (registry.table type).Fits fields
  acyclic : ∀ type, Relation.ReflTransGen (Refers manifest registry) id type →
    ¬ Relation.TransGen (Refers manifest registry) type type

/-! ## What was built is acceptable -/

namespace WellBuilt

variable {nodes : List TypeNode}

private theorem faultless
    (built : WellBuilt manifest registry nodes)
    {type : TypeId}
    (member : type ∈ nodes.map TypeNode.id) :
    ∃ definition, manifest.get? type = some definition ∧
      (definition.outline registry).fault? = none := by
  obtain ⟨node, isNode, rfl⟩ := List.mem_map.mp member
  obtain ⟨definition, found, outlined, _⟩ := built.matches_of_mem isNode
  exact ⟨definition, found, by rw [outlined]⟩

/-- A built type nests what it refers to. -/
theorem nests_of_refers
    (built : WellBuilt manifest registry nodes)
    {outer inner : TypeId}
    (member : outer ∈ nodes.map TypeNode.id)
    (refers : Refers manifest registry outer inner) :
    Nests manifest registry outer inner := by
  obtain ⟨definition, found, faultless⟩ := built.faultless member
  exact refers.nests found faultless

/-- References from built types lead to built types. -/
theorem closed
    (built : WellBuilt manifest registry nodes)
    {outer inner : TypeId}
    (member : outer ∈ nodes.map TypeNode.id)
    (path : Relation.ReflTransGen (Refers manifest registry) outer inner) :
    inner ∈ nodes.map TypeNode.id := by
  induction path with
  | refl => exact member
  | tail _ refers inductionHypothesis =>
      obtain ⟨node, isNode, rfl⟩ := List.mem_map.mp inductionHypothesis
      have nests := built.nests_of_refers inductionHypothesis refers
      obtain ⟨found, isNested, rfl⟩ := (built.matches_of_mem isNode).nested_of_nests nests
      exact List.mem_map_of_mem (built.nested_mem isNode isNested)

/-- No built type refers to itself: with every step the types go back in the list. -/
theorem acyclic
    (built : WellBuilt manifest registry nodes)
    {type : TypeId}
    (member : type ∈ nodes.map TypeNode.id) :
    ¬ Relation.TransGen (Refers manifest registry) type type := by
  intro cycle
  induction built with
  | nothing => cases member
  | @add nodes node earlier isNew matching nested inductionHypothesis =>
      -- The first step of the cycle leaves the last type, and the rest stays before it.
      have whole := earlier.add isNew matching nested
      obtain ⟨next, refers, rest⟩ := Relation.TransGen.head'_iff.mp cycle
      have nests := whole.nests_of_refers member refers
      have nextBefore := earlier.nests_before matching nested member nests
      exact inductionHypothesis (earlier.closed nextBefore rest)

end WellBuilt

/-- What can be rebuilt is acceptable. -/
theorem Acceptable.of_rebuild
    {node : TypeNode}
    (given : TypeNode.rebuild manifest registry [] id = .ok node) :
    Acceptable manifest registry id := by
  have start : Below manifest registry [] [] := ⟨.nothing, by simp⟩
  obtain ⟨⟨built, _⟩, _, result, remembered⟩ := walk_advances [] id start
  obtain ⟨member, rfl⟩ := remembered node (result.trans given)
  have reached : ∀ type, Relation.ReflTransGen (Refers manifest registry) node.id type →
      type ∈ (walk manifest registry [] node.id []).2.map TypeNode.id := fun type path =>
    built.closed (List.mem_map_of_mem member) path
  refine ⟨fun type path => ?_, fun type path => built.acyclic (reached type path)⟩
  obtain ⟨definition, found, faultless⟩ := built.faultless (reached type path)
  exact ⟨_, Manifest.included?_of_get? found, (Manifest.faultless_iff found).mp faultless⟩

/-! ## What is acceptable can be built -/

section Existence

variable {visit : TypeId → Except CompileError TypeNode}

private theorem FieldNode.exists_rebuild
    (field : FieldNode TypeId)
    (visited : ∀ inner, field.shape.nested? = some inner → ∃ node, visit inner = .ok node) :
    ∃ found, field.rebuild visit = .ok found := by
  obtain ⟨declared, external, ⟨arity, target⟩, effects, version, description⟩ := field
  cases target with
  | scalar type => exact ⟨_, rfl⟩
  | struct inner =>
      obtain ⟨node, given⟩ := visited inner rfl
      simp only [FieldNode.rebuild, Target.rebuild, given, Except.map]
      exact ⟨_, rfl⟩

/-- A type without a fault has a node when everything that it nests has one. -/
theorem TypeDef.exists_rebuild
    {definition : TypeDef}
    (faultless : (definition.outline registry).fault? = none)
    (visited : ∀ field ∈ (definition.outline registry).fields, ∀ inner,
      field.shape.nested? = some inner → ∃ node, visit inner = .ok node) :
    ∃ node, definition.rebuild registry visit = .ok node := by
  obtain ⟨fields, rebuilt⟩ := Results.exists_mapM_eq_ok fun field member =>
    FieldNode.exists_rebuild field (visited field member)
  refine ⟨definition.node registry fields, ?_⟩
  rw [TypeDef.rebuild, rebuilt, faultless]
  rfl

end Existence

private theorem Acceptable.of_refers
    (acceptable : Acceptable manifest registry id)
    {inner : TypeId}
    (refers : Refers manifest registry id inner) :
    Acceptable manifest registry inner :=
  ⟨fun type path => acceptable.fits type (path.head refers),
    fun type path => acceptable.acyclic type (path.head refers)⟩

/-- What is acceptable can be rebuilt below types that all lead to it. -/
theorem Acceptable.exists_rebuild
    {id : TypeId}
    (acceptable : Acceptable manifest registry id)
    (stack : List TypeId)
    (leading : ∀ type ∈ stack, Relation.TransGen (Refers manifest registry) type id) :
    ∃ node, TypeNode.rebuild manifest registry stack id = .ok node := by
  -- A type on the stack leads to this one, so this one on the stack would be a cycle.
  have outside : id ∉ stack := fun onStack => acceptable.acyclic id .refl (leading id onStack)
  obtain ⟨fields, isIncluded, fits⟩ := acceptable.fits id .refl
  obtain ⟨definition, found, rfl⟩ := Option.map_eq_some_iff.mp isIncluded
  have faultless := (Manifest.faultless_iff found).mpr fits
  have shorter := Manifest.free_length_lt outside found
  rw [TypeNode.rebuild_of_defined outside found]
  refine TypeDef.exists_rebuild faultless fun field member inner isNested => ?_
  have refers : Refers manifest registry id inner :=
    Nests.refers ⟨definition, found, field, member, isNested⟩
  refine (acceptable.of_refers refers).exists_rebuild (stack ++ [id]) fun type onStack => ?_
  rcases List.mem_append.mp onStack with onOld | isOwn
  · exact (leading type onOld).tail refers
  · exact List.mem_singleton.mp isOwn ▸ .single refers
termination_by (manifest.free stack).length

/-! ## Acceptance -/

/-- Acceptance looks at the fields that are left in, and at nothing else of the manifest. -/
theorem Acceptable.congr
    {other : Manifest}
    (same : ∀ type, manifest.included? registry type = other.included? registry type) :
    Acceptable manifest registry id ↔ Acceptable other registry id := by
  have sameRefers : Refers manifest registry = Refers other registry := by
    funext outer inner
    simp only [Refers, same]
  have sameFits : ∀ type,
      (∃ fields, manifest.included? registry type = some fields ∧
        (registry.table type).Fits fields) ↔
      ∃ fields, other.included? registry type = some fields ∧
        (registry.table type).Fits fields := by
    simp only [same, implies_true]
  constructor
  · rintro ⟨fits, acyclic⟩
    rw [sameRefers] at fits acyclic
    exact ⟨fun type path => (sameFits type).mp (fits type path), acyclic⟩
  · rintro ⟨fits, acyclic⟩
    rw [← sameRefers] at fits acyclic
    exact ⟨fun type path => (sameFits type).mpr (fits type path), acyclic⟩

namespace Walker

private theorem fresh_call_eq (manifest : Manifest) (registry : Registry) (id : TypeId) :
    (fresh.call manifest registry id).1 = TypeNode.rebuild manifest registry [] id :=
  call_afterCalls manifest registry [] id

private theorem accepts_iff_acceptable :
    (∃ node, (fresh.call manifest registry id).1 = .ok node) ↔
      Acceptable manifest registry id := by
  rw [fresh_call_eq]
  constructor
  · rintro ⟨node, given⟩
    exact .of_rebuild given
  · intro acceptable
    exact acceptable.exists_rebuild [] (by simp)

/-- A walker that has built nothing accepts a type exactly when every type that it reaches
is defined with fields that fit, and none of them refers to itself. Fields that are excluded
are not asked for anything: a manifest may have others in their place. -/
theorem accepts_exactly (manifest : Manifest) (registry : Registry) (id : TypeId) :
    ((∃ node, (fresh.call manifest registry id).1 = .ok node) ↔
      Acceptable manifest registry id) ∧
    (∀ other : Manifest,
      (∀ type, manifest.included? registry type = other.included? registry type) →
      ((∃ node, (fresh.call manifest registry id).1 = .ok node) ↔
        ∃ node, (fresh.call other registry id).1 = .ok node)) := by
  refine ⟨accepts_iff_acceptable, fun other same => ?_⟩
  rw [accepts_iff_acceptable, accepts_iff_acceptable]
  exact Acceptable.congr same

end Walker

end Acceptance

/-! ## A type at hand -/

namespace Crates

/-- A crate with a label, another crate inside it and tags in groups. -/
def crate : TypeDef :=
  { name := "Crate"
    package := "storage"
    description := none
    fields :=
      [⟨"Label", .scalar (.plain .string), none, none⟩,
        ⟨"Inside", .pointer (.struct (.ofParts "storage" "Crate")), none, none⟩,
        ⟨"Tags", .list (.list (.scalar (.plain .string))), none, none⟩] }

/-- The crate with its label alone. -/
def bareCrate : TypeDef :=
  { crate with fields := [⟨"Label", .scalar (.plain .string), none, none⟩] }

def manifest : Manifest :=
  ⟨[crate], by decide, by decide⟩

def bareManifest : Manifest :=
  ⟨[bareCrate], by decide, by decide⟩

/-- Crates are registered without the fields that no schema can have. -/
def registry : Registry :=
  [(crate.id,
    (DirectiveTable.resolve crate [.mark .exclude ["Inside", "Tags"]]).toOption.getD .empty)]

/-- Whether a walker that has built nothing accepts the crate. -/
def accepts (manifest : Manifest) (registry : Registry) : Bool :=
  (Walker.fresh.call manifest registry crate.id).1.toOption.isSome

private theorem accepts_iff {manifest : Manifest} {registry : Registry} :
    accepts manifest registry = true ↔
      ∃ node, (Walker.fresh.call manifest registry crate.id).1 = .ok node := by
  unfold accepts
  cases (Walker.fresh.call manifest registry crate.id).1 with
  | error error => simp [Except.toOption]
  | ok node => simp [Except.toOption]

end Crates

/-- Without its faulty fields the crate is acceptable, as it would be if it did not have
them; with them it is not. -/
theorem Walker.accepts_exactly_crates :
    Acceptable Crates.manifest Crates.registry Crates.crate.id ∧
      (∃ node, (fresh.call Crates.bareManifest Crates.registry Crates.crate.id).1 = .ok node) ∧
      ¬ Acceptable Crates.manifest [] Crates.crate.id := by
  have accepted : Crates.accepts Crates.manifest Crates.registry = true := by decide +kernel
  have refused : Crates.accepts Crates.manifest [] = false := by decide +kernel
  have same : ∀ type, Crates.manifest.included? Crates.registry type =
      Crates.bareManifest.included? Crates.registry type := by
    intro type
    by_cases isCrate : Crates.crate.id = type
    · subst isCrate
      decide +kernel
    · have isNotBare : Crates.bareCrate.id ≠ type := isCrate
      simp [Manifest.included?, Manifest.get?, Crates.manifest, Crates.bareManifest, isCrate,
        isNotBare]
  obtain ⟨acceptable, replaced⟩ :=
    accepts_exactly Crates.manifest Crates.registry Crates.crate.id
  refine ⟨acceptable.mp (Crates.accepts_iff.mp accepted), ?_, fun isAcceptable => ?_⟩
  · exact (replaced Crates.bareManifest same).mp (Crates.accepts_iff.mp accepted)
  · have bare := (accepts_exactly Crates.manifest [] Crates.crate.id).1
    have isAccepted := Crates.accepts_iff.mpr (bare.mpr isAcceptable)
    rw [refused] at isAccepted
    cases isAccepted

end BlockSchema
