import BlockSchema.Proofs.Group.Acceptance

/-!
Contract: what may be required below a field that is computed only.

Expanding never reads such a field, so nothing below it can be supplied. The check that a
conversion makes looks one step down: the type that a computed-only field nests must not
require a field. What that type nests in its turn is not looked at, so a required field may
stand further down, behind a field that is not computed only.
-/

set_option autoImplicit false

namespace BlockSchema

variable {manifest : Manifest} {registry : Registry} {group : GroupPlan}

/-! ## Fields and their effects -/

/-- A type has a field that its directives leave in, with some effects on it. -/
def HasField
    (manifest : Manifest)
    (registry : Registry)
    (type : TypeId)
    (field : FieldDef)
    (effects : FieldEffects) :
    Prop :=
  ∃ fields, manifest.included? registry type = some fields ∧ field ∈ fields ∧
    (registry.table type).effectsOn field.name = effects

/-- A field of the type is required. -/
def Requires (manifest : Manifest) (registry : Registry) (type : TypeId) : Prop :=
  ∃ field effects, HasField manifest registry type field effects ∧ effects.required = true

/-- A field of one type is computed only and refers to another type. -/
def ComputesOnly (manifest : Manifest) (registry : Registry) (outer inner : TypeId) : Prop :=
  ∃ field effects, HasField manifest registry outer field effects ∧
    effects.computedOnly = true ∧ field.shape.reference? = some inner

section Decisions

variable {type : TypeId}

private theorem hasField_iff {field : FieldDef} {effects : FieldEffects} :
    HasField manifest registry type field effects ↔
      field ∈ (manifest.included? registry type).getD [] ∧
        (registry.table type).effectsOn field.name = effects := by
  unfold HasField
  cases manifest.included? registry type <;> simp

instance : Decidable (Requires manifest registry type) :=
  decidable_of_iff
    (∃ field ∈ (manifest.included? registry type).getD [],
      ((registry.table type).effectsOn field.name).required = true)
    (by simp [Requires, hasField_iff])

instance {inner : TypeId} : Decidable (ComputesOnly manifest registry type inner) :=
  decidable_of_iff
    (∃ field ∈ (manifest.included? registry type).getD [],
      ((registry.table type).effectsOn field.name).computedOnly = true ∧
        field.shape.reference? = some inner)
    (by simp [ComputesOnly, hasField_iff])

instance {inner : TypeId} : Decidable (Refers manifest registry type inner) :=
  decidable_of_iff
    (∃ field ∈ (manifest.included? registry type).getD [], field.shape.reference? = some inner)
    (by unfold Refers; cases manifest.included? registry type <;> simp)

end Decisions

/-- What the effects on the fields of a type have to be for the type to be converted. -/
structure Convertible (manifest : Manifest) (registry : Registry) (type : TypeId) : Prop where
  nullable : ∀ field effects, HasField manifest registry type field effects →
    effects.nullable = true → ∃ inner, field.shape = .pointer inner
  supplied : ∀ inner, ComputesOnly manifest registry type inner →
    ¬ Requires manifest registry inner

private theorem Shape.isPointer_of_classify
    {shape : Shape}
    {known : FieldShape TypeId}
    (found : shape.classify = .ok known) :
    known.isPointer = true ↔ ∃ inner, shape = .pointer inner := by
  cases shape with
  | scalar type => cases found; simp [FieldShape.isPointer]
  | struct id => cases found; simp [FieldShape.isPointer]
  | pointer inner =>
      obtain ⟨target, _, rfl⟩ := Results.map_eq_ok.mp found
      simp [FieldShape.isPointer]
  | list element =>
      obtain ⟨target, _, rfl⟩ := Results.map_eq_ok.mp found
      simp [FieldShape.isPointer]
  | map element =>
      obtain ⟨target, _, rfl⟩ := Results.map_eq_ok.mp found
      simp [FieldShape.isPointer]

namespace FieldNode.MadeOf

variable {table : DirectiveTable} {declaration : FieldDef} {field : FieldNode TypeNode}

/-- A field nests the type that its declaration refers to. -/
theorem reference?_eq (made : field.MadeOf table declaration) :
    declaration.shape.reference? = field.shape.nested?.map TypeNode.id := by
  rw [← Shape.nested?_of_classify made.shape, FieldShape.nested?_map]

private theorem isPointer_iff (made : field.MadeOf table declaration) :
    field.shape.isPointer = true ↔ ∃ inner, declaration.shape = .pointer inner :=
  Shape.isPointer_of_classify made.shape

end FieldNode.MadeOf

/-! ## Nodes -/

/-- A field survives a round trip when it is a pointer if it is nullable and when the type
that it nests requires nothing if it is computed only. -/
theorem FieldNode.roundTripFault?_eq_none {field : FieldNode TypeNode} :
    field.roundTripFault? = none ↔
      (field.effects.nullable = true → field.shape.isPointer = true) ∧
        (field.effects.computedOnly = true → ∀ inner, field.shape.nested? = some inner →
          inner.firstRequired? = none) := by
  unfold roundTripFault?
  cases nullable : field.effects.nullable <;> cases pointer : field.shape.isPointer <;>
    cases computedOnly : field.effects.computedOnly <;> simp [Option.bind_eq_none_iff]

private theorem TypeNode.firstRequired?_eq_none {node : TypeNode} :
    node.firstRequired? = none ↔ ∀ field ∈ node.fields, field.effects.required = false := by
  simp [firstRequired?]

namespace TypeNode.Matches

variable {node : TypeNode}

private theorem fields_made (matching : node.Matches manifest registry) :
    ∃ fields, manifest.included? registry node.id = some fields ∧
      List.Forall₂ (FieldNode.MadeOf (registry.table node.id)) fields node.fields := by
  obtain ⟨definition, found, made⟩ := matching.made
  exact ⟨_, Manifest.included?_of_get? found, made⟩

/-- What the type has of a field, its node has as well. -/
theorem exists_made
    (matching : node.Matches manifest registry)
    {declaration : FieldDef}
    {effects : FieldEffects}
    (declared : HasField manifest registry node.id declaration effects) :
    ∃ field ∈ node.fields, field.MadeOf (registry.table node.id) declaration ∧
      field.effects = effects := by
  obtain ⟨_, isIncluded, member, rfl⟩ := declared
  obtain ⟨fields, found, made⟩ := matching.fields_made
  obtain rfl := Option.some.inj (isIncluded.symm.trans found)
  obtain ⟨field, isField, isMade⟩ := Results.exists_of_mem_left made member
  exact ⟨field, isField, isMade, isMade.effects⟩

/-- Every field of a node is declared. -/
theorem exists_declared
    (matching : node.Matches manifest registry)
    {field : FieldNode TypeNode}
    (member : field ∈ node.fields) :
    ∃ declaration, HasField manifest registry node.id declaration field.effects ∧
      field.MadeOf (registry.table node.id) declaration := by
  obtain ⟨fields, found, made⟩ := matching.fields_made
  obtain ⟨declaration, isDeclared, isMade⟩ := Results.exists_of_mem_right made member
  exact ⟨declaration, ⟨fields, found, isDeclared, isMade.effects.symm⟩, isMade⟩

private theorem firstRequired?_eq_none_iff (matching : node.Matches manifest registry) :
    node.firstRequired? = none ↔ ¬ Requires manifest registry node.id := by
  rw [TypeNode.firstRequired?_eq_none]
  constructor
  · rintro noneRequired ⟨declaration, effects, declared, required⟩
    obtain ⟨field, member, _, rfl⟩ := matching.exists_made declared
    simp [noneRequired field member] at required
  · intro notRequires field member
    obtain ⟨declaration, declared, _⟩ := matching.exists_declared member
    exact Bool.eq_false_iff.mpr fun required => notRequires ⟨_, _, declared, required⟩

/-- The type refers to what its node nests. -/
theorem refers_of_nested
    (matching : node.Matches manifest registry)
    {inner : TypeNode}
    (isNested : inner ∈ node.nested) :
    Refers manifest registry node.id inner.id := by
  obtain ⟨field, member, nests⟩ := TypeNode.mem_nested.mp isNested
  obtain ⟨declaration, ⟨fields, found, isDeclared, _⟩, made⟩ := matching.exists_declared member
  refine ⟨fields, found, declaration, isDeclared, ?_⟩
  rw [made.reference?_eq, nests, Option.map_some]

/-- The fields of a node have no fault when its type can be converted. -/
theorem faultless_iff
    (matching : node.Matches manifest registry)
    (below : ∀ inner ∈ node.nested, inner.Matches manifest registry) :
    (∀ field ∈ node.fields, field.roundTripFault? = none) ↔
      Convertible manifest registry node.id := by
  simp only [FieldNode.roundTripFault?_eq_none]
  constructor
  · intro faultless
    refine ⟨fun declaration effects declared nullable => ?_, ?_⟩
    · obtain ⟨field, member, made, rfl⟩ := matching.exists_made declared
      exact made.isPointer_iff.mp ((faultless field member).1 nullable)
    · rintro inner ⟨declaration, effects, declared, computedOnly, refers⟩
      obtain ⟨field, member, made, rfl⟩ := matching.exists_made declared
      rw [made.reference?_eq] at refers
      obtain ⟨found, nests, rfl⟩ := Option.map_eq_some_iff.mp refers
      have nested := below found (TypeNode.mem_nested.mpr ⟨field, member, nests⟩)
      exact nested.firstRequired?_eq_none_iff.mp
        ((faultless field member).2 computedOnly found nests)
  · rintro ⟨pointers, supplied⟩ field member
    obtain ⟨declaration, declared, made⟩ := matching.exists_declared member
    refine ⟨fun nullable => ?_, fun computedOnly inner nests => ?_⟩
    · exact made.isPointer_iff.mpr (pointers declaration _ declared nullable)
    · have nested := below inner (TypeNode.mem_nested.mpr ⟨field, member, nests⟩)
      refine nested.firstRequired?_eq_none_iff.mpr (supplied inner.id ?_)
      refine ⟨declaration, _, declared, computedOnly, ?_⟩
      rw [made.reference?_eq, nests, Option.map_some]

end TypeNode.Matches

/-- A built node can be converted when every type that its type reaches can be. -/
theorem WellBuilt.conversionFault?_eq_none
    {nodes : List TypeNode}
    (built : WellBuilt manifest registry nodes)
    {node : TypeNode}
    (member : node ∈ nodes) :
    node.conversionFault? = none ↔
      ∀ type, Relation.ReflTransGen (Refers manifest registry) node.id type →
        Convertible manifest registry type := by
  induction node using TypeNode.induction with
  | step node inductionHypothesis =>
      have matching := built.matches_of_mem member
      have nestedMember : ∀ inner ∈ node.nested, inner ∈ nodes := fun inner isNested =>
        built.nested_mem member isNested
      rw [TypeNode.conversionFault?_eq_none, matching.faultless_iff fun inner isNested =>
        built.matches_of_mem (nestedMember inner isNested)]
      constructor
      · rintro ⟨convertible, below⟩ type path
        rcases Relation.ReflTransGen.cases_head path with rfl | ⟨next, refers, rest⟩
        · exact convertible
        · have nests := built.nests_of_refers (List.mem_map_of_mem member) refers
          obtain ⟨inner, isNested, rfl⟩ := matching.nested_of_nests nests
          exact (inductionHypothesis inner isNested (nestedMember inner isNested)).mp
            (below inner isNested) type rest
      · intro reached
        refine ⟨reached node.id .refl, fun inner isNested => ?_⟩
        refine (inductionHypothesis inner isNested (nestedMember inner isNested)).mpr ?_
        exact fun type path => reached type (path.head (matching.refers_of_nested isNested))

/-! ## Compiled groups -/

/-- A type has a node of its own that can be converted when it is acceptable and every type
that it reaches can be converted. -/
theorem TypeNode.exists_converted_iff {id : TypeId} :
    (∃ node, TypeNode.rebuild manifest registry [] id = .ok node ∧
        node.conversionFault? = none) ↔
      Acceptable manifest registry id ∧
        ∀ type, Relation.ReflTransGen (Refers manifest registry) id type →
          Convertible manifest registry type := by
  have faultless_iff : ∀ node, TypeNode.rebuild manifest registry [] id = .ok node →
      (node.conversionFault? = none ↔
        ∀ type, Relation.ReflTransGen (Refers manifest registry) id type →
          Convertible manifest registry type) := by
    intro node given
    have start : Below manifest registry [] [] := ⟨.nothing, by simp⟩
    obtain ⟨⟨built, _⟩, _, result, remembered⟩ := walk_advances [] id start
    obtain ⟨member, rfl⟩ := remembered node (result.trans given)
    exact built.conversionFault?_eq_none member
  constructor
  · rintro ⟨node, given, faultless⟩
    exact ⟨.of_rebuild given, (faultless_iff node given).mp faultless⟩
  · rintro ⟨acceptable, convertible⟩
    obtain ⟨node, given⟩ := acceptable.exists_rebuild [] (by simp)
    exact ⟨node, given, (faultless_iff node given).mpr convertible⟩

/-- Whether a group with resolved tables compiles is asked of each type by itself that a
registered type reaches: its fields have to fit, it must not refer to itself, and a type that
one of its computed-only fields nests must not require a field. So what is required below a
computed-only field is further down than the type that the field nests, and no computed-only
field leads to it. -/
theorem GroupPlan.compile_supplied (resolved : Registry.ofGroup manifest group = .ok registry) :
    ((∃ compiled, group.compile manifest = .ok compiled) ↔
      ∀ id ∈ registry.ids, Acceptable manifest registry id ∧
        ∀ type, Relation.ReflTransGen (Refers manifest registry) id type →
          Convertible manifest registry type) ∧
    ∀ compiled, group.compile manifest = .ok compiled →
      ∀ outer ∈ compiled.graph.ids, ∀ inner, ComputesOnly manifest registry outer inner →
        ∀ type, Relation.ReflTransGen (Refers manifest registry) inner type →
          Requires manifest registry type →
            Relation.TransGen (Refers manifest registry) inner type ∧
              ∀ middle ∈ compiled.graph.ids, ¬ ComputesOnly manifest registry middle type := by
  have compiles_iff := GroupPlan.compiles_iff resolved
  simp only [TypeNode.exists_converted_iff] at compiles_iff
  refine ⟨compiles_iff, fun compiled accepted outer isOuter inner computes type path requires => ?_⟩
  have supplied : ∀ middle ∈ compiled.graph.ids, ∀ below,
      ComputesOnly manifest registry middle below → ¬ Requires manifest registry below := by
    intro middle inside
    obtain ⟨reached, _, _⟩ := GroupPlan.compile_parts accepted resolved
    obtain ⟨id, isAsked, toMiddle⟩ := (reached middle).mp inside
    exact ((compiles_iff.mp ⟨compiled, accepted⟩ id isAsked).2 middle toMiddle).supplied
  refine ⟨?_, fun middle inside leads => supplied middle inside type leads requires⟩
  rcases Relation.reflTransGen_iff_eq_or_transGen.mp path with rfl | steps
  · exact absurd requires (supplied outer isOuter _ computes)
  · exact steps

/-! ## Receipts -/

namespace Receipts

/-- Who issues a receipt. -/
def issuer : TypeDef :=
  { name := "Issuer"
    package := "shop"
    description := none
    fields := [Orders.field "Name" (.scalar (.plain .string))] }

def receipt : TypeDef :=
  { name := "Receipt"
    package := "shop"
    description := none
    fields := [Orders.field "Issuer" (.pointer (.struct issuer.id))] }

def sale : TypeDef :=
  { name := "Sale"
    package := "shop"
    description := none
    fields := [Orders.field "Receipt" (.struct receipt.id)] }

def model : Manifest :=
  ⟨[issuer, receipt, sale], by decide, by decide⟩

/-- Sales with a computed receipt, and further registrations. -/
def selling (others : List Registration) : GroupPlan :=
  { name := "sales"
    docs := none
    readOnly := false
    types := ⟨sale.id, [.mark .computedOnly ["Receipt"]]⟩ :: others }

/-- An issuer is required to have a name. -/
def naming : Registration :=
  ⟨issuer.id, [.mark .required ["Name"]]⟩

/-- The issuer of a receipt is computed as well. -/
def computing : Registration :=
  ⟨receipt.id, [.mark .computedOnly ["Issuer"]]⟩

end Receipts

open Receipts in
/-- The issuers of computed receipts may be required to have a name, which nobody can
supply. -/
theorem GroupPlan.compile_unsupplied :
    ∃ registry compiled, Registry.ofGroup model (selling [naming]) = .ok registry ∧
      (selling [naming]).compile model = .ok compiled ∧
      sale.id ∈ compiled.graph.ids ∧
      ComputesOnly model registry sale.id receipt.id ∧
      Relation.ReflTransGen (Refers model registry) receipt.id issuer.id ∧
      Requires model registry issuer.id := by
  have holds : (Registry.ofGroup model (selling [naming])).toOption.any (fun registry =>
      ComputesOnly model registry sale.id receipt.id ∧
      Refers model registry receipt.id issuer.id ∧
      Requires model registry issuer.id) = true := by decide +kernel
  have compiles : ((selling [naming]).compile model).toOption.any (fun compiled =>
      compiled.graph.ids.contains sale.id) = true := by decide +kernel
  obtain ⟨registry, resolved, decided⟩ := Results.exists_of_any holds
  obtain ⟨compiled, accepted, inside⟩ := Results.exists_of_any compiles
  obtain ⟨computes, refers, requires⟩ := of_decide_eq_true decided
  exact ⟨registry, compiled, resolved, accepted, List.contains_iff_mem.mp inside, computes,
    .single refers, requires⟩

open Receipts in
/-- Once the issuers are computed themselves, a name that they require is in the way. -/
theorem GroupPlan.compile_supplied_receipts :
    ∃ registry, Registry.ofGroup model (selling [computing, naming]) = .ok registry ∧
      Requires model registry issuer.id ∧
      ¬ ∃ compiled, (selling [computing, naming]).compile model = .ok compiled := by
  have holds : (Registry.ofGroup model (selling [computing, naming])).toOption.any
      (fun registry =>
        receipt.id ∈ registry.ids ∧
        ComputesOnly model registry receipt.id issuer.id ∧
        Requires model registry issuer.id) = true := by decide +kernel
  obtain ⟨registry, resolved, decided⟩ := Results.exists_of_any holds
  obtain ⟨isAsked, computes, requires⟩ := of_decide_eq_true decided
  refine ⟨registry, resolved, requires, fun compiles => ?_⟩
  have convertible := ((GroupPlan.compile_supplied resolved).1.mp compiles receipt.id isAsked).2
  exact (convertible receipt.id .refl).supplied issuer.id computes requires

end BlockSchema
