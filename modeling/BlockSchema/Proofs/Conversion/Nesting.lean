import BlockSchema.Conversion.Flatten
import BlockSchema.Proofs.Conversion.Derivation
import BlockSchema.Proofs.Graph.Names
import Mathlib.Logic.Relation

/-!
Contract: conversions inside conversions, and conversions whose fields can be told apart.

A round trip goes by names twice: by external names in the block and by declared names
in the structure. `Unambiguous` says that neither is shared by two fields, at any depth.
Every conversion of a built node is of that kind.
-/

set_option autoImplicit false

namespace BlockSchema

namespace Conversion

/-- The conversions of the types that the fields nest, in the order of the fields. -/
def nested (conversion : Conversion) : List Conversion :=
  conversion.fields.filterMap fun field => field.shape.nested?

theorem mem_nested {conversion inner : Conversion} :
    inner ∈ conversion.nested ↔
      ∃ field ∈ conversion.fields, field.shape.nested? = some inner := by
  simp [nested, List.mem_filterMap]

/-- What passes from the nested conversions to the conversion around them holds of every
conversion. -/
theorem induction
    {motive : Conversion → Prop}
    (step : ∀ conversion, (∀ inner ∈ conversion.nested, motive inner) → motive conversion)
    (conversion : Conversion) :
    motive conversion := by
  refine @Conversion.rec
    motive
    (fun fields => ∀ field ∈ fields, ∀ inner, field.shape.nested? = some inner → motive inner)
    (fun field => ∀ inner, field.shape.nested? = some inner → motive inner)
    (fun shape => ∀ inner, shape.nested? = some inner → motive inner)
    (fun target => ∀ inner, target.nested? = some inner → motive inner)
    ?conversion ?nil ?cons ?field ?shape ?scalar ?struct conversion
  case conversion =>
    intro typeId fields omitted ofFields
    refine step _ fun inner member => ?_
    obtain ⟨field, fieldMember, found⟩ := mem_nested.mp member
    exact ofFields field fieldMember inner found
  case nil =>
    intro field member
    cases member
  case cons =>
    intro head tail ofHead ofTail field member
    rcases List.mem_cons.mp member with rfl | later
    · exact ofHead
    · exact ofTail field later
  case field => exact fun _ _ _ _ ofShape => ofShape
  case shape => exact fun _ _ ofTarget => ofTarget
  case scalar => exact fun _ _ impossible => by cases impossible
  case struct =>
    intro nested ofNested inner found
    exact Option.some.inj found ▸ ofNested

/-- Some conversions nest only one another. -/
def Closed (conversions : List Conversion) : Prop :=
  ∀ conversion ∈ conversions, ∀ inner ∈ conversion.nested, inner ∈ conversions

/-- A conversion is another one or stands inside it, at any depth. -/
def Within (inner outer : Conversion) : Prop :=
  Relation.ReflTransGen (fun nested conversion => nested ∈ conversion.nested) inner outer

/-- At every depth no two fields share a declared or an external name. -/
inductive Unambiguous : Conversion → Prop where
  | intro {conversion : Conversion}
      (declared : (conversion.fields.map FieldConversion.declared).Nodup)
      (external : (conversion.fields.map FieldConversion.external).Nodup)
      (below : ∀ inner ∈ conversion.nested, inner.Unambiguous) :
      Unambiguous conversion

end Conversion

theorem TypeNode.mem_conversion_nested {node : TypeNode} {inner : Conversion} :
    inner ∈ node.conversion.nested ↔ ∃ found ∈ node.nested, found.conversion = inner := by
  rw [Conversion.mem_nested, conversion_eq]
  constructor
  · rintro ⟨_, entryMember, isNested⟩
    obtain ⟨field, member, rfl⟩ := List.mem_map.mp entryMember
    obtain ⟨found, isFound, converted⟩ := Option.map_eq_some_iff.mp
      ((FieldShape.nested?_map TypeNode.conversion field.shape).symm.trans isNested)
    exact ⟨found, TypeNode.mem_nested.mpr ⟨field, member, isFound⟩, converted⟩
  · rintro ⟨found, isNested, rfl⟩
    obtain ⟨field, member, isFound⟩ := TypeNode.mem_nested.mp isNested
    refine ⟨field.conversion, List.mem_map_of_mem member, ?_⟩
    exact (FieldShape.nested?_map TypeNode.conversion field.shape).trans
      (congrArg (Option.map TypeNode.conversion) isFound)

namespace WellBuilt

variable {manifest : Manifest} {registry : Registry} {nodes : List TypeNode}

theorem conversion_unambiguous
    (built : WellBuilt manifest registry nodes)
    {node : TypeNode}
    (member : node ∈ nodes) :
    node.conversion.Unambiguous := by
  induction node using TypeNode.induction with
  | step node inductionHypothesis =>
      have matching := built.matches_of_mem member
      refine .intro ?declared ?external ?below
      case declared =>
        rw [TypeNode.conversion_eq, List.map_map]
        exact matching.declared_nodup
      case external =>
        rw [TypeNode.conversion_eq, List.map_map]
        exact matching.external_nodup
      case below =>
        intro inner isNested
        obtain ⟨found, nests, rfl⟩ := TypeNode.mem_conversion_nested.mp isNested
        exact inductionHypothesis found nests (built.nested_mem member nests)

/-- What stands inside the conversion of a node is the conversion of a node. -/
theorem node_of_within
    (built : WellBuilt manifest registry nodes)
    {node : TypeNode}
    (member : node ∈ nodes)
    {inner : Conversion}
    (within : inner.Within node.conversion) :
    ∃ found ∈ nodes, found.conversion = inner := by
  induction within using Relation.ReflTransGen.head_induction_on with
  | refl => exact ⟨node, member, rfl⟩
  | head nests _ inductionHypothesis =>
      obtain ⟨outer, outerMember, rfl⟩ := inductionHypothesis
      obtain ⟨found, isNested, converted⟩ := TypeNode.mem_conversion_nested.mp nests
      exact ⟨found, built.nested_mem outerMember isNested, converted⟩

end WellBuilt

end BlockSchema
