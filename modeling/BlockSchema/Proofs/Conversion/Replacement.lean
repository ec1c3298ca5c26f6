import BlockSchema.Proofs.Conversion.Derivation
import BlockSchema.Proofs.Graph.Replacement

/-!
Contract: conversions of nodes in which another node was put.

A conversion embeds conversions as its node embeds nodes. So a field that is left out, or a
node that is replaced, is left out or replaced in the conversion likewise.
-/

set_option autoImplicit false

namespace BlockSchema

namespace Conversion

/-- The conversion without the entry of a field, which it lists as omitted in its place among
the declared fields. -/
def without (definition : TypeDef) (name : String) (conversion : Conversion) : Conversion :=
  { conversion with
    fields := conversion.fields.filter fun entry => entry.declared ≠ name
    omitted := definition.insertName name conversion.omitted }

mutual

/-- The conversion with another one in place of the conversion of that one's type, at any
depth. -/
def replacing : Conversion → Conversion → Conversion
  | ⟨typeId, fields, omitted⟩, new =>
      if typeId = new.typeId then new else ⟨typeId, replacingFields fields new, omitted⟩

def replacingFields :
    List (FieldConversion Conversion) → Conversion → List (FieldConversion Conversion)
  | [], _ => []
  | ⟨declared, external, ⟨arity, target⟩, readsInput⟩ :: rest, new =>
      ⟨declared, external, ⟨arity, replacingTarget target new⟩, readsInput⟩ ::
        replacingFields rest new

def replacingTarget : Target Conversion → Conversion → Target Conversion
  | .scalar type, _ => .scalar type
  | .struct nested, new => .struct (replacing nested new)

end

variable {conversion new : Conversion}

private theorem replacing_of_typeId_eq (same : conversion.typeId = new.typeId) :
    conversion.replacing new = new := by
  cases conversion with
  | mk => rw [replacing, if_pos same]

private theorem replacing_of_typeId_ne (apart : conversion.typeId ≠ new.typeId) :
    conversion.replacing new =
      { conversion with
        fields := conversion.fields.map fun entry =>
          { entry with shape := entry.shape.map fun nested => nested.replacing new } } := by
  have target : ∀ target, replacingTarget target new =
      target.map fun nested => nested.replacing new := by
    intro target
    cases target <;> rfl
  have fields : ∀ fields, replacingFields fields new = fields.map fun entry =>
      { entry with shape := entry.shape.map fun nested => nested.replacing new } := by
    intro fields
    induction fields with
    | nil => rfl
    | cons entry rest inductionHypothesis =>
        rw [replacingFields, inductionHypothesis, target]
        rfl
  cases conversion with
  | mk => rw [replacing, if_neg apart, fields]

end Conversion

namespace TypeNode

/-- The conversion of a node without a field is that of the node without the field's entry. -/
theorem conversion_without (definition : TypeDef) (name : String) (node : TypeNode) :
    (node.without definition name).conversion = node.conversion.without definition name := by
  rw [conversion_eq, conversion_eq, Conversion.without, List.filter_map]
  rfl

/-- With another node put in a node, its conversion has that one's conversion put in. -/
theorem conversion_replacing (node new : TypeNode) :
    (node.replacing new).conversion = node.conversion.replacing new.conversion := by
  induction node using TypeNode.induction with
  | step node inductionHypothesis =>
      by_cases same : node.id = new.id
      · rw [replacing_of_id_eq same, Conversion.replacing_of_typeId_eq (by simp [same])]
      · rw [replacing_of_id_ne same, Conversion.replacing_of_typeId_ne (by simp [same]),
          conversion_eq, conversion_eq, Conversion.mk.injEq, List.map_map, List.map_map]
        refine ⟨rfl, List.map_congr_left fun field member => ?_, rfl⟩
        have sameShape :
            (field.shape.map fun inner => inner.replacing new).map conversion =
              (field.shape.map conversion).map fun nested =>
                nested.replacing new.conversion := by
          rw [FieldShape.map_map, FieldShape.map_map]
          exact FieldShape.map_congr fun inner isNested =>
            inductionHypothesis inner (mem_nested.mpr ⟨field, member, isNested⟩)
        exact congrArg (FieldConversion.mk field.declared field.external · _) sameShape

end TypeNode

end BlockSchema
