import BlockSchema.Proofs.Conversion.Agreement
import BlockSchema.Proofs.Group.Values

/-!
Contract: what the conversions of a compiled group lose.

They lose what is excluded and nothing else. A field that is computed only is lost by
expanding, not by flattening, so that this does not follow from the round trip.
-/

set_option autoImplicit false

namespace BlockSchema

/-- A conversion of a compiled group loses what its type excludes and nothing else: two
structures are flattened to the same block exactly when they agree in every field that is not
excluded. With real numbers compared by value, so are the blocks. What an excluded field holds
changes nothing, and an absent pointer is not flattened as a pointer to the zero value. -/
theorem GroupPlan.compile_flattening_separates
    {manifest : Manifest}
    {group : GroupPlan}
    {compiled : CompiledGroup}
    (accepted : group.compile manifest = .ok compiled)
    {conversion : Conversion}
    (converts : compiled.Converts conversion) :
    (∃ registry definition, Registry.ofGroup manifest group = .ok registry ∧
      manifest.get? conversion.typeId = some definition ∧
      conversion.Covers (registry.table conversion.typeId) definition) ∧
    (∀ left right leftFlat rightFlat,
      left.toValue.proper = true →
      right.toValue.proper = true →
      conversion.flatten left = .ok leftFlat →
      conversion.flatten right = .ok rightFlat →
        (leftFlat = rightFlat ↔ conversion.Agree Eq left.fields right.fields) ∧
        (leftFlat.same rightFlat = true ↔
          conversion.Agree (fun one other => one.same other = true) left.fields right.fields)) ∧
    (∀ name ∈ conversion.omitted, ∀ struct value,
      conversion.flatten (struct.set name value) = conversion.flatten struct) ∧
    (∀ struct flat,
      struct.toValue.proper = true →
      conversion.flatten struct = .ok flat →
      ∀ field ∈ conversion.fields, ∀ target, field.shape = ⟨.pointer, target⟩ →
        ∃ absent present,
          conversion.flatten (struct.set field.declared (.pointer none)) = .ok absent ∧
          conversion.flatten (struct.set field.declared
            (.pointer (some (Conversion.zeroShape ⟨.plain, target⟩)))) = .ok present ∧
          absent.same present = false) := by
  obtain ⟨registry, resolved, derived⟩ := GroupPlan.compile_derived accepted
  obtain ⟨node, member, rfl⟩ := derived.node_of_converts converts
  have unambiguous := derived.built.conversion_unambiguous member
  obtain ⟨definition, found, covers⟩ := (derived.built.matches_of_mem member).covers
  refine ⟨?covers, ?agree, ?omitted, ?pointer⟩
  case covers =>
    rw [TypeNode.conversion_typeId]
    exact ⟨registry, definition, resolved, found, covers⟩
  case agree =>
    intro left right leftFlat rightFlat properLeft properRight leftFlattened rightFlattened
    constructor
    · exact unambiguous.separates Value.compares_eq _ _ _ _ _ _ properLeft properRight
        leftFlattened rightFlattened
    · exact unambiguous.separates Value.compares_same _ _ _ _ _ _ properLeft properRight
        leftFlattened rightFlattened
  case omitted =>
    intro name omitted struct value
    exact Conversion.flattenStruct_insert omitted (covers.unconverted omitted) _ _ _
  case pointer =>
    intro struct flat proper flattened field isField target pointer
    exact unambiguous.flatten_pointer_zero proper flattened isField pointer

namespace Orders

/-- An order as large as any. -/
def largest : TypedStruct :=
  (noted (.list [])).set "Total" (.scalar (.float (.ofMagnitude false Binary64.infinityMagnitude)))

end Orders

/-- Orders that differ in their notes agree. One with another total does not, though the total
is computed only, and an order without a spare item is told from one with an item of zeros. -/
theorem GroupPlan.compile_flattening_separates_orders :
    ∃ compiled conversion,
      Orders.group.compile Orders.manifest = .ok compiled ∧
      compiled.Converts conversion ∧
      conversion.typeId = Orders.order.id ∧
      conversion.Agree Eq (Orders.noted (.list [])).fields
        (Orders.noted (.scalar (.string "late"))).fields ∧
      ¬ conversion.Agree (fun one other => one.same other = true)
        (Orders.noted (.list [])).fields Orders.largest.fields ∧
      ∃ zeros absent present,
        conversion.flatten ((Orders.noted (.list [])).set "Spare" (.pointer none)) =
          .ok absent ∧
        conversion.flatten ((Orders.noted (.list [])).set "Spare" (.pointer (some zeros))) =
          .ok present ∧
        absent.same present = false := by
  obtain ⟨compiled, conversion, accepted, converts, passes⟩ :=
    @Orders.converts
      (fun conversion => conversion.typeId == Orders.order.id &&
        conversion.omitted.contains "Note" &&
        conversion.fields.any (fun field => field.declared == "Spare" && field.shape.isPointer) &&
        (conversion.flatten (Orders.noted (.list []))).toOption.any fun flat =>
          (conversion.flatten Orders.largest).toOption.any fun other => !flat.same other)
      (by decide +kernel)
  simp only [Bool.and_eq_true, beq_iff_eq, List.contains_iff_mem, List.any_eq_true] at passes
  obtain ⟨⟨⟨typed, omitted⟩, spare, isField, isSpare, isPointer⟩, flattened⟩ := passes
  obtain ⟨flat, isFlat, flattened⟩ := Results.exists_of_any flattened
  obtain ⟨other, isOther, differs⟩ := Results.exists_of_any flattened
  obtain ⟨_, separates, ignores, tells⟩ :=
    GroupPlan.compile_flattening_separates accepted converts
  have late : conversion.flatten (Orders.noted (.scalar (.string "late"))) = .ok flat :=
    (ignores "Note" omitted (Orders.noted (.list [])) (.scalar (.string "late"))).trans isFlat
  have sameNotes := separates _ _ _ _ (by decide) (by decide) isFlat late
  have otherTotal := separates _ _ _ _ (by decide) (by decide) isFlat isOther
  have arity : spare.shape.arity = .pointer := by
    simpa [FieldShape.isPointer] using isPointer
  obtain ⟨absent, present, isAbsent, isPresent, apart⟩ :=
    tells _ _ (by decide) isFlat spare isField spare.shape.target
      (congrArg (FieldShape.mk · spare.shape.target) arity)
  rw [isSpare] at isAbsent isPresent
  refine ⟨compiled, conversion, accepted, converts, typed, sameNotes.1.mp rfl, ?_, _, absent,
    present, isAbsent, isPresent, apart⟩
  intro agree
  rw [otherTotal.2.mpr agree] at differs
  cases differs

end BlockSchema
