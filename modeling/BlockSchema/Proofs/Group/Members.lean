import BlockSchema.Proofs.Group.Conversions
import BlockSchema.Proofs.Name.Member
import BlockSchema.Proofs.Routine.Meaning

/-!
Contract: the identifiers of fields in the emitted source of a compiled group.

A group is compiled with external names that are valid and told apart. A field that keeps its
own name has an identifier that is so, too. A renamed field is emitted under its declared name,
which nothing was asked of: it may begin with a digit, or have the snake case form of another.
-/

set_option autoImplicit false

namespace BlockSchema

/-- A field keeps its name when the external name is made of the declared one. -/
def FieldConversion.KeepsName (field : FieldConversion Conversion) : Prop :=
  field.external = Name.external field.declared

instance (field : FieldConversion Conversion) : Decidable field.KeepsName :=
  inferInstanceAs (Decidable (_ = _))

/-- The routines of a compiled group have one member for each field that is converted, named
after its declared name. The members are told apart exactly when the snake case forms of the
declared names are, and a member is an identifier exactly when its declared name has something
alphanumeric that does not begin with a digit. The fields that keep their names have members
that are identifiers and told apart. -/
theorem GroupPlan.compile_members
    {manifest : Manifest}
    {group : GroupPlan}
    {compiled : CompiledGroup}
    (accepted : group.compile manifest = .ok compiled)
    {conversion : Conversion}
    (converts : compiled.Converts conversion) :
    (Routine.ofConversion conversion).fields.map RoutineField.member =
        conversion.fields.map (fun field => Name.member field.declared) ∧
      (((Routine.ofConversion conversion).fields.map RoutineField.member).Nodup ↔
        (conversion.fields.map fun field => Name.snake field.declared).Nodup) ∧
      (∀ field ∈ conversion.fields, Name.IsIdentifier (Name.member field.declared) ↔
        (field.declared.toList.find? Unicode.isAlphanumeric).map Char.isDigit = some false) ∧
      (∀ field ∈ conversion.fields, field.KeepsName →
        Name.IsIdentifier (Name.member field.declared)) ∧
      ((conversion.fields.filter fun field => field.KeepsName).map
        fun field => Name.member field.declared).Nodup := by
  have members : (Routine.ofConversion conversion).fields.map RoutineField.member =
      conversion.fields.map fun field => Name.member field.declared := by
    rw [Routine.ofConversion, List.map_map]
    exact List.map_congr_left fun field _ => RoutineField.ofEntry_member field
  have toldApart : ∀ fields : List (FieldConversion Conversion),
      (fields.map fun field => Name.member field.declared).Nodup ↔
        (fields.map fun field => Name.snake field.declared).Nodup := by
    intro fields
    unfold List.Nodup
    rw [List.pairwise_map, List.pairwise_map]
    simp only [ne_eq, Name.member_eq_iff]
  obtain ⟨registry, _, derived⟩ := GroupPlan.compile_derived accepted
  obtain ⟨node, isNode, rfl⟩ := derived.node_of_converts converts
  have matching := derived.built.matches_of_mem isNode
  refine ⟨members, by rw [members, toldApart], fun field _ => Name.isIdentifier_member_iff _,
    ?identifiers, ?distinct⟩
  case identifiers =>
    intro field member keeps
    apply Name.isIdentifier_of_external
    rw [← keeps]
    rw [TypeNode.conversion_eq] at member
    obtain ⟨source, isSource, rfl⟩ := List.mem_map.mp member
    exact matching.isExternal isSource
  case distinct =>
    rw [toldApart]
    have sameNames : ∀ field ∈ node.conversion.fields.filter fun field => field.KeepsName,
        Name.snake field.declared = field.external := fun field member =>
      (of_decide_eq_true (List.mem_filter.mp member).2).symm
    rw [List.map_congr_left sameNames]
    cases derived.built.conversion_unambiguous isNode with
    | intro _ external => exact external.sublist (List.filter_sublist.map _)

/-- No field of an order is renamed, so all members of an order are identifiers and told
apart. -/
theorem GroupPlan.compile_members_orders :
    ∃ compiled conversion,
      Orders.group.compile Orders.manifest = .ok compiled ∧
      compiled.Converts conversion ∧
      conversion.typeId = Orders.order.id ∧
      (∀ field ∈ conversion.fields, Name.IsIdentifier (Name.member field.declared)) ∧
      (conversion.fields.map fun field => Name.member field.declared).Nodup := by
  obtain ⟨compiled, conversion, accepted, converts, passes⟩ :=
    @Orders.converts
      (fun conversion => conversion.typeId == Orders.order.id &&
        conversion.fields.all fun field => field.KeepsName)
      (by decide +kernel)
  rw [Bool.and_eq_true, beq_iff_eq, List.all_eq_true] at passes
  obtain ⟨typed, allKeep⟩ := passes
  obtain ⟨_, _, _, identifiers, distinct⟩ := GroupPlan.compile_members accepted converts
  rw [List.filter_eq_self.mpr allKeep] at distinct
  exact ⟨compiled, conversion, accepted, converts, typed,
    fun field member => identifiers field member (of_decide_eq_true (allKeep field member)),
    distinct⟩

namespace Badges

/-- A badge with a name that begins with a digit, and with two names for a code. -/
def badge : TypeDef :=
  { name := "Badge"
    package := "shop"
    description := none
    fields :=
      [Orders.field "1st" (.scalar (.plain .string)),
        Orders.field "PinCode" (.scalar (.plain .string)),
        Orders.field "pin_code" (.scalar (.plain .int))] }

def manifest : Manifest :=
  ⟨[badge], by decide, by decide⟩

def group : GroupPlan :=
  { name := "badges"
    docs := none
    readOnly := false
    types := [⟨badge.id, [.rename "1st" "first", .rename "PinCode" "pin"]⟩] }

end Badges

/-- The external names of a badge are valid and told apart. Of the members that are emitted for
it, one begins with a digit and the other two are the same. -/
theorem GroupPlan.compile_members_clash :
    ∃ compiled conversion,
      Badges.group.compile Badges.manifest = .ok compiled ∧
      compiled.Converts conversion ∧
      conversion.fields.map FieldConversion.external = ["first", "pin", "pin_code"] ∧
      (Routine.ofConversion conversion).fields.map RoutineField.member =
        ["1st", "pin_code", "pin_code"] ∧
      ¬ ((Routine.ofConversion conversion).fields.map RoutineField.member).Nodup ∧
      ¬ ∀ member ∈ (Routine.ofConversion conversion).fields.map RoutineField.member,
        Name.IsIdentifier member := by
  have passes : (Badges.group.compile Badges.manifest).toOption.any (fun compiled =>
      compiled.conversions.any fun conversion =>
        conversion.fields.map FieldConversion.external == ["first", "pin", "pin_code"] &&
          (Routine.ofConversion conversion).fields.map RoutineField.member ==
            ["1st", "pin_code", "pin_code"]) = true := by
    decide +kernel
  obtain ⟨compiled, accepted, passes⟩ := Results.exists_of_any passes
  obtain ⟨conversion, listed, passes⟩ := List.any_eq_true.mp passes
  rw [Bool.and_eq_true, beq_iff_eq, beq_iff_eq] at passes
  obtain ⟨externals, members⟩ := passes
  refine ⟨compiled, conversion, accepted, ⟨conversion, .inl listed, .refl⟩, externals, members, ?_⟩
  rw [members]
  decide

end BlockSchema
