import BlockSchema.Proofs.Group.Closure
import BlockSchema.Proofs.Output.Paths
import BlockSchema.Proofs.Routine.Expansion
import BlockSchema.Proofs.Routine.Flattening
import BlockSchema.Proofs.Routine.Linking
import BlockSchema.Proofs.Routine.Plain
import BlockSchema.Proofs.Routine.Reading

/-!
Contract: the source that is emitted for a group means what its conversions do.

The routines of a group are read off the texts that are emitted for it. They define functions
as long as their names are told apart and the members of each structure can be told apart and
are identifiers; compiling asks for neither. Functions that they define, with a model that
serves the group, expand every value and flatten every structure as the conversions do.
-/

set_option autoImplicit false

namespace BlockSchema

/-! ## Programs of groups -/

/-- The routines that the texts say which are emitted for a group. -/
def CompiledGroup.program? (compiled : CompiledGroup) : Option (List Routine) :=
  compiled.conversions.mapM fun conversion =>
    Routine.ofSource? conversion.typeId.modelName (Routine.ofConversion conversion).source

/-- Every text is read as the routine that it was emitted for. -/
theorem CompiledGroup.program?_eq (compiled : CompiledGroup) :
    compiled.program? = some (compiled.conversions.map Routine.ofConversion) := by
  unfold program?
  simp only [Routine.ofSource?_ofConversion]
  exact List.mapM_pure

section Programs

variable {manifest : Manifest} {group : GroupPlan} {compiled : CompiledGroup}

private theorem GroupPlan.compile_inOrder (accepted : group.compile manifest = .ok compiled) :
    Conversion.InOrder compiled.conversions := by
  obtain ⟨registry, roots, ofRoots, steps⟩ := GroupPlan.compile_steps accepted
  have eachKeeps : ∀ nodes : List TypeNode, ∀ before, Conversion.InOrder before →
      Building.Keeps Conversion.InOrder before (Building.each Conversion.derive nodes before) :=
    fun nodes _ ordered => .each nodes
      (fun node _ _ orderedBefore => .of_advances (Conversion.derive_inOrder node orderedBefore))
      ordered
  have keeps : Building.Keeps Conversion.InOrder []
      (Conversion.deriveGroup compiled.graph roots []) :=
    .bind (eachKeeps _ [] .nothing) fun _ later => eachKeeps roots later
  rw [steps.derived] at keeps
  exact keeps.kept

/-- No two routines of a group are for one type. -/
theorem GroupPlan.compile_distinct (accepted : group.compile manifest = .ok compiled) :
    (compiled.conversions.map Conversion.typeId).Nodup := by
  obtain ⟨registry, resolved, derived⟩ := GroupPlan.compile_derived accepted
  obtain ⟨_, inOrder, _⟩ := GroupPlan.compile_parts accepted resolved
  have ids : compiled.conversions.map Conversion.typeId = compiled.graph.ids := by
    rw [inOrder, List.map_map]
    exact List.map_congr_left fun node _ => node.conversion_typeId
  rw [ids]
  exact derived.built.distinct

private theorem GroupPlan.listed_of_converts
    (accepted : group.compile manifest = .ok compiled)
    {conversion : Conversion}
    (converts : compiled.Converts conversion) :
    conversion ∈ compiled.conversions := by
  obtain ⟨registry, _, derived⟩ := GroupPlan.compile_derived accepted
  obtain ⟨node, member, rfl⟩ := derived.node_of_converts converts
  exact derived.conversionOf node member

/-- Where structures and members have names of their own, there is a model for the group. -/
theorem GroupPlan.plain_serves
    (accepted : group.compile manifest = .ok compiled)
    (structs : (compiled.conversions.map fun conversion => conversion.typeId.modelName).Nodup)
    (members : ∀ conversion ∈ compiled.conversions,
      (conversion.fields.map fun field => Name.member field.declared).Nodup) :
    (Model.plain compiled.conversions).Serves compiled.conversions :=
  Model.plain_serves structs (GroupPlan.compile_inOrder accepted).closed
    (fun _ member => GroupPlan.converts_unambiguous accepted ⟨_, .inl member, .refl⟩) members

private theorem Routine.wellFormed_iff {conversion : Conversion} :
    (Routine.ofConversion conversion).WellFormed ↔
      (conversion.fields.map fun field => Name.member field.declared).Nodup ∧
        ∀ field ∈ conversion.fields, Name.IsIdentifier (Name.member field.declared) := by
  have members := Routine.ofConversion_members conversion
  constructor
  · rintro ⟨distinct, identifiers⟩
    rw [members] at distinct identifiers
    exact ⟨distinct, List.forall_mem_map.mp identifiers⟩
  · rintro ⟨distinct, identifiers⟩
    refine ⟨?_, ?_⟩
    · rw [members]
      exact distinct
    · rw [members]
      exact List.forall_mem_map.mpr identifiers

end Programs

/-! ## Agreement -/

section Agreement

variable
  {manifest : Manifest}
  {group : GroupPlan}
  {compiled : CompiledGroup}
  {model : Model}
  {functions : Functions model}
  {conversion : Conversion}

private theorem GroupPlan.runs_expandsAs
    (accepted : group.compile manifest = .ok compiled)
    (serves : model.Serves compiled.conversions)
    (runs : functions.Run (compiled.conversions.map Routine.ofConversion))
    (converts : compiled.Converts conversion) :
    conversion.ExpandsAs functions :=
  (GroupPlan.converts_unambiguous accepted converts).expandsAs serves
    (GroupPlan.compile_inOrder accepted).closed runs
    (GroupPlan.listed_of_converts accepted converts)

private theorem GroupPlan.runs_flattensAs
    (accepted : group.compile manifest = .ok compiled)
    (runs : functions.Run (compiled.conversions.map Routine.ofConversion))
    (converts : compiled.Converts conversion) :
    conversion.FlattensAs functions :=
  (GroupPlan.converts_unambiguous accepted converts).flattensAs
    (GroupPlan.compile_inOrder accepted).closed runs
    (GroupPlan.listed_of_converts accepted converts)

private theorem GroupPlan.runs_representable
    (accepted : group.compile manifest = .ok compiled)
    (serves : model.Serves compiled.conversions)
    (runs : functions.Run (compiled.conversions.map Routine.ofConversion))
    (converts : compiled.Converts conversion) :
    conversion.Representable model := by
  have members : ∀ conversion ∈ compiled.conversions,
      (conversion.fields.map fun field => Name.member field.declared).Nodup := by
    intro other listed
    have defined := runs _ (List.mem_map_of_mem listed)
    exact (Routine.wellFormed_iff.mp defined.wellFormed).1
  exact (GroupPlan.converts_unambiguous accepted converts).representable serves
    (GroupPlan.compile_inOrder accepted).closed members
    (GroupPlan.listed_of_converts accepted converts)

end Agreement

/-- The texts that are emitted for a compiled group are read as routines. These define
functions exactly when no two types share their names in emitted source, and every structure
has members that are identifiers and told apart. Such functions do what the conversions of the
group do, with any model that serves it. They expand every value to a structure that holds
what the conversion makes of it, or stop at the same error. They write every structure that
the conversion flattens, whichever structure of the model holds it, as the same block. -/
theorem GroupPlan.routines_agree
    {manifest : Manifest}
    {group : GroupPlan}
    {compiled : CompiledGroup}
    (accepted : group.compile manifest = .ok compiled) :
    ∃ program, compiled.program? = some program ∧
      (∀ model : Model,
        ((∃ functions : Functions model, functions.Run program) ↔
          (compiled.conversions.map fun conversion => conversion.typeId.stem).Nodup ∧
            ∀ conversion ∈ compiled.conversions,
              (conversion.fields.map fun field => Name.member field.declared).Nodup ∧
                ∀ field ∈ conversion.fields, Name.IsIdentifier (Name.member field.declared)) ∧
        (model.Serves compiled.conversions → ∀ functions : Functions model,
          functions.Run program → ∀ conversion, compiled.Converts conversion →
            (∀ input,
              Results.Agree (fun record struct => conversion.Holds model record struct.toValue)
                (functions.expand conversion.typeId.expandName input)
                (conversion.expand input)) ∧
            ∀ struct flat, conversion.flatten struct = .ok flat →
              (struct.toValue.proper = true →
                ∃ record, conversion.Holds model record struct.toValue) ∧
              ∀ record, conversion.Holds model record struct.toValue →
                ∃ written,
                  functions.flatten conversion.typeId.flattenName record = .ok written ∧
                    written.Alike flat)) ∧
      (∀ kind field input scalar, Value.readScalar field kind input = .ok (some scalar) →
        ∃ value, Helper.optionalScalar kind field input = .ok (some value) ∧
          kind.toScalar value = scalar) ∧
      ∀ kind field input scalar, Value.readElement field kind input = .ok scalar →
        (kind.ofScalar? scalar).isSome = true := by
  refine ⟨_, compiled.program?_eq, fun model => ⟨?defined, ?agree⟩, ?present, ?element⟩
  case defined =>
    rw [Functions.exists_run_iff (GroupPlan.compile_inOrder accepted)
      (GroupPlan.compile_distinct accepted)]
    simp only [Routine.wellFormed_iff]
  case agree =>
    intro serves functions runs conversion converts
    have representable := GroupPlan.runs_representable accepted serves runs converts
    have flattens := GroupPlan.runs_flattensAs accepted runs converts
    refine ⟨GroupPlan.runs_expandsAs accepted serves runs converts, ?_⟩
    intro struct flat flattened
    exact ⟨fun proper => representable struct.type struct.fields flat proper flattened,
      flattens struct.type struct.fields flat flattened⟩
  case present =>
    intro kind field input scalar isRead
    have agree := Helper.optionalScalar_agrees kind field input
    rw [isRead] at agree
    obtain ⟨_, isHelped, same⟩ := agree.exists_of_ok
    obtain ⟨value, rfl, isValue⟩ := Option.map_eq_some_iff.mp same
    exact ⟨value, isHelped, isValue⟩
  case element =>
    intro kind field input scalar isRead
    obtain ⟨value, isValue⟩ := ScalarKind.exists_toScalar (Value.kind_of_readElement isRead)
    rw [ScalarKind.ofScalar?_eq_some.mpr isValue]
    rfl

/-- Two nails are written by the emitted routines as their conversion flattens them. -/
theorem GroupPlan.routines_agree_twoNails :
    ∃ compiled program, Orders.group.compile Orders.manifest = .ok compiled ∧
      compiled.program? = some program ∧
      (Model.plain compiled.conversions).Serves compiled.conversions ∧
      ∃ conversion flat, compiled.Converts conversion ∧
        conversion.flatten Orders.twoNails = .ok flat ∧
        ∃ functions : Functions (Model.plain compiled.conversions),
          functions.Run program ∧
          ∃ record written,
            conversion.Holds (Model.plain compiled.conversions) record Orders.twoNails.toValue ∧
            functions.flatten conversion.typeId.flattenName record = .ok written ∧
            written.Alike flat ∧ written.same flat = true := by
  have passes : (Orders.group.compile Orders.manifest).toOption.any (fun compiled =>
      decide (compiled.conversions.map fun conversion => conversion.typeId.modelName).Nodup &&
      decide (compiled.conversions.map fun conversion => conversion.typeId.stem).Nodup &&
      (compiled.conversions.all fun conversion =>
        decide (conversion.fields.map fun field => Name.member field.declared).Nodup &&
        conversion.fields.all fun field =>
          decide (Name.IsIdentifier (Name.member field.declared))) &&
      compiled.conversions.any fun conversion =>
        (conversion.flatten Orders.twoNails).toOption.isSome) = true := by decide +kernel
  obtain ⟨compiled, accepted, passed⟩ := Orders.compiles passes
  simp only [Bool.and_eq_true, decide_eq_true_eq, List.all_eq_true] at passed
  obtain ⟨⟨⟨structs, stems⟩, members⟩, anyFlattens⟩ := passed
  obtain ⟨conversion, member, isFlat⟩ := List.any_eq_true.mp anyFlattens
  have serves := GroupPlan.plain_serves accepted structs fun conversion member =>
    (members conversion member).1
  have converts : compiled.Converts conversion := ⟨conversion, .inl member, .refl⟩
  have proper : Orders.twoNails.toValue.proper = true := by decide +kernel
  obtain ⟨program, isProgram, agree, _⟩ := GroupPlan.routines_agree accepted
  obtain ⟨defined, agrees⟩ := agree (Model.plain compiled.conversions)
  obtain ⟨functions, runs⟩ := defined.mpr ⟨stems, members⟩
  cases flattened : conversion.flatten Orders.twoNails with
  | error error =>
      rw [flattened] at isFlat
      cases isFlat
  | ok flat =>
      obtain ⟨held, writes⟩ := (agrees serves functions runs conversion converts).2 _ flat flattened
      obtain ⟨record, holds⟩ := held proper
      obtain ⟨written, isWritten, alike⟩ := writes record holds
      exact ⟨compiled, program, accepted, isProgram, serves, conversion, flat, converts, flattened,
        functions, runs, record, written, holds, isWritten, alike, alike.same⟩

namespace Carts

/-- A group of the cart that nests both items. -/
def group : GroupPlan :=
  { name := "carts"
    docs := none
    readOnly := false
    types := [⟨cart.id, []⟩] }

end Carts

/-- A cart nests two items whose routines are called the same. Whatever function the name
stands for, it does not expand both items as their conversions do, and no functions run the
routines that the emitted texts say. -/
theorem GroupPlan.routines_agree_shared :
    ∃ compiled program, Carts.group.compile Carts.manifest = .ok compiled ∧
      compiled.program? = some program ∧
      (Model.plain compiled.conversions).Serves compiled.conversions ∧
      ∃ first second, compiled.Converts first ∧ compiled.Converts second ∧
        first.typeId = Carts.item.id ∧ second.typeId = Carts.revisedItem.id ∧
        ∀ (model : Model) (functions : Functions model), ¬ functions.Run program ∧
          ¬ (first.ExpandsAs functions ∧ second.ExpandsAs functions) := by
  have passes : (Carts.group.compile Carts.manifest).toOption.any (fun compiled =>
      decide (compiled.conversions.map fun conversion => conversion.typeId.modelName).Nodup &&
      (compiled.conversions.all fun conversion =>
        decide (conversion.fields.map fun field => Name.member field.declared).Nodup) &&
      (compiled.conversions.any fun conversion => conversion.typeId == Carts.item.id) &&
      compiled.conversions.any fun conversion =>
        conversion.typeId == Carts.revisedItem.id) = true := by decide +kernel
  obtain ⟨compiled, accepted, passed⟩ := Results.exists_of_any passes
  simp only [Bool.and_eq_true, decide_eq_true_eq, List.all_eq_true, List.any_eq_true,
    beq_iff_eq] at passed
  obtain ⟨⟨⟨structs, members⟩, first, listedFirst, isItem⟩, second, listedSecond, isRevised⟩ :=
    passed
  have differ : first.typeId ≠ second.typeId := by
    rw [isItem, isRevised]
    decide
  have sameStem : first.typeId.stem = second.typeId.stem := by
    rw [isItem, isRevised]
    decide +kernel
  have sameName := TypeId.expandName_eq_iff.mpr sameStem
  refine ⟨compiled, _, accepted, compiled.program?_eq,
    GroupPlan.plain_serves accepted structs members, first, second,
    ⟨first, .inl listedFirst, .refl⟩, ⟨second, .inl listedSecond, .refl⟩, isItem, isRevised,
    fun model functions => ⟨fun runs => differ ?_, fun both => differ ?_⟩⟩
  · exact runs.typeId_eq (List.mem_map_of_mem listedFirst) (List.mem_map_of_mem listedSecond)
      sameName
  · exact both.1.typeId_eq both.2 sameName

end BlockSchema
