import BlockSchema.Proofs.Routine.Holding

/-!
Contract: emitted routines expand as their conversions do.

Both sides read a field by the same helper, or by one for a base type that agrees with it, and
call the same thing for a nested type. So they stop at the same error, and otherwise what the
model gets holds what the typed structure has.
-/

set_option autoImplicit false

namespace BlockSchema

/-- The function of a type's name expands as a conversion of the type does. -/
def Conversion.ExpandsAs
    {model : Model}
    (functions : Functions model)
    (conversion : Conversion) :
    Prop :=
  ∀ input, Results.Agree (fun record struct => conversion.Holds model record struct.toValue)
    (functions.expand conversion.typeId.expandName input) (conversion.expand input)

/-- One function does not expand as the conversions of two types do: an input that is no block
is refused with the type that it was read for. -/
theorem Conversion.ExpandsAs.typeId_eq
    {model : Model}
    {functions : Functions model}
    {first second : Conversion}
    (expandsFirst : first.ExpandsAs functions)
    (expandsSecond : second.ExpandsAs functions)
    (sameName : first.typeId.expandName = second.typeId.expandName) :
    first.typeId = second.typeId := by
  have refused : ∀ conversion : Conversion, conversion.ExpandsAs functions →
      functions.expand conversion.typeId.expandName .null =
        .error (.notABlock conversion.typeId Value.null.classify) := by
    intro conversion expands
    have stops : conversion.expand .null =
        .error (.notABlock conversion.typeId Value.null.classify) := by
      rw [Conversion.expand_eq]
      rfl
    have agree := expands .null
    rw [stops] at agree
    exact agree.eq_error
  have refusals := refused first expandsFirst
  rw [sameName, refused second expandsSecond] at refusals
  simpa using refusals.symm

section Fields

variable {model : Model} {functions : Functions model} {target : Target Conversion}

private theorem ElementReader.run_agrees
    (unwraps : ∀ place kind value, model.unwrap kind (model.wrap place kind value) = some value)
    (below : ∀ inner, target.nested? = some inner → inner.ExpandsAs functions)
    (field : String)
    (place : MemberPlace)
    (input : Value) :
    Results.Agree (Conversion.HoldsTarget model target)
      ((ElementReader.ofTarget field target.named).run functions place input)
      (Conversion.expandElement field target input) := by
  cases target with
  | scalar type =>
      rw [Conversion.expandElement_scalar]
      refine .mapLeft (.mapRight ((Helper.element_agrees type.kind field input).imp ?_))
      exact fun _ _ same => Model.holdsTarget_scalar (unwraps place type.kind) same
  | struct nested =>
      rw [Conversion.expandElement_struct]
      exact .mapRight (below nested rfl input)

private theorem ReadExpr.run_plain_agrees
    (unwraps : ∀ place kind value, model.unwrap kind (model.wrap place kind value) = some value)
    (below : ∀ inner, target.nested? = some inner → inner.ExpandsAs functions)
    {place : MemberPlace}
    (default : Conversion.HoldsShape model ⟨.plain, target⟩ (model.memberDefault place)
      (Conversion.zeroShape ⟨.plain, target⟩))
    (field : String)
    (block : Entries Value) :
    Results.Agree (Conversion.HoldsShape model ⟨.plain, target⟩)
      ((ReadExpr.ofShape field ⟨.plain, target.named⟩).run functions place block)
      (Conversion.expandShape field ⟨.plain, target⟩ (block.get? field)) := by
  rw [Conversion.expandShape_plain]
  cases target with
  | scalar type =>
      refine .mapLeft (.mapRight (.mapRight ((Helper.scalar_agrees _ field _).imp ?_)))
      intro value read same
      have isScalar : (read.map TypedValue.scalar).getD
          (Conversion.zeroShape ⟨.plain, .scalar type⟩) =
            .scalar (read.getD (.zero type.kind)) := by
        cases read <;> rfl
      rw [isScalar]
      exact Model.holdsTarget_scalar (unwraps place type.kind) same
  | struct nested =>
      have agree := Value.readSingle_agrees (below nested rfl) field (block.get? field)
      refine .mapLeft (.mapRight (.mapRight (agree.imp ?_)))
      rintro _ _ (holds | _)
      · exact holds
      · exact default

private theorem ReadExpr.run_pointer_agrees
    (unwraps : ∀ place kind value, model.unwrap kind (model.wrap place kind value) = some value)
    (below : ∀ inner, target.nested? = some inner → inner.ExpandsAs functions)
    (place : MemberPlace)
    (field : String)
    (block : Entries Value) :
    Results.Agree (Conversion.HoldsShape model ⟨.pointer, target⟩)
      ((ReadExpr.ofShape field ⟨.pointer, target.named⟩).run functions place block)
      (Conversion.expandShape field ⟨.pointer, target⟩ (block.get? field)) := by
  rw [Conversion.expandShape_pointer]
  cases target with
  | scalar type =>
      refine .mapLeft (.mapRight (.mapRight ((Helper.optionalScalar_agrees _ field _).imp ?_)))
      rintro value _ rfl
      cases value with
      | none => exact trivial
      | some value => exact Model.holdsTarget_scalar (unwraps place type.kind) rfl
  | struct nested =>
      have agree := Value.readSingle_agrees (below nested rfl) field (block.get? field)
      refine .mapLeft (.mapRight (.mapRight (agree.imp ?_)))
      rintro _ _ (holds | _)
      · exact holds
      · exact trivial

/-- The entries of a collection hold what the sorted map of alike entries has. -/
theorem Model.holdsShape_map
    {entries collected : Entries model.Datum}
    {typed : Entries TypedValue}
    (alike : Entries.Alike (Conversion.HoldsTarget model target) entries typed)
    (collects : collected.Perm (Entries.sortedOfList entries)) :
    Conversion.HoldsShape model ⟨.map, target⟩ (.map collected)
      (.map (Entries.sortedOfList typed)) := by
  refine ⟨?_, _, collects, alike.sortedOfList⟩
  exact (collects.map Prod.fst).nodup_iff.mpr (Entries.sortedOfList_sorted entries).nodup

private theorem ReadExpr.run_agrees
    (unwraps : ∀ place kind value, model.unwrap kind (model.wrap place kind value) = some value)
    (collects : ∀ place entries, (model.collect place entries).Perm (Entries.sortedOfList entries))
    (below : ∀ inner, target.nested? = some inner → inner.ExpandsAs functions)
    {arity : Arity}
    {place : MemberPlace}
    (default : Conversion.HoldsShape model ⟨arity, target⟩ (model.memberDefault place)
      (Conversion.zeroShape ⟨arity, target⟩))
    (field : String)
    (block : Entries Value) :
    Results.Agree (Conversion.HoldsShape model ⟨arity, target⟩)
      ((ReadExpr.ofShape field ⟨arity, target.named⟩).run functions place block)
      (Conversion.expandShape field ⟨arity, target⟩ (block.get? field)) := by
  have element := ElementReader.run_agrees unwraps below field place
  cases arity with
  | plain => exact ReadExpr.run_plain_agrees unwraps below default field block
  | pointer => exact ReadExpr.run_pointer_agrees unwraps below place field block
  | list =>
      rw [Conversion.expandShape_list, ReadExpr.ofShape, ReadExpr.run]
      exact .mapLeft (.mapRight (Value.readList_agrees element field _))
  | map =>
      rw [Conversion.expandShape_map, ReadExpr.ofShape, ReadExpr.run]
      refine .mapLeft (.mapRight ((Value.readMap_agrees element field _).imp ?_))
      exact fun entries typed alike =>
        Model.holdsShape_map alike (collects place entries)

end Fields

/-! ## Structures -/

section Structures

variable {model : Model} {functions : Functions model} {conversions : List Conversion}

private theorem Routine.readMember_agrees
    (serves : model.Serves conversions)
    {conversion : Conversion}
    (member : conversion ∈ conversions)
    (below : ∀ inner ∈ conversion.nested, inner.ExpandsAs functions)
    {field : FieldConversion Conversion}
    (inside : field ∈ conversion.fields)
    (block : Entries Value) :
    Results.Agree (Conversion.HoldsShape model field.shape)
      (Routine.readMember functions conversion.typeId.modelName block (.ofEntry field))
      (field.expand block) := by
  have nests : ∀ inner, field.shape.nested? = some inner → inner ∈ conversion.nested :=
    fun inner isNested => Conversion.mem_nested.mpr ⟨field, inside, isNested⟩
  have default := serves.memberDefault conversion member field inside
  cases reads : field.readsInput with
  | true =>
      rw [readMember, RoutineField.ofEntry, FieldConversion.expand, if_pos reads]
      simp only [reads, if_true]
      exact ReadExpr.run_agrees serves.unwraps serves.collects
        (fun inner isNested => below inner (nests inner isNested)) default field.external block
  | false =>
      have unread : ¬ field.readsInput = true := by simp [reads]
      rw [readMember, RoutineField.ofEntry, FieldConversion.expand, if_neg unread]
      simp only [reads]
      exact .ok default

/-- A structure of members that hold the values of all fields holds the structure. -/
theorem Conversion.holds_of_members
    {conversion : Conversion}
    {members rest : Entries model.Datum}
    {given : Entries TypedValue}
    (each : ∀ field ∈ conversion.fields, ∃ value typed,
      members.get? (Name.member field.declared) = some value ∧
        given.get? field.declared = some typed ∧
          Conversion.HoldsShape model field.shape value typed) :
    conversion.Holds model (.record conversion.typeId.modelName (members ++ rest))
      (.struct conversion.typeId given) := by
  refine Conversion.holds_iff.mpr ⟨rfl, _, rfl, fun field inside => ?_⟩
  obtain ⟨value, typed, found, isGiven, holds⟩ := each field inside
  refine ⟨value, ?_, ?_⟩
  · rw [Entries.get?_append, found, Option.some_or]
  · rw [isGiven]
    exact holds

/-- The function of a type's name expands as the conversion of the type does, when the functions
run the routines of some conversions that nest only one another. -/
theorem Conversion.Unambiguous.expandsAs
    (serves : model.Serves conversions)
    (closed : Conversion.Closed conversions)
    (runs : functions.Run (conversions.map Routine.ofConversion))
    {conversion : Conversion}
    (unambiguous : conversion.Unambiguous)
    (member : conversion ∈ conversions) :
    conversion.ExpandsAs functions := by
  induction unambiguous with
  | @intro conversion declared external below inductionHypothesis =>
      have nestedAgree : ∀ inner ∈ conversion.nested, inner.ExpandsAs functions :=
        fun inner isNested => inductionHypothesis inner isNested (closed _ member _ isNested)
      have defines := runs _ (List.mem_map_of_mem member)
      have defined : functions.expand conversion.typeId.expandName =
          (Routine.ofConversion conversion).expand functions := defines.expand
      intro input
      rw [defined, Routine.expand_eq, Conversion.expand_eq, Routine.ofConversion]
      refine .bind fun block => ?_
      rw [Results.mapM_map]
      simp only [RoutineField.ofEntry_member]
      have distinct := defines.wellFormed.distinct
      rw [Routine.ofConversion_members] at distinct
      have fields := Entries.mapM_agree distinct declared fun field inside =>
        Routine.readMember_agrees serves member nestedAgree inside block
      exact .mapLeft (.mapRight (fields.imp fun _ _ => Conversion.holds_of_members))

end Structures

end BlockSchema
