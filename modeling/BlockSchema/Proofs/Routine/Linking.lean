import BlockSchema.Proofs.Conversion.Memory
import BlockSchema.Proofs.Routine.Meaning

/-!
Contract: the functions that a program of routines defines.

A routine calls the functions of the types that its conversion nests and no others. In a
program where every routine stands after those that it calls, the functions can be put in one
by one, and none changes what was put in before it. A name that two routines share has no
function: an input that is no block is refused with the type that it was read for.
-/

set_option autoImplicit false

namespace BlockSchema

/-! ## Putting functions in -/

namespace Functions

variable {model : Model}

/-- Functions before any routine; none of them gives a value. -/
def undefined : Functions model where
  expand _ input := .error (.notABlock default input.classify)
  flatten _ _ := .error .value

/-- The functions with those of a routine put in under its names. -/
def define (functions : Functions model) (routine : Routine) : Functions model where
  expand name :=
    if name = routine.expandName then routine.expand functions else functions.expand name
  flatten name :=
    if name = routine.flattenName then routine.flatten functions else functions.flatten name

/-- The functions of a program. -/
def ofProgram (program : List Routine) : Functions model :=
  program.foldl define undefined

/-- Some functions do the same under the names of a type. -/
structure AgreeOn (first second : Functions model) (id : TypeId) : Prop where
  expand : first.expand id.expandName = second.expand id.expandName
  flatten : first.flatten id.flattenName = second.flatten id.flattenName

private theorem define_agreeOn
    (functions : Functions model)
    {routine : Routine}
    {id : TypeId}
    (expandDiffers : id.expandName ≠ routine.expandName)
    (flattenDiffers : id.flattenName ≠ routine.flattenName) :
    functions.AgreeOn (functions.define routine) id :=
  ⟨(if_neg expandDiffers).symm, (if_neg flattenDiffers).symm⟩

private theorem define_expand (functions : Functions model) (routine : Routine) :
    (functions.define routine).expand routine.expandName = routine.expand functions :=
  if_pos rfl

private theorem define_flatten (functions : Functions model) (routine : Routine) :
    (functions.define routine).flatten routine.flattenName = routine.flatten functions :=
  if_pos rfl

end Functions

/-! ## What a routine calls -/

section Calls

variable {model : Model} {first second : Functions model} {target : Target TypeId}

private theorem ElementReader.run_congr
    (same : ∀ id, target.nested? = some id → first.AgreeOn second id)
    (field : String)
    (place : MemberPlace) :
    (ElementReader.ofTarget field target).run first place =
      (ElementReader.ofTarget field target).run second place := by
  cases target with
  | scalar type => rfl
  | struct id => exact (same id rfl).expand

private theorem ElementWriter.run_congr
    (same : ∀ id, target.nested? = some id → first.AgreeOn second id) :
    (ElementWriter.ofTarget target).run first = (ElementWriter.ofTarget target).run second := by
  cases target with
  | scalar type => rfl
  | struct id => exact (same id rfl).flatten

private theorem ReadExpr.run_congr
    (same : ∀ id, target.nested? = some id → first.AgreeOn second id)
    (arity : Arity)
    (field : String)
    (place : MemberPlace)
    (block : Entries Value) :
    (ReadExpr.ofShape field ⟨arity, target⟩).run first place block =
      (ReadExpr.ofShape field ⟨arity, target⟩).run second place block := by
  have element := ElementReader.run_congr same field place
  have single : ∀ id, target = .struct id →
      first.expand id.expandName = second.expand id.expandName := by
    rintro id rfl
    exact element
  cases arity with
  | plain => cases target <;> simp [ReadExpr.ofShape, ReadExpr.run, single]
  | pointer => cases target <;> simp [ReadExpr.ofShape, ReadExpr.run, single]
  | list => simp only [ReadExpr.ofShape, ReadExpr.run, element]
  | map => simp only [ReadExpr.ofShape, ReadExpr.run, element]

private theorem WriteExpr.run_congr
    (same : ∀ id, target.nested? = some id → first.AgreeOn second id)
    (arity : Arity)
    (value : model.Datum) :
    (WriteExpr.ofShape ⟨arity, target⟩).run first value =
      (WriteExpr.ofShape ⟨arity, target⟩).run second value := by
  have element := ElementWriter.run_congr same
  have single : ∀ id, target = .struct id →
      first.flatten id.flattenName = second.flatten id.flattenName := by
    rintro id rfl
    exact element
  cases arity with
  | plain => cases target <;> simp [WriteExpr.ofShape, WriteExpr.run, single]
  | pointer =>
      cases target with
      | scalar type =>
          rcases value with _ | _ | (_ | inner) | _ | _ | _ <;> rfl
      | struct id =>
          rcases value with _ | _ | (_ | inner) | _ | _ | _ <;>
            simp [WriteExpr.ofShape, WriteExpr.run, single]
  | list => cases value <;> simp only [WriteExpr.ofShape, WriteExpr.run, element]
  | map => cases value <;> simp only [WriteExpr.ofShape, WriteExpr.run, element]

/-- The field of a routine does the same with functions that do the same for its type. -/
theorem RoutineField.run_congr
    {entry : FieldConversion Conversion}
    (same : ∀ inner, entry.shape.nested? = some inner → first.AgreeOn second inner.typeId) :
    (∀ struct block, Routine.readMember first struct block (.ofEntry entry) =
        Routine.readMember second struct block (.ofEntry entry)) ∧
      ∀ value, (RoutineField.ofEntry entry).write.run first value =
        (RoutineField.ofEntry entry).write.run second value := by
  have named : ∀ id, entry.shape.target.named.nested? = some id → first.AgreeOn second id := by
    intro id isNested
    cases target : entry.shape.target with
    | scalar type =>
        rw [target] at isNested
        cases isNested
    | struct inner =>
        rw [target] at isNested
        obtain rfl := Option.some.inj isNested
        exact same inner (congrArg Target.nested? target)
  refine ⟨fun struct block => ?_, fun value => WriteExpr.run_congr named entry.shape.arity value⟩
  unfold Routine.readMember RoutineField.ofEntry
  cases entry.readsInput with
  | true => exact ReadExpr.run_congr named entry.shape.arity entry.external _ block
  | false => rfl

/-- A routine does the same when all its fields do. -/
theorem Routine.run_congr
    {routine : Routine}
    (reads : ∀ field ∈ routine.fields, ∀ struct block,
      Routine.readMember first struct block field = Routine.readMember second struct block field)
    (writes : ∀ field ∈ routine.fields, ∀ value,
      field.write.run first value = field.write.run second value) :
    routine.expand first = routine.expand second ∧
      routine.flatten first = routine.flatten second := by
  have members : ∀ block,
      (routine.fields.mapM fun field =>
        (Routine.readMember first routine.structName block field).map (Prod.mk field.member)) =
      routine.fields.mapM fun field =>
        (Routine.readMember second routine.structName block field).map (Prod.mk field.member) :=
    fun block => Results.mapM_congr fun field inside => by rw [reads field inside]
  have written : ∀ held,
      (routine.fields.mapM fun field =>
        (Routine.writeMember first held field).map (Prod.mk field.external)) =
      routine.fields.mapM fun field =>
        (Routine.writeMember second held field).map (Prod.mk field.external) := by
    refine fun held => Results.mapM_congr fun field inside => ?_
    rw [Routine.writeMember, Routine.writeMember]
    cases Entries.get? field.member held with
    | none => rfl
    | some value => exact congrArg (Except.map _) (writes field inside value)
  constructor
  · funext input
    simp only [Routine.expand_eq, members]
  · funext record
    cases record with
    | record type held => simp only [Routine.flatten, written]
    | _ => rfl

/-- A routine calls the functions of the nested types only. -/
theorem Routine.calls_nested
    {conversion : Conversion}
    (same : ∀ inner ∈ conversion.nested, first.AgreeOn second inner.typeId) :
    (Routine.ofConversion conversion).expand first =
        (Routine.ofConversion conversion).expand second ∧
      (Routine.ofConversion conversion).flatten first =
        (Routine.ofConversion conversion).flatten second := by
  have nests : ∀ entry ∈ conversion.fields, ∀ inner, entry.shape.nested? = some inner →
      first.AgreeOn second inner.typeId := fun entry inside inner isNested =>
    same inner (Conversion.mem_nested.mpr ⟨entry, inside, isNested⟩)
  refine Routine.run_congr (fun field inside => ?_) (fun field inside => ?_)
  · obtain ⟨entry, isEntry, rfl⟩ := List.mem_map.mp inside
    exact (RoutineField.run_congr (nests entry isEntry)).1
  · obtain ⟨entry, isEntry, rfl⟩ := List.mem_map.mp inside
    exact (RoutineField.run_congr (nests entry isEntry)).2

end Calls

/-! ## Programs -/

section Programs

variable {model : Model} {functions : Functions model} {conversions : List Conversion}

/-- Putting in the functions of a type whose names are new keeps the routines that do not call
them. -/
theorem Functions.define_run
    {conversion : Conversion}
    (runs : functions.Run (conversions.map Routine.ofConversion))
    (closed : Conversion.Closed conversions)
    (nests : ∀ inner ∈ conversion.nested, inner ∈ conversions)
    (isNew : ∀ other ∈ conversions, other.typeId.stem ≠ conversion.typeId.stem)
    (wellFormed : (Routine.ofConversion conversion).WellFormed) :
    (functions.define (.ofConversion conversion)).Run
      ((conversions ++ [conversion]).map Routine.ofConversion) := by
  have unchanged : ∀ other ∈ conversions,
      functions.AgreeOn (functions.define (.ofConversion conversion)) other.typeId :=
    fun other member => Functions.define_agreeOn functions
      (mt TypeId.expandName_eq_iff.mp (isNew other member))
      (mt TypeId.flattenName_eq_iff.mp (isNew other member))
  intro routine inside
  obtain ⟨other, isOther, rfl⟩ := List.mem_map.mp inside
  rcases List.mem_append.mp isOther with member | isLast
  · have defined := runs _ (List.mem_map_of_mem member)
    have calls := Routine.calls_nested fun inner isNested =>
      unchanged inner (closed other member inner isNested)
    exact
      { wellFormed := defined.wellFormed
        expand := (unchanged other member).expand.symm.trans (defined.expand.trans calls.1)
        flatten := (unchanged other member).flatten.symm.trans (defined.flatten.trans calls.2) }
  · obtain rfl := List.mem_singleton.mp isLast
    have calls := Routine.calls_nested fun inner isNested => unchanged inner (nests inner isNested)
    exact
      { wellFormed := wellFormed
        expand := (functions.define_expand _).trans calls.1
        flatten := (functions.define_flatten _).trans calls.2 }

/-- The functions of a program run all its routines, when each stands after those that it
calls and no two share their names. -/
theorem Functions.ofProgram_run
    (ordered : Conversion.InOrder conversions)
    (distinct : (conversions.map fun conversion => conversion.typeId.stem).Nodup)
    (wellFormed : ∀ conversion ∈ conversions, (Routine.ofConversion conversion).WellFormed) :
    (Functions.ofProgram (conversions.map Routine.ofConversion) : Functions model).Run
      (conversions.map Routine.ofConversion) := by
  induction ordered with
  | nothing => simp [Functions.Run]
  | @add before conversion earlier nests inductionHypothesis =>
      rw [List.map_append, List.nodup_append] at distinct
      obtain ⟨distinctBefore, _, apart⟩ := distinct
      rw [List.forall_mem_append] at wellFormed
      obtain ⟨wellFormedBefore, isWellFormed⟩ := wellFormed
      have isNew : ∀ other ∈ before, other.typeId.stem ≠ conversion.typeId.stem :=
        fun other member => apart _ (List.mem_map_of_mem member) _ (List.mem_singleton_self _)
      have linked : (Functions.ofProgram ((before ++ [conversion]).map Routine.ofConversion) :
          Functions model) =
          (Functions.ofProgram (before.map Routine.ofConversion)).define
            (.ofConversion conversion) := by
        rw [Functions.ofProgram, List.map_append]
        exact List.foldl_concat _ _ _ _
      rw [linked]
      exact Functions.define_run (inductionHypothesis distinctBefore wellFormedBefore)
        earlier.closed nests isNew (isWellFormed conversion (List.mem_singleton_self _))

/-- An input that is no block is refused with the type that it was read for. -/
theorem Routine.expand_null (routine : Routine) (functions : Functions model) :
    routine.expand functions .null = .error (.notABlock routine.typeId Value.null.classify) :=
  rfl

/-- Two routines of one name that are run by the same functions are for one type. -/
theorem Functions.Run.typeId_eq
    {program : List Routine}
    (runs : functions.Run program)
    {first second : Routine}
    (isFirst : first ∈ program)
    (isSecond : second ∈ program)
    (same : first.expandName = second.expandName) :
    first.typeId = second.typeId := by
  have expands : first.expand functions = second.expand functions := by
    rw [← (runs first isFirst).expand, ← (runs second isSecond).expand, same]
  have refused := congrFun expands .null
  rw [Routine.expand_null, Routine.expand_null] at refused
  simpa using refused

/-- The routines of conversions that nest only one another define functions exactly when no two
types share a name and the text of each routine is well-formed. -/
theorem Functions.exists_run_iff
    (ordered : Conversion.InOrder conversions)
    (distinct : (conversions.map Conversion.typeId).Nodup) :
    (∃ functions : Functions model, functions.Run (conversions.map Routine.ofConversion)) ↔
      (conversions.map fun conversion => conversion.typeId.stem).Nodup ∧
        ∀ conversion ∈ conversions, (Routine.ofConversion conversion).WellFormed := by
  constructor
  · rintro ⟨functions, runs⟩
    have isRun : ∀ conversion ∈ conversions, Routine.ofConversion conversion ∈
        conversions.map Routine.ofConversion := fun _ => List.mem_map_of_mem
    refine ⟨?_, fun conversion member => (runs _ (isRun conversion member)).wellFormed⟩
    rw [List.Nodup, List.pairwise_map] at distinct ⊢
    refine distinct.imp_of_mem fun {first second} isFirst isSecond differs same => differs ?_
    exact runs.typeId_eq (isRun first isFirst) (isRun second isSecond)
      (TypeId.expandName_eq_iff.mpr same)
  · rintro ⟨distinctNames, wellFormed⟩
    exact ⟨_, Functions.ofProgram_run ordered distinctNames wellFormed⟩

end Programs

end BlockSchema
