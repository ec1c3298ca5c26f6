import BlockSchema.Proofs.Conversion.RoundTrip
import BlockSchema.Proofs.Routine.Holding

/-!
Contract: emitted routines flatten as their conversions do.

A structure that its conversion flattens is held by a structure of the model, and whichever
one holds it is written as the same block. Only the collections of the model may give the
keys of a map in another order.
-/

set_option autoImplicit false

namespace BlockSchema

/-! ## Values that are the same -/

/-- Values that differ at most in the order of the keys in their blocks, where no block has
a key twice. -/
inductive Value.Alike : Value → Value → Prop where
  | null : Alike .null .null
  | scalar (value : Scalar) : Alike (.scalar value) (.scalar value)
  | list {lefts rights : List Value} (items : List.Forall₂ Alike lefts rights) :
      Alike (.list lefts) (.list rights)
  | block {lefts inOrder rights : Entries Value}
      (distinct : (Entries.keys rights).Nodup)
      (permuted : lefts.Perm inOrder)
      (keys : Entries.keys inOrder = Entries.keys rights)
      (values : List.Forall₂ Alike (inOrder.map Prod.snd) (rights.map Prod.snd)) :
      Alike (.block lefts) (.block rights)

private theorem Value.Alike.ofEntries
    {lefts inOrder rights : Entries Value}
    (distinct : rights.keys.Nodup)
    (permuted : lefts.Perm inOrder)
    (alike : Entries.Alike Value.Alike inOrder rights) :
    Value.Alike (.block lefts) (.block rights) := by
  refine .block distinct permuted alike.keys ?_
  rw [List.forall₂_map_left_iff, List.forall₂_map_right_iff]
  exact alike.imp fun _ _ both => both.2

section Same

variable {lefts rights : Entries Value}

private theorem Scalar.same_refl (scalar : Scalar) : scalar.same scalar = true := by
  cases scalar with
  | float value => simp [Scalar.same, Binary64.agrees]
  | _ => simp [Scalar.same]

theorem Value.sameItems_iff {lefts rights : List Value} :
    Value.sameItems lefts rights = true ↔
      List.Forall₂ (fun left right => left.same right = true) lefts rights := by
  induction lefts generalizing rights with
  | nil => cases rights <;> simp [Value.sameItems]
  | cons left rest inductionHypothesis =>
      cases rights <;> simp [Value.sameItems, inductionHypothesis]

theorem Value.sameEntries_iff :
    Value.sameEntries lefts rights = true ↔
      ∀ entry ∈ lefts, ∃ right, rights.get? entry.1 = some right ∧
        entry.2.same right = true := by
  induction lefts with
  | nil => simp [Value.sameEntries]
  | cons entry rest inductionHypothesis =>
      rw [List.forall_mem_cons, ← inductionHypothesis, Value.sameEntries]
      cases rights.get? entry.1 <;> simp

theorem Value.same_block
    {inOrder : Entries Value}
    (distinct : rights.keys.Nodup)
    (permuted : lefts.Perm inOrder)
    (alike : Entries.Alike (fun left right => left.same right = true) inOrder rights) :
    (Value.block lefts).same (.block rights) = true := by
  rw [Value.same, Bool.and_eq_true, beq_iff_eq]
  refine ⟨permuted.length_eq.trans alike.length_eq, Value.sameEntries_iff.mpr ?_⟩
  intro entry inside
  obtain ⟨other, isOther, sameKey, same⟩ :=
    Results.exists_of_mem_left alike (permuted.mem_iff.mp inside)
  exact ⟨other.2, sameKey ▸ Entries.get?_of_mem distinct isOther, same⟩

/-- Alike values are equal, as generic values are. -/
theorem Value.Alike.same {left right : Value} (alike : left.Alike right) :
    left.same right = true := by
  refine @Value.Alike.rec (fun left right _ => left.same right = true)
    (fun lefts rights _ => List.Forall₂ (fun left right => left.same right = true) lefts rights)
    ?null ?scalar ?list ?block .nil ?cons left right alike
  case null => rfl
  case scalar => exact Scalar.same_refl
  case list => exact fun _ same => Value.sameItems_iff.mpr same
  case block =>
    exact fun distinct permuted keys _ same =>
      Value.same_block distinct permuted (.of_keys keys same)
  case cons => exact fun _ _ same sameRest => .cons same sameRest

end Same

/-! ## Values of one field -/

/-- The function of a type's name writes what a conversion of the type makes of a structure,
given any structure of the model that holds it. -/
def Conversion.FlattensAs
    {model : Model}
    (functions : Functions model)
    (conversion : Conversion) :
    Prop :=
  ∀ type given flat, conversion.flattenStruct type given = .ok flat →
    ∀ record, conversion.Holds model record (.struct type given) →
      ∃ written, functions.flatten conversion.typeId.flattenName record = .ok written ∧
        written.Alike flat

section Fields

variable
  {model : Model}
  {functions : Functions model}
  {target : Target Conversion}
  {field : String}
  {value : model.Datum}
  {typed : TypedValue}
  {flat : Value}

/-- A scalar is taken out of every value that holds it. -/
theorem Taking.run_eq_ok
    {type : ScalarType}
    {scalar : Scalar}
    (held : model.scalar? type value = some scalar) :
    (Taking.ofType type).run value = .ok scalar := by
  unfold Taking.ofType
  cases value with
  | base kind base =>
      obtain ⟨⟨plain, rfl⟩, isScalar⟩ := Option.ite_none_right_eq_some.mp held
      obtain rfl := Option.some.inj isScalar
      rw [plain, if_neg Bool.false_ne_true]
      by_cases isText : type.kind = .string
      · rw [if_pos isText]
        rfl
      · rw [if_neg isText, Taking.run, if_neg isText]
  | named value =>
      obtain ⟨isNamed, unwrapped⟩ := Option.ite_none_right_eq_some.mp held
      obtain ⟨base, isBase, rfl⟩ := Option.map_eq_some_iff.mp unwrapped
      rw [if_pos isNamed, Taking.run, isBase]
  | _ => cases held

private theorem ElementWriter.run_agrees
    (below : ∀ inner, target.nested? = some inner → inner.FlattensAs functions)
    (holds : Conversion.HoldsTarget model target value typed)
    (flattened : Conversion.flattenElement field target typed = .ok flat) :
    ∃ written, (ElementWriter.ofTarget target.named).run functions value = .ok written ∧
      written.Alike flat := by
  cases target with
  | scalar type =>
      obtain ⟨scalar, rfl, _, rfl⟩ := Conversion.flattenElement_scalar_eq_ok.mp flattened
      refine ⟨.scalar scalar, ?_, .scalar scalar⟩
      show ((Taking.ofType type).run value).map Value.scalar = _
      rw [Taking.run_eq_ok holds]
      rfl
  | struct nested =>
      obtain ⟨type, given, rfl, isFlat⟩ := Conversion.flattenElement_struct_eq_ok.mp flattened
      exact below nested rfl type given flat isFlat value holds

/-- A single value is written as an element is, by itself. -/
theorem WriteExpr.run_single (functions : Functions model) (target : Target Conversion)
    (value : model.Datum) :
    (WriteExpr.ofShape ⟨.plain, target.named⟩).run functions value =
        ((ElementWriter.ofTarget target.named).run functions value).map target.single ∧
      (WriteExpr.ofShape ⟨.pointer, target.named⟩).run functions (.option (some value)) =
        ((ElementWriter.ofTarget target.named).run functions value).map target.single := by
  cases target with
  | scalar type =>
      constructor <;>
      · change ((Taking.ofType type).run value).map Value.scalar =
          (((Taking.ofType type).run value).map Value.scalar).map id
        cases (Taking.ofType type).run value <;> rfl
  | struct nested => exact ⟨rfl, rfl⟩

private theorem Value.Alike.single {left right : Value} (alike : left.Alike right)
    (target : Target Conversion) :
    (target.single left).Alike (target.single right) := by
  cases target with
  | scalar type => exact alike
  | struct nested => exact .list (.cons alike .nil)

/-- A map whose values are written alike is written alike, in whatever order it comes. -/
theorem WriteExpr.run_map
    {writer : ElementWriter}
    {entries inOrder : Entries model.Datum}
    {typed : Entries TypedValue}
    {flats : Entries Value}
    (distinct : entries.keys.Nodup)
    (permuted : entries.Perm inOrder)
    (held : Entries.Alike (Conversion.HoldsTarget model target) inOrder typed)
    (flattened : Entries.Alike
      (fun inner element => Conversion.flattenElement field target inner = .ok element)
      typed flats)
    (each : ∀ value typed, Conversion.HoldsTarget model target value typed →
      ∀ flat, Conversion.flattenElement field target typed = .ok flat →
        ∃ written, writer.run functions value = .ok written ∧ written.Alike flat) :
    ∃ written, (WriteExpr.map writer).run functions (.map entries) = .ok written ∧
      written.Alike (.block flats) := by
  obtain ⟨ordered, madeInOrder, alike⟩ := Entries.exists_mapM_alike held
    (Entries.mapM_eq_ok.mpr flattened) fun _ _ holds flat => each _ _ holds flat
  obtain ⟨written, made, reordered⟩ := Results.exists_mapM_of_perm permuted madeInOrder
  have distinctWritten : (Entries.keys written).Nodup := by
    rw [Entries.keys_of_mapM made]
    exact distinct
  have distinctFlats : (Entries.keys flats).Nodup := by
    rw [← alike.keys]
    exact (reordered.map Prod.fst).nodup_iff.mp distinctWritten
  refine ⟨.block written, ?_, .ofEntries distinctFlats reordered alike⟩
  rw [WriteExpr.run, made, Except.map, Entries.ofList_of_nodup distinctWritten]

private theorem WriteExpr.run_agrees
    (below : ∀ inner, target.nested? = some inner → inner.FlattensAs functions)
    (arity : Arity)
    (holds : Conversion.HoldsShape model ⟨arity, target⟩ value typed)
    (flattened : Conversion.flattenShape field ⟨arity, target⟩ typed = .ok flat) :
    ∃ written, (WriteExpr.ofShape ⟨arity, target.named⟩).run functions value = .ok written ∧
      written.Alike flat := by
  cases arity with
  | plain =>
      obtain ⟨element, isFlat, rfl⟩ := Conversion.flattenShape_plain_eq_ok.mp flattened
      obtain ⟨written, isWritten, alike⟩ := ElementWriter.run_agrees below holds isFlat
      refine ⟨_, ?_, alike.single target⟩
      rw [(WriteExpr.run_single functions target value).1, isWritten]
      rfl
  | pointer =>
      rcases Conversion.flattenShape_pointer_eq_ok.mp flattened with
        ⟨rfl, rfl⟩ | ⟨inner, element, rfl, isFlat, rfl⟩
      · obtain ⟨_, rfl, _ | _⟩ := Conversion.holdsShape_pointer.mp holds
        cases target with
        | scalar type => exact ⟨.null, rfl, .null⟩
        | struct nested => exact ⟨.list [], rfl, .list .nil⟩
      · obtain ⟨_, rfl, holdsInner | _⟩ := Conversion.holdsShape_pointer.mp holds
        obtain ⟨written, isWritten, alike⟩ := ElementWriter.run_agrees below holdsInner isFlat
        refine ⟨_, ?_, alike.single target⟩
        rw [(WriteExpr.run_single functions target _).2, isWritten]
        rfl
  | list =>
      obtain ⟨items, flats, rfl, areFlats, rfl⟩ :=
        Conversion.flattenShape_list_eq_ok.mp flattened
      obtain ⟨held, rfl, pairwise⟩ := Conversion.holdsShape_list.mp holds
      obtain ⟨written, areWritten, alike⟩ := Results.exists_mapM_of_forall₂ pairwise areFlats
        fun _ _ holdsItem _ isFlat => ElementWriter.run_agrees below holdsItem isFlat
      refine ⟨.list written, ?_, .list alike⟩
      rw [WriteExpr.ofShape, WriteExpr.run, areWritten]
      rfl
  | map =>
      obtain ⟨entries, flats, rfl, areFlats, rfl⟩ :=
        Conversion.flattenShape_map_eq_ok.mp flattened
      obtain ⟨held, rfl, distinct, inOrder, permuted, alike⟩ :=
        Conversion.holdsShape_map.mp holds
      exact WriteExpr.run_map distinct permuted alike areFlats
        fun _ _ holdsItem _ isFlat => ElementWriter.run_agrees below holdsItem isFlat

end Fields

/-! ## Structures -/

section Structures

variable {model : Model} {functions : Functions model} {conversions : List Conversion}

private theorem Routine.writeMember_agrees
    {conversion : Conversion}
    (below : ∀ inner ∈ conversion.nested, inner.FlattensAs functions)
    {field : FieldConversion Conversion}
    (inside : field ∈ conversion.fields)
    {members : Entries model.Datum}
    {given : Entries TypedValue}
    (holds : field.Holds model members given)
    {flat : Value}
    (flattened : field.flatten given = .ok flat) :
    ∃ written, Routine.writeMember functions members (.ofEntry field) = .ok written ∧
      written.Alike flat := by
  obtain ⟨value, found, holdsValue⟩ := holds
  have nests : ∀ inner, field.shape.nested? = some inner → inner ∈ conversion.nested :=
    fun inner isNested => Conversion.mem_nested.mpr ⟨field, inside, isNested⟩
  obtain ⟨written, isWritten, alike⟩ := WriteExpr.run_agrees
    (fun inner isNested => below inner (nests inner isNested))
    field.shape.arity holdsValue flattened
  refine ⟨written, ?_, alike⟩
  rw [Routine.writeMember, RoutineField.ofEntry_member, found]
  exact isWritten

/-- The function for a type writes what the conversion of the type makes, when the functions
run the routines of some conversions that nest only one another. -/
theorem Conversion.Unambiguous.flattensAs
    (closed : Conversion.Closed conversions)
    (runs : functions.Run (conversions.map Routine.ofConversion))
    {conversion : Conversion}
    (unambiguous : conversion.Unambiguous)
    (member : conversion ∈ conversions) :
    conversion.FlattensAs functions := by
  induction unambiguous with
  | @intro conversion declared external below inductionHypothesis =>
      have nestedAgree : ∀ inner ∈ conversion.nested, inner.FlattensAs functions :=
        fun inner isNested => inductionHypothesis inner isNested (closed _ member _ isNested)
      have defined : functions.flatten conversion.typeId.flattenName =
          (Routine.ofConversion conversion).flatten functions :=
        (runs _ (List.mem_map_of_mem member)).flatten
      intro type given flat flattened record held
      obtain ⟨rfl, _, block, rfl, made⟩ := Conversion.flattenStruct_eq_ok.mp flattened
      obtain ⟨_, members, rfl, holds⟩ := Conversion.holds_iff.mp held
      have fields : List.Forall₂
          (fun field other => field.external = other.external ∧
            field = other ∧ field ∈ conversion.fields)
          conversion.fields conversion.fields :=
        List.forall₂_same.mpr fun _ inside => ⟨rfl, rfl, inside⟩
      have each : ∀ field other, field = other ∧ field ∈ conversion.fields → ∀ flat,
          other.flatten given = .ok flat → ∃ written,
            Routine.writeMember functions members (.ofEntry field) = .ok written ∧
              written.Alike flat := by
        rintro field _ ⟨rfl, inside⟩ _ isFlat
        exact Routine.writeMember_agrees nestedAgree inside (holds field inside) isFlat
      obtain ⟨written, madeWritten, alike⟩ := Entries.exists_mapM_alike fields made each
      have distinctWritten : (Entries.keys written).Nodup := by
        rw [Entries.keys_of_mapM madeWritten]
        exact external
      refine ⟨.block written, ?_, .ofEntries (alike.keys ▸ distinctWritten) (.refl _) alike⟩
      rw [defined, Routine.ofConversion, Routine.flatten, if_pos rfl, Results.mapM_map]
      simp only [RoutineField.ofEntry_external]
      rw [madeWritten, Except.map, Entries.ofList_of_nodup distinctWritten]

end Structures

/-! ## Structures that the model holds -/

/-- Some structure of the model holds what the conversion flattens. -/
def Conversion.Representable (model : Model) (conversion : Conversion) : Prop :=
  ∀ type given flat, (TypedValue.struct type given).proper = true →
    conversion.flattenStruct type given = .ok flat →
      ∃ record, conversion.Holds model record (.struct type given)

section Representing

variable
  {model : Model}
  {target : Target Conversion}
  {field : String}
  {typed : TypedValue}
  {flat : Value}

private theorem Conversion.exists_holdsTarget
    (unwraps : ∀ place kind value, model.unwrap kind (model.wrap place kind value) = some value)
    (place : MemberPlace)
    (below : ∀ inner, target.nested? = some inner → inner.Representable model)
    (proper : typed.proper = true)
    (flattened : Conversion.flattenElement field target typed = .ok flat) :
    ∃ value, Conversion.HoldsTarget model target value typed := by
  cases target with
  | scalar type =>
      obtain ⟨scalar, rfl, same, rfl⟩ := Conversion.flattenElement_scalar_eq_ok.mp flattened
      obtain ⟨value, isValue⟩ := ScalarKind.exists_toScalar same
      exact ⟨_, Model.holdsTarget_scalar (unwraps place type.kind) isValue⟩
  | struct nested =>
      obtain ⟨type, given, rfl, isFlat⟩ := Conversion.flattenElement_struct_eq_ok.mp flattened
      exact below nested rfl type given flat proper isFlat

private theorem Conversion.exists_holdsShape
    (unwraps : ∀ place kind value, model.unwrap kind (model.wrap place kind value) = some value)
    (place : MemberPlace)
    (below : ∀ inner, target.nested? = some inner → inner.Representable model)
    (proper : typed.proper = true)
    (arity : Arity)
    (flattened : Conversion.flattenShape field ⟨arity, target⟩ typed = .ok flat) :
    ∃ value, Conversion.HoldsShape model ⟨arity, target⟩ value typed := by
  cases arity with
  | plain =>
      obtain ⟨element, isFlat, _⟩ := Conversion.flattenShape_plain_eq_ok.mp flattened
      exact Conversion.exists_holdsTarget unwraps place below proper isFlat
  | pointer =>
      rcases Conversion.flattenShape_pointer_eq_ok.mp flattened with
        ⟨rfl, _⟩ | ⟨inner, element, rfl, isFlat, _⟩
      · exact ⟨_, Conversion.holdsShape_pointer.mpr ⟨none, rfl, .none⟩⟩
      · have properInner : inner.proper = true := proper
        obtain ⟨value, holds⟩ :=
          Conversion.exists_holdsTarget unwraps place below properInner isFlat
        exact ⟨_, Conversion.holdsShape_pointer.mpr ⟨some value, rfl, .some holds⟩⟩
  | list =>
      obtain ⟨items, flats, rfl, areFlats, _⟩ :=
        Conversion.flattenShape_list_eq_ok.mp flattened
      have each := TypedValue.properItems_iff.mp proper
      have pairs := Results.mapM_eq_ok.mp areFlats
      have held : ∀ item ∈ items, ∃ value, Conversion.HoldsTarget model target value item := by
        intro item inside
        obtain ⟨flat, _, isFlat⟩ := Results.exists_of_mem_left pairs inside
        exact Conversion.exists_holdsTarget unwraps place below (each item inside) isFlat
      choose! value holds using held
      refine ⟨_, Conversion.holdsShape_list.mpr ⟨items.map value, rfl, ?_⟩⟩
      exact List.forall₂_map_left_iff.mpr (List.forall₂_same.mpr holds)
  | map =>
      obtain ⟨entries, flats, rfl, areFlats, _⟩ :=
        Conversion.flattenShape_map_eq_ok.mp flattened
      obtain ⟨sorted, each⟩ := TypedValue.proper_map.mp proper
      have held : ∀ entry ∈ entries, ∃ value,
          Conversion.HoldsTarget model target value entry.2 := by
        intro entry inside
        obtain ⟨flat, _, _, isFlat⟩ := Results.exists_of_mem_left areFlats inside
        exact Conversion.exists_holdsTarget unwraps place below (each entry inside) isFlat
      choose! value holds using held
      let collected := entries.map fun entry => (entry.1, value entry)
      refine ⟨_, Conversion.holdsShape_map.mpr ⟨collected, rfl, ?_, collected, .refl _, ?_⟩⟩
      · rw [Entries.keys, List.map_map]
        exact sorted.nodup
      · exact List.forall₂_map_left_iff.mpr
          (List.forall₂_same.mpr fun entry inside => ⟨rfl, holds entry inside⟩)

/-- A field that the structure has no value for is held by a default member. -/
theorem FieldConversion.exists_holds
    {conversions : List Conversion}
    (serves : model.Serves conversions)
    {conversion : Conversion}
    (member : conversion ∈ conversions)
    (below : ∀ inner ∈ conversion.nested, inner.Representable model)
    {given : Entries TypedValue}
    (proper : ∀ entry ∈ given, entry.2.proper = true)
    {entry : FieldConversion Conversion}
    (inside : entry ∈ conversion.fields)
    (flattened : entry.flatten given = .ok flat) :
    ∃ value, Conversion.HoldsShape model entry.shape value
      ((given.get? entry.declared).getD entry.zero) := by
  rw [FieldConversion.flatten] at flattened
  cases found : given.get? entry.declared with
  | none => exact ⟨_, serves.memberDefault conversion member entry inside⟩
  | some typed =>
      rw [found] at flattened
      have properTyped := proper _ (Entries.mem_of_get? found)
      exact Conversion.exists_holdsShape serves.unwraps
        ⟨conversion.typeId.modelName, Name.member entry.declared⟩
        (fun inner isNested => below inner (Conversion.mem_nested.mpr ⟨entry, inside, isNested⟩))
        properTyped entry.shape.arity flattened

/-- A model that serves some conversions can hold what they flatten, if no two fields have one
member. -/
theorem Conversion.Unambiguous.representable
    {conversions : List Conversion}
    (serves : model.Serves conversions)
    (closed : Conversion.Closed conversions)
    (members : ∀ conversion ∈ conversions,
      (conversion.fields.map fun field => Name.member field.declared).Nodup)
    {conversion : Conversion}
    (unambiguous : conversion.Unambiguous)
    (member : conversion ∈ conversions) :
    conversion.Representable model := by
  induction unambiguous with
  | @intro conversion declared external below inductionHypothesis =>
      intro type given flat proper flattened
      obtain ⟨rfl, _, block, rfl, made⟩ := Conversion.flattenStruct_eq_ok.mp flattened
      have properFields := (TypedValue.proper_struct.mp proper).2
      have held : ∀ entry ∈ conversion.fields, ∃ value,
          Conversion.HoldsShape model entry.shape value
            ((Entries.get? entry.declared given).getD entry.zero) := by
        intro entry inside
        obtain ⟨flat, isFlat, _⟩ := Entries.get?_of_mapM external made inside
        exact FieldConversion.exists_holds serves member
          (fun inner isNested => inductionHypothesis inner isNested (closed _ member _ isNested))
          properFields inside isFlat
      choose! value holds using held
      let entries := conversion.fields.map fun entry => (Name.member entry.declared, value entry)
      refine ⟨.record conversion.typeId.modelName entries,
        Conversion.holds_iff.mpr ⟨rfl, _, rfl, ?_⟩⟩
      intro entry inside
      exact ⟨value entry, Entries.get?_map_of_mem (members conversion member) value inside,
        holds entry inside⟩

end Representing

end BlockSchema
