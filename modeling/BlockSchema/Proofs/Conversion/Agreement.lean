import BlockSchema.Proofs.Conversion.Conformance
import BlockSchema.Proofs.Conversion.RoundTrip
import BlockSchema.Proofs.Routine.Flattening

/-!
Contract: what of a structure can be told from the block that it is flattened to.

Two structures agree when every field that is converted holds the same in both, at every
depth. A field without a value holds the zero value, the order of fields does not count, and
what is excluded is not looked at. Flattening tells two structures apart exactly when they do
not agree.
-/

set_option autoImplicit false

namespace BlockSchema

/-! ## Structures that agree -/

mutual

/-- Two structures, given by their fields, agree in every field that is converted; `scalars`
says which scalars are the same. -/
def Conversion.Agree (scalars : Scalar → Scalar → Prop) :
    Conversion → Entries TypedValue → Entries TypedValue → Prop
  | ⟨_, fields, _⟩, left, right => Conversion.AgreeIn scalars fields left right

/-- Every field holds the same in both structures, the zero value where it is missing. -/
def Conversion.AgreeIn (scalars : Scalar → Scalar → Prop) :
    List (FieldConversion Conversion) → Entries TypedValue → Entries TypedValue → Prop
  | [], _, _ => True
  | ⟨declared, _, shape, _⟩ :: rest, left, right =>
      Conversion.AgreeUnder scalars shape
          ((left.get? declared).getD (Conversion.zeroShape shape))
          ((right.get? declared).getD (Conversion.zeroShape shape)) ∧
        Conversion.AgreeIn scalars rest left right

/-- Two values of a field are the same. Pointers are both absent or point at the same, lists
are the same item by item and maps key by key. -/
def Conversion.AgreeUnder (scalars : Scalar → Scalar → Prop) :
    FieldShape Conversion → TypedValue → TypedValue → Prop
  | ⟨.plain, target⟩, left, right => Conversion.AgreeAt scalars target left right
  | ⟨.pointer, target⟩, .pointer left, .pointer right =>
      Option.Rel (Conversion.AgreeAt scalars target) left right
  | ⟨.list, target⟩, .list lefts, .list rights =>
      List.Forall₂ (Conversion.AgreeAt scalars target) lefts rights
  | ⟨.map, target⟩, .map lefts, .map rights =>
      Entries.Alike (Conversion.AgreeAt scalars target) lefts rights
  | _, _, _ => False

/-- Two scalars are the same, or two structures agree. -/
def Conversion.AgreeAt (scalars : Scalar → Scalar → Prop) :
    Target Conversion → TypedValue → TypedValue → Prop
  | .scalar _, .scalar left, .scalar right => scalars left right
  | .struct nested, .struct _ left, .struct _ right => nested.Agree scalars left right
  | _, _, _ => False

end

/-- The value that a structure holds in a field. -/
def FieldConversion.held (field : FieldConversion Conversion) (given : Entries TypedValue) :
    TypedValue :=
  (given.get? field.declared).getD field.zero

private theorem Conversion.agree_iff
    {scalars : Scalar → Scalar → Prop}
    {conversion : Conversion}
    {left right : Entries TypedValue} :
    conversion.Agree scalars left right ↔
      ∀ field ∈ conversion.fields,
        Conversion.AgreeUnder scalars field.shape (field.held left) (field.held right) := by
  have inFields : ∀ fields, Conversion.AgreeIn scalars fields left right ↔
      ∀ field ∈ fields,
        Conversion.AgreeUnder scalars field.shape (field.held left) (field.held right) := by
    intro fields
    induction fields with
    | nil => simp [Conversion.AgreeIn]
    | cons field rest inductionHypothesis =>
        rw [Conversion.AgreeIn, inductionHypothesis, List.forall_mem_cons]
        rfl
  cases conversion with
  | mk => rw [Conversion.Agree, inFields]

/-! ## Lists made of lists -/

namespace Results

variable {α β γ δ : Type}

/-- Lists made element by element are related when what they are made of is. -/
theorem forall₂_iff_of_forall₂
    {left : α → γ → Prop}
    {right : β → δ → Prop}
    {next : γ → δ → Prop}
    {related : α → β → Prop}
    {elements : List α}
    {others : List β}
    {lefts : List γ}
    {rights : List δ}
    (leftPairs : List.Forall₂ left elements lefts)
    (rightPairs : List.Forall₂ right others rights)
    (each : ∀ element value other otherValue, left element value → right other otherValue →
      (next value otherValue ↔ related element other)) :
    List.Forall₂ next lefts rights ↔ List.Forall₂ related elements others := by
  induction leftPairs generalizing others rights with
  | nil =>
      cases rightPairs with
      | nil => simp
      | cons => simp
  | cons head _ inductionHypothesis =>
      cases rightPairs with
      | nil => simp
      | cons rightHead rightTail =>
          rw [List.forall₂_cons, List.forall₂_cons, each _ _ _ _ head rightHead,
            inductionHypothesis rightTail]

/-- Two lists made of one list are related when what is made of each element is. -/
theorem forall₂_iff_forall_mem
    {left : α → γ → Prop}
    {right : α → δ → Prop}
    {next : γ → δ → Prop}
    {holds : α → Prop}
    {elements : List α}
    {lefts : List γ}
    {rights : List δ}
    (leftPairs : List.Forall₂ left elements lefts)
    (rightPairs : List.Forall₂ right elements rights)
    (each : ∀ element ∈ elements, ∀ value otherValue, left element value →
      right element otherValue → (next value otherValue ↔ holds element)) :
    List.Forall₂ next lefts rights ↔ ∀ element ∈ elements, holds element := by
  induction leftPairs generalizing rights with
  | nil =>
      cases rightPairs
      simp
  | cons head _ inductionHypothesis =>
      cases rightPairs with
      | cons rightHead rightTail =>
          rw [List.forall₂_cons, List.forall_mem_cons,
            each _ List.mem_cons_self _ _ head rightHead,
            inductionHypothesis rightTail fun element member =>
              each element (List.mem_cons_of_mem _ member)]

end Results

/-! ## Comparing generic values -/

/-- No list of entries has a key twice, and the keys stand in one order when they are the
same. -/
structure Entries.OneOrder {α β : Type} (left : Entries α) (right : Entries β) : Prop where
  distinctLeft : left.keys.Nodup
  distinctRight : right.keys.Nodup
  inOrder : left.keys.Perm right.keys → left.keys = right.keys

private theorem Entries.OneOrder.of_keys
    {α β : Type}
    {left : Entries α}
    {right : Entries β}
    (distinct : left.keys.Nodup)
    (same : left.keys = right.keys) :
    left.OneOrder right :=
  ⟨distinct, same ▸ distinct, fun _ => same⟩

private theorem Entries.OneOrder.of_sorted
    {α β : Type}
    {left : Entries α}
    {right : Entries β}
    (sortedLeft : left.Sorted)
    (sortedRight : right.Sorted) :
    left.OneOrder right := by
  refine ⟨sortedLeft.nodup, sortedRight.nodup, fun permuted => ?_⟩
  have keysLeft : left.keys.Pairwise (· < ·) := List.pairwise_map.mpr sortedLeft
  have keysRight : right.keys.Pairwise (· < ·) := List.pairwise_map.mpr sortedRight
  exact permuted.eq_of_pairwise
    (fun _ _ _ _ smaller greater => absurd smaller (not_lt_of_gt greater)) keysLeft keysRight

private theorem Entries.alike_eq {α : Type} {left right : Entries α} :
    Entries.Alike Eq left right ↔ left = right := by
  have sameEntry : (fun first second : String × α => first.1 = second.1 ∧ first.2 = second.2) =
      Eq := by
    funext first second
    exact propext Prod.ext_iff.symm
  rw [Entries.Alike, sameEntry, List.forall₂_eq_eq_eq]

/-- A way to compare generic values that goes by their parts; `scalars` says which scalars
are the same. -/
structure Value.Compares (scalars : Scalar → Scalar → Prop) (same : Value → Value → Prop) :
    Prop where
  null : ∀ value, (same .null value ↔ value = .null) ∧ (same value .null ↔ value = .null)
  scalar : ∀ left right, same (.scalar left) (.scalar right) ↔ scalars left right
  list : ∀ lefts rights, same (.list lefts) (.list rights) ↔ List.Forall₂ same lefts rights
  block : ∀ lefts rights : Entries Value, lefts.OneOrder rights →
    (same (.block lefts) (.block rights) ↔ Entries.Alike same lefts rights)

theorem Value.compares_eq : Value.Compares Eq Eq where
  null value := ⟨eq_comm, Iff.rfl⟩
  scalar left right := by simp
  list lefts rights := by rw [Value.list.injEq, List.forall₂_eq_eq_eq]
  block lefts rights _ := by rw [Value.block.injEq, Entries.alike_eq]

/-- Blocks that have their keys in one order are the same when they are so key by key. -/
theorem Value.same_block_iff
    {lefts rights : Entries Value}
    (oneOrder : lefts.OneOrder rights) :
    (Value.block lefts).same (.block rights) = true ↔
      Entries.Alike (fun left right => left.same right = true) lefts rights := by
  constructor
  · intro same
    rw [Value.same, Bool.and_eq_true, beq_iff_eq, Value.sameEntries_iff] at same
    obtain ⟨sameLength, found⟩ := same
    have included : lefts.keys ⊆ rights.keys := by
      intro key member
      obtain ⟨entry, isEntry, rfl⟩ := List.mem_map.mp member
      obtain ⟨right, isRight, _⟩ := found entry isEntry
      exact List.mem_map.mpr ⟨_, Entries.mem_of_get? isRight, rfl⟩
    have permuted : lefts.keys.Perm rights.keys := by
      refine (List.subperm_of_subset oneOrder.distinctLeft included).perm_of_length_le ?_
      simp [Entries.keys, sameLength]
    have sameKeys := oneOrder.inOrder permuted
    refine .of_keys sameKeys ?_
    rw [List.forall₂_map_left_iff, List.forall₂_map_right_iff]
    have pairs : List.Forall₂ (fun left right => left.1 = right.1) lefts rights := by
      rw [← List.forall₂_eq_eq_eq, Entries.keys, Entries.keys, List.forall₂_map_left_iff,
        List.forall₂_map_right_iff] at sameKeys
      exact sameKeys
    rw [List.forall₂_iff_zip] at pairs ⊢
    refine ⟨pairs.1, fun {left right} member => ?_⟩
    obtain ⟨other, isOther, same⟩ := found left (List.of_mem_zip member).1
    have isRight := Entries.get?_of_mem oneOrder.distinctRight (List.of_mem_zip member).2
    rw [pairs.2 member, isRight] at isOther
    rw [← Option.some.inj isOther] at same
    exact same
  · intro alike
    exact Value.same_block oneOrder.distinctRight (.refl _) alike

theorem Value.compares_same :
    Value.Compares (fun left right => left.same right = true)
      (fun left right => left.same right = true) where
  null value := by cases value <;> simp [Value.same]
  scalar left right := by rw [Value.same]
  list lefts rights := by rw [Value.same, Value.sameItems_iff]
  block lefts rights oneOrder := Value.same_block_iff oneOrder

/-! ## Flattening tells apart what does not agree -/

namespace Conversion

variable {scalars : Scalar → Scalar → Prop} {same : Value → Value → Prop}

/-- Structures of the conversion's type are flattened to the same exactly when they agree. -/
def Separates
    (scalars : Scalar → Scalar → Prop)
    (same : Value → Value → Prop)
    (conversion : Conversion) :
    Prop :=
  ∀ leftType left leftFlat rightType right rightFlat,
    (TypedValue.struct leftType left).proper = true →
    (TypedValue.struct rightType right).proper = true →
    conversion.flattenStruct leftType left = .ok leftFlat →
    conversion.flattenStruct rightType right = .ok rightFlat →
      (same leftFlat rightFlat ↔ conversion.Agree scalars left right)

section Fields

variable
  {target : Target Conversion}
  {field : String}
  {left right : TypedValue}
  {leftFlat rightFlat : Value}

private theorem same_flattenElement_iff
    (compares : Value.Compares scalars same)
    (below : ∀ inner, target.nested? = some inner → inner.Separates scalars same)
    (properLeft : left.proper = true)
    (properRight : right.proper = true)
    (leftFlattened : flattenElement field target left = .ok leftFlat)
    (rightFlattened : flattenElement field target right = .ok rightFlat) :
    same leftFlat rightFlat ↔ AgreeAt scalars target left right := by
  cases target with
  | scalar type =>
      obtain ⟨leftScalar, rfl, _, rfl⟩ := flattenElement_scalar_eq_ok.mp leftFlattened
      obtain ⟨rightScalar, rfl, _, rfl⟩ := flattenElement_scalar_eq_ok.mp rightFlattened
      rw [compares.scalar, AgreeAt]
  | struct nested =>
      obtain ⟨leftType, leftGiven, rfl, isLeft⟩ := flattenElement_struct_eq_ok.mp leftFlattened
      obtain ⟨rightType, rightGiven, rfl, isRight⟩ :=
        flattenElement_struct_eq_ok.mp rightFlattened
      rw [AgreeAt]
      exact below nested rfl _ _ _ _ _ _ properLeft properRight isLeft isRight

/-- Single values are the same by themselves when they are so as elements. -/
theorem same_single_iff
    (compares : Value.Compares scalars same)
    (target : Target Conversion)
    (left right : Value) :
    same (target.single left) (target.single right) ↔ same left right := by
  cases target with
  | scalar type => rfl
  | struct nested =>
      rw [Target.single, Target.single, compares.list]
      simp

/-- What is written for an absent pointer is written for no pointer that has a target. -/
theorem not_same_absent
    (compares : Value.Compares scalars same)
    (flattened : flattenElement field target left = .ok leftFlat) :
    ¬ same target.absent (target.single leftFlat) ∧
      ¬ same (target.single leftFlat) target.absent := by
  cases target with
  | scalar type =>
      obtain ⟨scalar, _, _, rfl⟩ := flattenElement_scalar_eq_ok.mp flattened
      rw [Target.absent, Target.single, (compares.null _).1, (compares.null _).2]
      simp
  | struct nested =>
      rw [Target.absent, Target.single, compares.list, compares.list]
      simp

/-- Proper values of a target are written the same when they agree. -/
def TellsElements
    (scalars : Scalar → Scalar → Prop)
    (same : Value → Value → Prop)
    (field : String)
    (target : Target Conversion) :
    Prop :=
  ∀ left leftFlat right rightFlat,
    left.proper = true ∧ flattenElement field target left = .ok leftFlat →
    right.proper = true ∧ flattenElement field target right = .ok rightFlat →
      (same leftFlat rightFlat ↔ AgreeAt scalars target left right)

private theorem same_flattenPointer_iff
    (compares : Value.Compares scalars same)
    (element : TellsElements scalars same field target)
    (properLeft : left.proper = true)
    (properRight : right.proper = true)
    (leftFlattened : flattenShape field ⟨.pointer, target⟩ left = .ok leftFlat)
    (rightFlattened : flattenShape field ⟨.pointer, target⟩ right = .ok rightFlat) :
    same leftFlat rightFlat ↔ AgreeUnder scalars ⟨.pointer, target⟩ left right := by
  rcases flattenShape_pointer_eq_ok.mp leftFlattened with
    ⟨rfl, rfl⟩ | ⟨leftInner, leftElement, rfl, isLeft, rfl⟩
  · rcases flattenShape_pointer_eq_ok.mp rightFlattened with
      ⟨rfl, rfl⟩ | ⟨rightInner, rightElement, rfl, isRight, rfl⟩
    · have sameAbsent : same target.absent target.absent := by
        cases target with
        | scalar type => exact (compares.null _).1.mpr rfl
        | struct nested => exact (compares.list _ _).mpr .nil
      exact iff_of_true sameAbsent .none
    · refine iff_of_false (not_same_absent compares isRight).1 fun agree => ?_
      rw [AgreeUnder] at agree
      cases agree
  · rcases flattenShape_pointer_eq_ok.mp rightFlattened with
      ⟨rfl, rfl⟩ | ⟨rightInner, rightElement, rfl, isRight, rfl⟩
    · refine iff_of_false (not_same_absent compares isLeft).2 fun agree => ?_
      rw [AgreeUnder] at agree
      cases agree
    · rw [same_single_iff compares, AgreeUnder, Option.rel_some_some]
      exact element _ _ _ _ ⟨properLeft, isLeft⟩ ⟨properRight, isRight⟩

private theorem same_flattenMap_iff
    (compares : Value.Compares scalars same)
    (element : TellsElements scalars same field target)
    (properLeft : left.proper = true)
    (properRight : right.proper = true)
    (leftFlattened : flattenShape field ⟨.map, target⟩ left = .ok leftFlat)
    (rightFlattened : flattenShape field ⟨.map, target⟩ right = .ok rightFlat) :
    same leftFlat rightFlat ↔ AgreeUnder scalars ⟨.map, target⟩ left right := by
  obtain ⟨lefts, leftFlats, rfl, areLeft, rfl⟩ := flattenShape_map_eq_ok.mp leftFlattened
  obtain ⟨rights, rightFlats, rfl, areRight, rfl⟩ := flattenShape_map_eq_ok.mp rightFlattened
  obtain ⟨sortedLeft, eachLeft⟩ := TypedValue.proper_map.mp properLeft
  obtain ⟨sortedRight, eachRight⟩ := TypedValue.proper_map.mp properRight
  have oneOrder : leftFlats.OneOrder rightFlats := by
    have ofTyped := Entries.OneOrder.of_sorted sortedLeft sortedRight
    exact ⟨areLeft.keys ▸ ofTyped.distinctLeft, areRight.keys ▸ ofTyped.distinctRight,
      areLeft.keys ▸ areRight.keys ▸ ofTyped.inOrder⟩
  rw [compares.block _ _ oneOrder, AgreeUnder]
  refine Results.forall₂_iff_of_forall₂
    ((List.forall₂_and_left _ _).mpr ⟨eachLeft, areLeft⟩)
    ((List.forall₂_and_left _ _).mpr ⟨eachRight, areRight⟩) ?_
  rintro first firstFlat second secondFlat ⟨properFirst, sameFirst, isFirst⟩
    ⟨properSecond, sameSecond, isSecond⟩
  rw [element _ _ _ _ ⟨properFirst, isFirst⟩ ⟨properSecond, isSecond⟩, sameFirst, sameSecond]

/-- The values that two structures hold in a field are written the same when they agree. -/
theorem same_flattenShape_iff
    {shape : FieldShape Conversion}
    (compares : Value.Compares scalars same)
    (below : ∀ inner, shape.nested? = some inner → inner.Separates scalars same)
    (properLeft : left.proper = true)
    (properRight : right.proper = true)
    (leftFlattened : flattenShape field shape left = .ok leftFlat)
    (rightFlattened : flattenShape field shape right = .ok rightFlat) :
    same leftFlat rightFlat ↔ AgreeUnder scalars shape left right := by
  obtain ⟨arity, target⟩ := shape
  have element : TellsElements scalars same field target :=
    fun _ _ _ _ isLeft isRight =>
      same_flattenElement_iff compares below isLeft.1 isRight.1 isLeft.2 isRight.2
  cases arity with
  | plain =>
      obtain ⟨leftElement, isLeft, rfl⟩ := flattenShape_plain_eq_ok.mp leftFlattened
      obtain ⟨rightElement, isRight, rfl⟩ := flattenShape_plain_eq_ok.mp rightFlattened
      rw [same_single_iff compares, AgreeUnder]
      exact element _ _ _ _ ⟨properLeft, isLeft⟩ ⟨properRight, isRight⟩
  | pointer =>
      exact same_flattenPointer_iff compares element properLeft properRight leftFlattened
        rightFlattened
  | list =>
      obtain ⟨lefts, leftFlats, rfl, areLeft, rfl⟩ := flattenShape_list_eq_ok.mp leftFlattened
      obtain ⟨rights, rightFlats, rfl, areRight, rfl⟩ :=
        flattenShape_list_eq_ok.mp rightFlattened
      rw [compares.list, AgreeUnder]
      exact Results.forall₂_iff_of_forall₂
        ((List.forall₂_and_left _ _).mpr
          ⟨TypedValue.properItems_iff.mp properLeft, Results.mapM_eq_ok.mp areLeft⟩)
        ((List.forall₂_and_left _ _).mpr
          ⟨TypedValue.properItems_iff.mp properRight, Results.mapM_eq_ok.mp areRight⟩)
        element
  | map =>
      exact same_flattenMap_iff compares element properLeft properRight leftFlattened
        rightFlattened

end Fields

/-! ## Proper structures -/

private theorem proper_zeroShape
    {shape : FieldShape Conversion}
    (below : ∀ inner, shape.nested? = some inner → inner.zero.toValue.proper = true) :
    (zeroShape shape).proper = true := by
  obtain ⟨arity, target⟩ := shape
  cases arity with
  | plain =>
      cases target with
      | scalar type => rfl
      | struct nested => exact below nested rfl
  | pointer => rfl
  | list => rfl
  | map => rfl

private theorem proper_insert
    {type : TypeId}
    {given : Entries TypedValue}
    {value : TypedValue}
    (proper : (TypedValue.struct type given).proper = true)
    (properValue : value.proper = true)
    (name : String) :
    (TypedValue.struct type (given.insert name value)).proper = true := by
  obtain ⟨distinct, each⟩ := TypedValue.proper_struct.mp proper
  refine TypedValue.proper_struct.mpr
    ⟨Entries.nodup_keys_insert distinct name value, fun entry member => ?_⟩
  rcases Entries.mem_of_mem_insert member with rfl | older
  · exact properValue
  · exact each entry older

namespace Unambiguous

variable {conversion : Conversion}

private theorem proper_zero (unambiguous : conversion.Unambiguous) :
    conversion.zero.toValue.proper = true := by
  induction unambiguous with
  | @intro conversion declared external below inductionHypothesis =>
      rw [zero_eq, TypedStruct.toValue, TypedValue.proper_struct]
      refine ⟨?_, fun entry member => ?_⟩
      · rw [Entries.keys, List.map_map]
        exact declared
      · obtain ⟨field, isField, rfl⟩ := List.mem_map.mp member
        exact proper_zeroShape fun inner isNested =>
          inductionHypothesis inner (mem_nested.mpr ⟨field, isField, isNested⟩)

variable {scalars : Scalar → Scalar → Prop} {same : Value → Value → Prop}

theorem separates
    (compares : Value.Compares scalars same)
    (unambiguous : conversion.Unambiguous) :
    conversion.Separates scalars same := by
  induction unambiguous with
  | @intro conversion declared external below inductionHypothesis =>
      intro leftType left leftFlat rightType right rightFlat properLeft properRight leftFlattened
        rightFlattened
      obtain ⟨_, _, leftBlock, rfl, leftMade⟩ := flattenStruct_eq_ok.mp leftFlattened
      obtain ⟨_, _, rightBlock, rfl, rightMade⟩ := flattenStruct_eq_ok.mp rightFlattened
      have sameKeys : Entries.keys leftBlock = Entries.keys rightBlock := by
        rw [Entries.keys_of_mapM leftMade, Entries.keys_of_mapM rightMade]
      have distinct : (Entries.keys leftBlock).Nodup := by
        rw [Entries.keys_of_mapM leftMade]
        exact external
      rw [compares.block _ _ (.of_keys distinct sameKeys), agree_iff]
      refine Results.forall₂_iff_forall_mem (Results.mapM_eq_ok.mp leftMade)
        (Results.mapM_eq_ok.mp rightMade) fun field member leftEntry rightEntry isLeft isRight => ?_
      obtain ⟨leftValue, leftFlat, rfl⟩ := Results.map_eq_ok.mp isLeft
      obtain ⟨rightValue, rightFlat, rfl⟩ := Results.map_eq_ok.mp isRight
      have nests : ∀ inner, field.shape.nested? = some inner → inner ∈ conversion.nested :=
        fun inner isNested => mem_nested.mpr ⟨field, member, isNested⟩
      -- A missing field holds the zero value, which is proper as the held ones are.
      have properHeld : ∀ {type given}, (TypedValue.struct type given).proper = true →
          (field.held given).proper = true := by
        intro type (given : Entries TypedValue) proper
        unfold FieldConversion.held
        cases found : given.get? field.declared with
        | some value => exact (TypedValue.proper_struct.mp proper).2 _ (Entries.mem_of_get? found)
        | none => exact proper_zeroShape fun inner isNested =>
            (below inner (nests inner isNested)).proper_zero
      have sameValue := same_flattenShape_iff compares
        (fun inner isNested => inductionHypothesis inner (nests inner isNested))
        (properHeld properLeft) (properHeld properRight) leftFlat rightFlat
      rw [← sameValue]
      simp

/-! ## Changing one field -/

/-- A structure that is flattened still is with any value of its shape in a field. -/
theorem flatten_set
    (unambiguous : conversion.Unambiguous)
    {struct : TypedStruct}
    {flat : Value}
    (flattened : conversion.flatten struct = .ok flat)
    {field : FieldConversion Conversion}
    (member : field ∈ conversion.fields)
    (value : TypedValue)
    (conforms : conformsTo field.shape value = true) :
    ∃ changed, conversion.flatten (struct.set field.declared value) = .ok changed := by
  have decides := unambiguous.flatten_decides
  obtain ⟨typed, known, held⟩ :=
    conforms_iff.mp ((decides struct.type struct.fields).accepts.mp ⟨flat, flattened⟩)
  refine (decides struct.type (struct.fields.insert field.declared value)).accepts.mpr
    (conforms_iff.mpr ⟨typed, fun name isKey => ?known, fun other isField => ?held⟩)
  case known =>
    rw [Entries.keys_insert] at isKey
    split at isKey
    next => exact known name isKey
    next =>
      rcases List.mem_append.mp isKey with older | isNew
      · exact known name older
      · rw [List.mem_singleton.mp isNew]
        exact .inl (List.mem_map_of_mem member)
  case held =>
    cases unambiguous with
    | intro declared =>
        unfold FieldConversion.conforms
        rw [Entries.get?_insert]
        by_cases same : field.declared = other.declared
        · obtain rfl := List.inj_on_of_nodup_map declared member isField same
          simpa using conforms
        · rw [if_neg same]
          exact held other isField

section Pointers

variable
  {field : FieldConversion Conversion}
  {target : Target Conversion}

/-- The zero value of a target is one that a pointer to the target can hold. -/
theorem conformsAt_zero
    (unambiguous : conversion.Unambiguous)
    (member : field ∈ conversion.fields)
    (pointer : field.shape = ⟨.pointer, target⟩) :
    conformsAt target (zeroShape ⟨.plain, target⟩) = true ∧
      (zeroShape ⟨.plain, target⟩).proper = true := by
  have below : ∀ inner, (FieldShape.mk .plain target).nested? = some inner →
      inner.Unambiguous := by
    intro inner isNested
    cases unambiguous with
    | intro _ _ below =>
        apply below
        exact mem_nested.mpr ⟨field, member, by rw [pointer]; exact isNested⟩
  constructor
  · have plain : conformsTo ⟨.plain, target⟩ (zeroShape ⟨.plain, target⟩) = true := by
      apply (flattenShape_decides _ fun inner nests =>
        (below inner nests).flatten_decides).accepts.mp
      exact ⟨_, flattenShape_zeroShape (fun inner nests => (below inner nests).flatten_zero) ""⟩
    unfold conformsTo at plain
    exact plain
  · exact proper_zeroShape fun inner nests => (below inner nests).proper_zero

/-- A pointer that is absent is flattened to something else than one to the zero value. -/
theorem flatten_pointer_zero
    (unambiguous : conversion.Unambiguous)
    {struct : TypedStruct}
    {flat : Value}
    (proper : struct.toValue.proper = true)
    (flattened : conversion.flatten struct = .ok flat)
    (member : field ∈ conversion.fields)
    (pointer : field.shape = ⟨.pointer, target⟩) :
    ∃ absent present,
      conversion.flatten (struct.set field.declared (.pointer none)) = .ok absent ∧
      conversion.flatten (struct.set field.declared
        (.pointer (some (zeroShape ⟨.plain, target⟩)))) = .ok present ∧
      absent.same present = false := by
  obtain ⟨zeroConforms, zeroProper⟩ := unambiguous.conformsAt_zero member pointer
  have properTarget : (TypedValue.pointer (some (zeroShape ⟨.plain, target⟩))).proper = true := by
    rw [TypedValue.proper]
    exact zeroProper
  obtain ⟨absent, isAbsent⟩ := unambiguous.flatten_set flattened member (.pointer none)
    (by rw [pointer, conformsTo])
  obtain ⟨present, isPresent⟩ := unambiguous.flatten_set flattened member
    (.pointer (some (zeroShape ⟨.plain, target⟩)))
    (by rw [pointer, conformsTo]; exact zeroConforms)
  refine ⟨absent, present, isAbsent, isPresent, ?_⟩
  apply Bool.eq_false_iff.mpr
  intro same
  have agree := (unambiguous.separates Value.compares_same _ _ _ _ _ _
    (proper_insert proper rfl field.declared) (proper_insert proper properTarget field.declared)
    isAbsent isPresent).mp same
  have sameHeld := agree_iff.mp agree field member
  rw [FieldConversion.held, FieldConversion.held, Entries.get?_insert, Entries.get?_insert,
    if_pos rfl, if_pos rfl, Option.getD_some, Option.getD_some, pointer, AgreeUnder] at sameHeld
  cases sameHeld

end Pointers

end Unambiguous

end Conversion

end BlockSchema
