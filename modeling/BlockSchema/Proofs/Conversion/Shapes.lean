import BlockSchema.Proofs.Conversion.Nesting
import BlockSchema.Proofs.Entries

/-!
Contract: expanding and flattening the value of one field.

A shape is a target and how many of it there are. A field that holds at most one writes it
by itself, one that holds many writes a list or a map of them, and what holds of one target
carries over to all four shapes.
-/

set_option autoImplicit false

namespace BlockSchema

/-! ## Lists and maps -/

section Elements

variable {α : Type}

theorem Value.readItems_eq_mapM (read : Value → Expanded α) (items : List Value) :
    Value.readItems read items = items.mapM read := by
  induction items with
  | nil => rfl
  | cons item rest inductionHypothesis =>
      rw [Value.readItems, List.mapM_cons, inductionHypothesis]

theorem Value.readEntries_eq_mapM (read : Value → Expanded α) (entries : Entries Value) :
    Value.readEntries read entries =
      entries.mapM fun entry => (read entry.2).map (Prod.mk entry.1) := by
  induction entries with
  | nil => rfl
  | cons entry rest inductionHypothesis =>
      rw [Value.readEntries, List.mapM_cons, inductionHypothesis]
      cases read entry.2 <;> rfl

theorem TypedValue.flattenItems_eq_mapM
    (write : TypedValue → Flattened Value)
    (items : List TypedValue) :
    TypedValue.flattenItems write items = items.mapM write := by
  induction items with
  | nil => rfl
  | cons item rest inductionHypothesis =>
      rw [TypedValue.flattenItems, List.mapM_cons, inductionHypothesis]

theorem TypedValue.flattenEntries_eq_mapM
    (write : TypedValue → Flattened Value)
    (entries : Entries TypedValue) :
    TypedValue.flattenEntries write entries =
      entries.mapM fun entry => (write entry.2).map (Prod.mk entry.1) := by
  induction entries with
  | nil => rfl
  | cons entry rest inductionHypothesis =>
      rw [TypedValue.flattenEntries, List.mapM_cons, inductionHypothesis]
      cases write entry.2 <;> rfl

/-- Entries are made exactly when every value is, key by key. -/
theorem Entries.mapM_eq_ok
    {ε β : Type}
    {make : α → Except ε β}
    {entries : Entries α}
    {made : Entries β} :
    (entries.mapM fun entry => (make entry.2).map (Prod.mk entry.1)) = .ok made ↔
      Entries.Alike (fun value result => make value = .ok result) entries made := by
  rw [Results.mapM_eq_ok]
  constructor
  · refine List.Forall₂.imp fun entry result isMade => ?_
    obtain ⟨value, isValue, rfl⟩ := Results.map_eq_ok.mp isMade
    exact ⟨rfl, isValue⟩
  · refine List.Forall₂.imp fun entry result alike => ?_
    obtain ⟨key, value⟩ := result
    obtain ⟨rfl, isValue⟩ := alike
    exact Results.map_eq_ok.mpr ⟨value, isValue, rfl⟩

theorem Entries.exists_alike
    {ε β : Type}
    {make : α → Except ε β}
    {entries : Entries α}
    (each : ∀ entry ∈ entries, ∃ value, make entry.2 = .ok value) :
    ∃ made, Entries.Alike (fun value result => make value = .ok result) entries made := by
  obtain ⟨made, isMade⟩ : ∃ made,
      (entries.mapM fun entry => (make entry.2).map (Prod.mk entry.1)) = .ok made := by
    refine Results.exists_mapM_eq_ok fun entry member => ?_
    obtain ⟨value, isValue⟩ := each entry member
    exact ⟨(entry.1, value), Results.map_eq_ok.mpr ⟨value, isValue, rfl⟩⟩
  exact ⟨made, Entries.mapM_eq_ok.mp isMade⟩

end Elements

/-! ## Reading what is there -/

theorem Value.scalarAs?_of_kind {scalar : Scalar} {kind : ScalarKind} (same : scalar.kind = kind) :
    (Value.scalar scalar).scalarAs? kind = some scalar := by
  subst same
  cases scalar <;> rfl

private theorem Value.readSingle_block
    {α : Type}
    (field : String)
    (read : Value → Expanded α)
    (block : Entries Value) :
    Value.readSingle field read (some (.list [.block block])) =
      (read (.block block)).map some :=
  rfl

theorem Value.readList_list
    {α : Type}
    (field : String)
    (read : Value → Expanded α)
    (items : List Value) :
    Value.readList field read (some (.list items)) = items.mapM read := by
  cases items with
  | nil => rfl
  | cons item rest => exact Value.readItems_eq_mapM read (item :: rest)

section Reading

variable
  {field : String}
  {kind : ScalarKind}
  {input : Option Value}
  {α : Type}
  {read : Value → Expanded α}

private theorem Value.present?_eq_some {value : Value} :
    Value.present? input = some value ↔ input = some value ∧ value.isNothing = false := by
  cases input with
  | none => simp [Value.present?]
  | some other =>
      rw [Value.present?, Option.some.injEq]
      split
      next nothing =>
        refine ⟨fun impossible => (by cases impossible), ?_⟩
        rintro ⟨rfl, something⟩
        rw [nothing] at something
        cases something
      next something =>
        rw [Option.some.injEq]
        refine ⟨?_, fun both => both.1⟩
        rintro rfl
        exact ⟨rfl, Bool.eq_false_iff.mpr something⟩

theorem Value.readScalar_eq_ok {found : Option Scalar} :
    Value.readScalar field kind input = .ok found ↔
      (Value.present? input = none ∧ none = found) ∨
        ∃ value scalar, Value.present? input = some value ∧
          value.scalarAs? kind = some scalar ∧ some scalar = found := by
  unfold Value.readScalar
  cases Value.present? input with
  | none => simp
  | some value => cases held : value.scalarAs? kind <;> simp [held]

private theorem Value.readScalar_of_scalarAs?
    {value : Value}
    {scalar : Scalar}
    (held : value.scalarAs? kind = some scalar) :
    Value.readScalar field kind (some value) = .ok (some scalar) := by
  refine Value.readScalar_eq_ok.mpr (.inr ⟨value, scalar, ?_, held, rfl⟩)
  rw [Value.present?_eq_some]
  cases value with
  | scalar inner => exact ⟨rfl, rfl⟩
  | _ => cases held

theorem Value.readElement_eq_ok {value : Value} {scalar : Scalar} :
    Value.readElement field kind value = .ok scalar ↔ value.scalarAs? kind = some scalar := by
  constructor
  · intro isRead
    obtain ⟨found, isFound, chosen⟩ := Results.bind_eq_ok.mp isRead
    rcases Value.readScalar_eq_ok.mp isFound with ⟨_, rfl⟩ | ⟨other, held, isOther, holds, rfl⟩
    · cases chosen
    · obtain rfl := Except.ok.inj chosen
      obtain rfl := Option.some.inj (Value.present?_eq_some.mp isOther).1
      exact holds
  · intro held
    rw [Value.readElement, Value.readScalar_of_scalarAs? held]
    rfl

/-- A single block is read when there is none, a null in its place included, or just one
that can be read. -/
theorem Value.readSingle_eq_ok {found : Option α} :
    Value.readSingle field read input = .ok found ↔
      ((Value.present? input = none ∨ input = some (.list [.null])) ∧ none = found) ∨
        ∃ block value, input = some (.list [block]) ∧ block ≠ .null ∧
          read block = .ok value ∧ some value = found := by
  cases input with
  | none => simp [Value.readSingle, Value.present?]
  | some value =>
      cases value with
      | list items =>
          cases items with
          | nil => simp [Value.readSingle, Value.present?, Value.isNothing]
          | cons first rest =>
              cases rest with
              | nil =>
                  cases first with
                  | null => simp [Value.readSingle, Value.present?, Value.isNothing]
                  | _ =>
                      simp [Value.readSingle, Value.present?, Value.isNothing, Results.map_eq_ok]
              | cons second others =>
                  simp [Value.readSingle, Value.present?, Value.isNothing]
      | _ => simp [Value.readSingle, Value.present?, Value.isNothing]

private theorem Value.readList_eq_ok {found : List α} :
    Value.readList field read input = .ok found ↔
      (Value.present? input = none ∧ [] = found) ∨
        ∃ items, Value.present? input = some (.list items) ∧ items.mapM read = .ok found := by
  unfold Value.readList
  cases Value.present? input with
  | none => simp
  | some value => cases value <;> simp [Value.readItems_eq_mapM]

private theorem Value.readMap_eq_ok {found : Entries α} :
    Value.readMap field read input = .ok found ↔
      (Value.present? input = none ∧ [] = found) ∨
        ∃ entries, Value.present? input = some (.block entries) ∧
          (entries.mapM fun entry => (read entry.2).map (Prod.mk entry.1)) = .ok found := by
  unfold Value.readMap
  cases Value.present? input with
  | none => simp
  | some value => cases value <;> simp [Value.readEntries_eq_mapM]

end Reading

/-! ## Single values -/

/-- Whether the field holds at most one nested block. -/
def FieldShape.isSingle {ν : Type} : FieldShape ν → Bool
  | ⟨.plain, .struct _⟩ | ⟨.pointer, .struct _⟩ => true
  | _ => false

/-- The value that is given for a field. A missing one, a null and an empty list are
none, and so is a list of one null where a single block belongs. -/
def FieldShape.given? {ν : Type} (shape : FieldShape ν) (input : Option Value) : Option Value :=
  match Value.present? input with
  | some (.list [.null]) => if shape.isSingle then none else some (.list [.null])
  | other => other

/-- How one value of a target is written by itself: a scalar as it is, a block in a list. -/
def Target.single {ν : Type} : Target ν → Value → Value
  | .scalar _, value => value
  | .struct _, block => .list [block]

/-- How it is written that a pointer has no target. -/
def Target.absent {ν : Type} : Target ν → Value
  | .scalar _ => .null
  | .struct _ => .list []

private theorem FieldShape.given?_eq_none {ν : Type} {shape : FieldShape ν} {input : Option Value} :
    shape.given? input = none ↔
      Value.present? input = none ∨ shape.isSingle = true ∧ input = some (.list [.null]) := by
  unfold FieldShape.given?
  split
  next present =>
    obtain ⟨rfl, _⟩ := Value.present?_eq_some.mp present
    simp [present]
  next different =>
    refine ⟨.inl, fun none => none.resolve_right ?_⟩
    rintro ⟨_, rfl⟩
    exact different rfl

theorem FieldShape.given?_of_not_present
    {ν : Type}
    {shape : FieldShape ν}
    {input : Option Value}
    (nothing : Value.present? input = none) :
    shape.given? input = none :=
  given?_eq_none.mpr (.inl nothing)

theorem FieldShape.eq_some_of_given?
    {ν : Type}
    {shape : FieldShape ν}
    {input : Option Value}
    {value : Value}
    (given : shape.given? input = some value) :
    input = some value := by
  have present : Value.present? input = some value := by
    unfold FieldShape.given? at given
    split at given
    next isNull =>
      split at given
      next => cases given
      next => rw [isNull, given]
    next => exact given
  exact (Value.present?_eq_some.mp present).1

theorem Target.given?_absent {ν μ : Type} {arity : Arity} {target : Target ν} {other : Target μ} :
    FieldShape.given? ⟨arity, target⟩ (some other.absent) = none := by
  refine FieldShape.given?_of_not_present ?_
  cases other <;> rfl

theorem Target.single_map {ν μ : Type} (change : ν → μ) (target : Target ν) :
    (target.map change).single = target.single := by
  cases target <;> rfl

/-! ## Expanding -/

namespace Conversion

section Expanded

variable
  {field : String}
  {type : ScalarType}
  {nested : Conversion}
  {target : Target Conversion}
  {shape : FieldShape Conversion}
  {input : Option Value}
  {element : Value}
  {value : TypedValue}

theorem expandElement_scalar :
    expandElement field (.scalar type) element =
      (Value.readElement field type.kind element).map .scalar := by
  change (Value.readElement field type.kind element).bind _ = _
  cases Value.readElement field type.kind element <;> rfl

theorem expandElement_struct :
    expandElement field (.struct nested) element =
      (nested.expand element).map TypedStruct.toValue := by
  change (nested.expand element).bind _ = _
  cases nested.expand element <;> rfl

theorem expandElement_scalar_eq_ok :
    expandElement field (.scalar type) element = .ok value ↔
      ∃ scalar, element.scalarAs? type.kind = some scalar ∧ .scalar scalar = value := by
  simp [expandElement_scalar, Results.map_eq_ok, Value.readElement_eq_ok]

theorem expandElement_struct_eq_ok :
    expandElement field (.struct nested) element = .ok value ↔
      ∃ struct, nested.expand element = .ok struct ∧ struct.toValue = value := by
  rw [expandElement_struct, Results.map_eq_ok]

theorem block_of_expand {struct : TypedStruct} (expanded : nested.expand element = .ok struct) :
    ∃ block, element = .block block := by
  cases element with
  | block entries => exact ⟨entries, rfl⟩
  | _ =>
      cases nested
      cases expanded

/-- Reads one value of a target, if there is one. -/
def readTarget (field : String) :
    Target Conversion → Option Value → Expanded (Option TypedValue)
  | .scalar type, input =>
      (Value.readScalar field type.kind input).map (Option.map .scalar)
  | .struct nested, input =>
      (Value.readSingle field nested.expand input).map (Option.map TypedStruct.toValue)

/-- A value is read when none is given, or one by itself that is expanded. -/
theorem readTarget_eq_ok {found : Option TypedValue} :
    readTarget field target input = .ok found ↔
      (FieldShape.given? ⟨.plain, target⟩ input = none ∧ none = found) ∨
        ∃ element value, input = some (target.single element) ∧
          expandElement field target element = .ok value ∧ some value = found := by
  rw [FieldShape.given?_eq_none]
  cases target with
  | scalar type =>
      rw [readTarget, Results.map_eq_ok]
      constructor
      · rintro ⟨read, isRead, rfl⟩
        rcases Value.readScalar_eq_ok.mp isRead with
          ⟨nothing, rfl⟩ | ⟨element, scalar, present, held, rfl⟩
        · exact .inl ⟨.inl nothing, rfl⟩
        · exact .inr ⟨element, _, (Value.present?_eq_some.mp present).1,
            expandElement_scalar_eq_ok.mpr ⟨scalar, held, rfl⟩, rfl⟩
      · rintro (⟨nothing | ⟨impossible, _⟩, rfl⟩ | ⟨element, value, rfl, isValue, rfl⟩)
        · exact ⟨none, Value.readScalar_eq_ok.mpr (.inl ⟨nothing, rfl⟩), rfl⟩
        · cases impossible
        · obtain ⟨scalar, held, rfl⟩ := expandElement_scalar_eq_ok.mp isValue
          exact ⟨some scalar, Value.readScalar_of_scalarAs? held, rfl⟩
  | struct nested =>
      rw [readTarget, Results.map_eq_ok]
      constructor
      · rintro ⟨read, isRead, rfl⟩
        rcases Value.readSingle_eq_ok.mp isRead with
          ⟨nothing | isNull, rfl⟩ | ⟨element, struct, rfl, _, isStruct, rfl⟩
        · exact .inl ⟨.inl nothing, rfl⟩
        · exact .inl ⟨.inr ⟨rfl, isNull⟩, rfl⟩
        · exact .inr ⟨element, _, rfl,
            expandElement_struct_eq_ok.mpr ⟨struct, isStruct, rfl⟩, rfl⟩
      · rintro (⟨nothing | ⟨_, isNull⟩, rfl⟩ | ⟨element, value, rfl, isValue, rfl⟩)
        · exact ⟨none, Value.readSingle_eq_ok.mpr (.inl ⟨.inl nothing, rfl⟩), rfl⟩
        · exact ⟨none, Value.readSingle_eq_ok.mpr (.inl ⟨.inr isNull, rfl⟩), rfl⟩
        · obtain ⟨struct, isStruct, rfl⟩ := expandElement_struct_eq_ok.mp isValue
          obtain ⟨block, rfl⟩ := block_of_expand isStruct
          refine ⟨some struct, ?_, rfl⟩
          rw [Target.single, Value.readSingle_block, isStruct]
          rfl

theorem expandShape_plain :
    expandShape field ⟨.plain, target⟩ input =
      (readTarget field target input).map fun read =>
        read.getD (zeroShape ⟨.plain, target⟩) := by
  cases target with
  | scalar type =>
      rw [readTarget]
      change (Value.readScalar field type.kind input).bind _ = _
      rcases Value.readScalar field type.kind input with _ | _ | _ <;> rfl
  | struct nested =>
      rw [readTarget]
      change (Value.readSingle field nested.expand input).bind _ = _
      rcases Value.readSingle field nested.expand input with _ | _ | _ <;> rfl

theorem expandShape_pointer :
    expandShape field ⟨.pointer, target⟩ input =
      (readTarget field target input).map .pointer := by
  cases target with
  | scalar type =>
      rw [readTarget]
      change (Value.readScalar field type.kind input).bind _ = _
      cases Value.readScalar field type.kind input <;> rfl
  | struct nested =>
      rw [readTarget]
      change (Value.readSingle field nested.expand input).bind _ = _
      cases Value.readSingle field nested.expand input <;> rfl

theorem expandShape_list :
    expandShape field ⟨.list, target⟩ input =
      (Value.readList field (expandElement field target) input).map .list := by
  change (Value.readList field (expandElement field target) input).bind _ = _
  cases Value.readList field (expandElement field target) input <;> rfl

theorem expandShape_map :
    expandShape field ⟨.map, target⟩ input =
      (Value.readMap field (expandElement field target) input).map fun entries =>
        .map (Entries.sortedOfList entries) := by
  change (Value.readMap field (expandElement field target) input).bind _ = _
  cases Value.readMap field (expandElement field target) input <;> rfl

theorem expandShape_plain_eq_ok :
    expandShape field ⟨.plain, target⟩ input = .ok value ↔
      (FieldShape.given? ⟨.plain, target⟩ input = none ∧
          zeroShape ⟨.plain, target⟩ = value) ∨
        ∃ element, input = some (target.single element) ∧
          expandElement field target element = .ok value := by
  rw [expandShape_plain, Results.map_eq_ok]
  constructor
  · rintro ⟨read, isRead, rfl⟩
    rcases readTarget_eq_ok.mp isRead with ⟨none, rfl⟩ | ⟨element, value, isGiven, isValue, rfl⟩
    · exact .inl ⟨none, rfl⟩
    · exact .inr ⟨element, isGiven, isValue⟩
  · rintro (⟨nothing, rfl⟩ | ⟨element, isGiven, isValue⟩)
    · exact ⟨none, readTarget_eq_ok.mpr (.inl ⟨nothing, rfl⟩), rfl⟩
    · exact ⟨some value, readTarget_eq_ok.mpr (.inr ⟨element, value, isGiven, isValue, rfl⟩), rfl⟩

theorem expandShape_pointer_eq_ok :
    expandShape field ⟨.pointer, target⟩ input = .ok value ↔
      (FieldShape.given? ⟨.pointer, target⟩ input = none ∧ .pointer none = value) ∨
        ∃ element inner, input = some (target.single element) ∧
          expandElement field target element = .ok inner ∧ .pointer (some inner) = value := by
  have givenAlike : FieldShape.given? (⟨.pointer, target⟩ : FieldShape Conversion) input =
      FieldShape.given? ⟨.plain, target⟩ input := by
    cases target <;> rfl
  rw [expandShape_pointer, Results.map_eq_ok, givenAlike]
  constructor
  · rintro ⟨read, isRead, rfl⟩
    rcases readTarget_eq_ok.mp isRead with ⟨none, rfl⟩ | ⟨element, inner, isGiven, isInner, rfl⟩
    · exact .inl ⟨none, rfl⟩
    · exact .inr ⟨element, inner, isGiven, isInner, rfl⟩
  · rintro (⟨nothing, rfl⟩ | ⟨element, inner, isGiven, isInner, rfl⟩)
    · exact ⟨none, readTarget_eq_ok.mpr (.inl ⟨nothing, rfl⟩), rfl⟩
    · exact ⟨some inner, readTarget_eq_ok.mpr (.inr ⟨element, inner, isGiven, isInner, rfl⟩), rfl⟩

theorem expandShape_list_eq_ok :
    expandShape field ⟨.list, target⟩ input = .ok value ↔
      (FieldShape.given? ⟨.list, target⟩ input = none ∧ .list [] = value) ∨
        ∃ items values, input = some (.list items) ∧
          items.mapM (expandElement field target) = .ok values ∧ .list values = value := by
  rw [expandShape_list, Results.map_eq_ok, FieldShape.given?_eq_none]
  constructor
  · rintro ⟨values, isRead, rfl⟩
    rcases Value.readList_eq_ok.mp isRead with ⟨nothing, rfl⟩ | ⟨items, present, areValues⟩
    · exact .inl ⟨.inl nothing, rfl⟩
    · exact .inr ⟨items, values, (Value.present?_eq_some.mp present).1, areValues, rfl⟩
  · rintro (⟨nothing | ⟨impossible, _⟩, rfl⟩ | ⟨items, values, rfl, areValues, rfl⟩)
    · exact ⟨[], Value.readList_eq_ok.mpr (.inl ⟨nothing, rfl⟩), rfl⟩
    · cases impossible
    · exact ⟨values, (Value.readList_list field _ items).trans areValues, rfl⟩

theorem expandShape_map_eq_ok :
    expandShape field ⟨.map, target⟩ input = .ok value ↔
      (FieldShape.given? ⟨.map, target⟩ input = none ∧ .map [] = value) ∨
        ∃ entries values, input = some (.block entries) ∧
          Entries.Alike (fun element inner => expandElement field target element = .ok inner)
            entries values ∧
          .map (Entries.sortedOfList values) = value := by
  rw [expandShape_map, Results.map_eq_ok, FieldShape.given?_eq_none]
  constructor
  · rintro ⟨values, isRead, rfl⟩
    rcases Value.readMap_eq_ok.mp isRead with ⟨nothing, rfl⟩ | ⟨entries, present, areValues⟩
    · exact .inl ⟨.inl nothing, rfl⟩
    · exact .inr ⟨entries, values, (Value.present?_eq_some.mp present).1,
        Entries.mapM_eq_ok.mp areValues, rfl⟩
  · rintro (⟨nothing | ⟨impossible, _⟩, rfl⟩ | ⟨entries, values, rfl, areValues, rfl⟩)
    · exact ⟨[], Value.readMap_eq_ok.mpr (.inl ⟨nothing, rfl⟩), rfl⟩
    · cases impossible
    · refine ⟨values, ?_, rfl⟩
      exact Value.readMap_eq_ok.mpr (.inr ⟨entries, rfl, Entries.mapM_eq_ok.mpr areValues⟩)

/-- A field that no value is given for gets its zero value. -/
theorem expandShape_of_not_given (nothing : shape.given? input = none) :
    expandShape field shape input = .ok (zeroShape shape) := by
  obtain ⟨arity, target⟩ := shape
  cases arity with
  | plain => exact expandShape_plain_eq_ok.mpr (.inl ⟨nothing, rfl⟩)
  | pointer => exact expandShape_pointer_eq_ok.mpr (.inl ⟨nothing, rfl⟩)
  | list => exact expandShape_list_eq_ok.mpr (.inl ⟨nothing, rfl⟩)
  | map => exact expandShape_map_eq_ok.mpr (.inl ⟨nothing, rfl⟩)

end Expanded

end Conversion

/-! ## Flattening -/

private theorem Scalar.flatten_eq_ok
    {field : String}
    {type : ScalarType}
    {scalar : Scalar}
    {flat : Value} :
    scalar.flatten field type = .ok flat ↔ scalar.kind = type.kind ∧ .scalar scalar = flat := by
  unfold Scalar.flatten
  split
  next same => simp [same]
  next differs => simp [differs]

namespace Conversion

section Flattened

variable
  {field : String}
  {type : ScalarType}
  {nested : Conversion}
  {target : Target Conversion}
  {value : TypedValue}
  {flat : Value}

theorem flattenElement_scalar_eq_ok :
    flattenElement field (.scalar type) value = .ok flat ↔
      ∃ scalar, value = .scalar scalar ∧ scalar.kind = type.kind ∧ .scalar scalar = flat := by
  cases value with
  | scalar scalar =>
      change scalar.flatten field type = .ok flat ↔ _
      simp [Scalar.flatten_eq_ok]
  | _ => exact iff_of_false nofun nofun

theorem flattenElement_struct_eq_ok :
    flattenElement field (.struct nested) value = .ok flat ↔
      ∃ type given, value = .struct type given ∧ nested.flattenStruct type given = .ok flat := by
  cases value with
  | struct type given =>
      change nested.flattenStruct type given = .ok flat ↔ _
      simp
  | _ => exact iff_of_false nofun nofun

/-- A value is flattened by itself as it is in a list or a map. -/
theorem flattenShape_plain_eq_ok :
    flattenShape field ⟨.plain, target⟩ value = .ok flat ↔
      ∃ element, flattenElement field target value = .ok element ∧
        target.single element = flat := by
  cases target with
  | scalar type =>
      cases value with
      | scalar scalar =>
          change scalar.flatten field type = .ok flat ↔
            ∃ element, scalar.flatten field type = .ok element ∧ element = flat
          simp
      | _ => exact iff_of_false nofun nofun
  | struct nested =>
      cases value with
      | struct type given => exact Results.map_eq_ok
      | _ => exact iff_of_false nofun nofun

theorem flattenShape_pointer_eq_ok :
    flattenShape field ⟨.pointer, target⟩ value = .ok flat ↔
      (value = .pointer none ∧ target.absent = flat) ∨
        ∃ inner element, value = .pointer (some inner) ∧
          flattenElement field target inner = .ok element ∧ target.single element = flat := by
  cases value with
  | pointer inner =>
      cases inner with
      | none =>
          have absent : flattenShape field ⟨.pointer, target⟩ (.pointer none) =
              .ok target.absent := by
            cases target <;> rfl
          simp [absent]
      | some inner =>
          have same : flattenShape field ⟨.pointer, target⟩ (.pointer (some inner)) = .ok flat ↔
              flattenShape field ⟨.plain, target⟩ inner = .ok flat := by
            cases target <;> cases inner <;> first | exact Iff.rfl | exact iff_of_false nofun nofun
          simp [same, flattenShape_plain_eq_ok]
  | _ => cases target <;> exact iff_of_false nofun (by simp)

theorem flattenShape_list_eq_ok :
    flattenShape field ⟨.list, target⟩ value = .ok flat ↔
      ∃ items flats, value = .list items ∧
        items.mapM (flattenElement field target) = .ok flats ∧ .list flats = flat := by
  cases value with
  | list items =>
      change (TypedValue.flattenItems (flattenElement field target) items).map Value.list =
        .ok flat ↔ _
      simp [TypedValue.flattenItems_eq_mapM, Results.map_eq_ok]
  | _ => exact iff_of_false nofun nofun

theorem flattenShape_map_eq_ok :
    flattenShape field ⟨.map, target⟩ value = .ok flat ↔
      ∃ entries flats, value = .map entries ∧
        Entries.Alike (fun inner element => flattenElement field target inner = .ok element)
          entries flats ∧
        .block flats = flat := by
  cases value with
  | map entries =>
      change (TypedValue.flattenEntries (flattenElement field target) entries).map Value.block =
        .ok flat ↔ _
      simp [TypedValue.flattenEntries_eq_mapM, Results.map_eq_ok, Entries.mapM_eq_ok]
  | _ => exact iff_of_false nofun nofun

end Flattened

end Conversion

end BlockSchema
