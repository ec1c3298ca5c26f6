import BlockSchema.Proofs.Conversion.Fields
import BlockSchema.Proofs.Group.Conversions

/-!
Contract: what of a value a conversion reads.

The reading of a block has the fields that take input and were given a value, in the order
of the fields, and inside each of them the readings of the nested blocks. Expanding looks
at nothing else. So values with one reading expand alike, down to the error.
-/

set_option autoImplicit false

namespace BlockSchema

/-! ## Readings -/

/-- A list with its items changed; any other value as it is. -/
def Value.overItems (change : Value → Value) : Value → Value
  | .list items => .list (items.map change)
  | other => other

/-- A block with the values under its keys changed; any other value as it is. -/
def Value.overEntries (change : Value → Value) : Value → Value
  | .block entries => .block (entries.map fun entry => (entry.1, change entry.2))
  | other => other

mutual

/-- What the conversion reads of a value. -/
def Conversion.reading : Conversion → Value → Value
  | ⟨_, fields, _⟩, .block block => .block (Conversion.readingFields fields block)
  | _, other => other

/-- What fields read of a block. A field that takes no input, or that is given no value,
reads nothing; neither do keys that no field has. -/
def Conversion.readingFields :
    List (FieldConversion Conversion) → Entries Value → Entries Value
  | [], _ => []
  | ⟨_, external, shape, readsInput⟩ :: rest, block =>
      match if readsInput then shape.given? (block.get? external) else none with
      | some value =>
          (external, Conversion.readingShape shape value) :: Conversion.readingFields rest block
      | none => Conversion.readingFields rest block

/-- What is read of the value that is given for a field. -/
def Conversion.readingShape : FieldShape Conversion → Value → Value
  | ⟨.plain, target⟩, value | ⟨.pointer, target⟩, value | ⟨.list, target⟩, value =>
      value.overItems (Conversion.readingTarget target)
  | ⟨.map, target⟩, value => value.overEntries (Conversion.readingTarget target)

/-- What is read of one element. -/
def Conversion.readingTarget : Target Conversion → Value → Value
  | .scalar _, value => value
  | .struct nested, value => nested.reading value

end

/-- The value that a field reads from a block, if it takes input and is given one. -/
def FieldConversion.reading? (field : FieldConversion Conversion) (block : Entries Value) :
    Option Value :=
  (if field.readsInput then field.shape.given? (block.get? field.external) else none).map
    (Conversion.readingShape field.shape)

/-! ## Readings of blocks -/

namespace Conversion

private theorem readingFields_eq_filterMap
    (fields : List (FieldConversion Conversion))
    (block : Entries Value) :
    readingFields fields block =
      fields.filterMap fun field => (field.reading? block).map (Prod.mk field.external) := by
  induction fields with
  | nil => rfl
  | cons field rest inductionHypothesis =>
      rw [readingFields, List.filterMap_cons, inductionHypothesis, FieldConversion.reading?]
      cases if field.readsInput then field.shape.given? (Entries.get? field.external block)
        else none <;> rfl

private theorem reading_block (conversion : Conversion) (block : Entries Value) :
    conversion.reading (.block block) =
      .block (conversion.fields.filterMap fun field =>
        (field.reading? block).map (Prod.mk field.external)) := by
  cases conversion with
  | mk => rw [reading, readingFields_eq_filterMap]

/-- Two blocks have one reading exactly when every field reads the same from both. Other
keys, the order of the keys and the spelling of no value do not show. -/
theorem reading_block_eq_iff
    {conversion : Conversion}
    (distinct : (conversion.fields.map FieldConversion.external).Nodup)
    {first second : Entries Value} :
    conversion.reading (.block first) = conversion.reading (.block second) ↔
      ∀ field ∈ conversion.fields, field.reading? first = field.reading? second := by
  rw [reading_block, reading_block, Value.block.injEq]
  constructor
  · intro same field member
    have underName := congrArg (Entries.get? field.external) same
    rwa [Entries.get?_filterMap_of_mem distinct _ member,
      Entries.get?_filterMap_of_mem distinct _ member] at underName
  · intro each
    refine List.filterMap_congr fun field member => ?_
    rw [each field member]

private theorem reading_eq_null_iff {conversion : Conversion} {value : Value} :
    conversion.reading value = .null ↔ value = .null := by
  cases conversion
  cases value <;> simp [reading]

end Conversion

/-! ## Reading keeps what is expanded -/

section Elements

variable
  {α : Type}
  {field : String}
  {read : Value → Expanded α}
  {change : Value → Value}

private theorem Value.readItems_map (same : ∀ value, read (change value) = read value)
    (items : List Value) :
    Value.readItems read (items.map change) = Value.readItems read items := by
  induction items with
  | nil => rfl
  | cons item rest inductionHypothesis =>
      rw [List.map_cons, Value.readItems, Value.readItems, same, inductionHypothesis]

private theorem Value.readEntries_map (same : ∀ value, read (change value) = read value)
    (entries : Entries Value) :
    Value.readEntries read (entries.map fun entry => (entry.1, change entry.2)) =
      Value.readEntries read entries := by
  induction entries with
  | nil => rfl
  | cons entry rest inductionHypothesis =>
      rw [List.map_cons, Value.readEntries, Value.readEntries, same, inductionHypothesis]

private theorem Value.readList_overItems (same : ∀ value, read (change value) = read value)
    (value : Value) :
    Value.readList field read (some (value.overItems change)) =
      Value.readList field read (some value) := by
  cases value with
  | list items =>
      cases items with
      | nil => rfl
      | cons first rest => exact Value.readItems_map same (first :: rest)
  | _ => rfl

private theorem Value.readMap_overEntries (same : ∀ value, read (change value) = read value)
    (value : Value) :
    Value.readMap field read (some (value.overEntries change)) =
      Value.readMap field read (some value) := by
  cases value with
  | block entries => exact Value.readEntries_map same entries
  | _ => rfl

/-- A single block is read from a list of one, and more of them are counted. -/
theorem Value.readSingle_overItems
    (same : ∀ value, read (change value) = read value)
    (nulls : ∀ value, change value = .null ↔ value = .null)
    (value : Value) :
    Value.readSingle field read (some (value.overItems change)) =
      Value.readSingle field read (some value) := by
  cases value with
  | list items =>
      rcases items with _ | ⟨first, _ | ⟨second, rest⟩⟩
      · rfl
      · have sameFirst := same first
        by_cases isNull : first = .null
        · subst isNull
          have changed : change .null = .null := (nulls .null).mpr rfl
          simp only [Value.overItems, List.map_cons, List.map_nil, changed]
        · have changed : change first ≠ .null := fun null => isNull ((nulls first).mp null)
          have opened : ∀ only : Value, only ≠ .null →
              Value.readSingle field read (some (.list [only])) = (read only).map some := by
            intro only something
            cases only with
            | null => exact absurd rfl something
            | _ => rfl
          rw [Value.overItems, List.map_cons, List.map_nil, opened _ changed, opened _ isNull,
            sameFirst]
      · simp [Value.overItems, Value.readSingle, Value.present?, Value.isNothing]
  | _ => rfl

end Elements

namespace Conversion

/-- A conversion expands the reading of a value as it expands the value. -/
def ReadsAlike (conversion : Conversion) : Prop :=
  ∀ input, conversion.expand (conversion.reading input) = conversion.expand input

private theorem expandElement_readingTarget
    {target : Target Conversion}
    (below : ∀ inner, target.nested? = some inner → inner.ReadsAlike)
    (field : String)
    (value : Value) :
    expandElement field target (readingTarget target value) = expandElement field target value := by
  cases target with
  | scalar type => rfl
  | struct nested => rw [expandElement, expandElement, readingTarget, below nested rfl value]

/-- The value of a field is expanded as its reading is. -/
theorem expandShape_readingShape
    {shape : FieldShape Conversion}
    (below : ∀ inner, shape.nested? = some inner → inner.ReadsAlike)
    (field : String)
    (value : Value) :
    expandShape field shape (some (readingShape shape value)) =
      expandShape field shape (some value) := by
  obtain ⟨arity, target⟩ := shape
  have same := fun element => expandElement_readingTarget below field element
  have scalarItems : ∀ type, value.overItems (readingTarget (.scalar type)) = value := by
    intro type
    cases value <;> simp [Value.overItems, readingTarget]
  have single : ∀ nested, Target.struct nested = target →
      Value.readSingle field nested.expand (some (value.overItems (readingTarget target))) =
        Value.readSingle field nested.expand (some value) := by
    rintro nested rfl
    exact Value.readSingle_overItems (below nested rfl) (fun _ => reading_eq_null_iff) value
  cases arity with
  | plain =>
      cases target with
      | scalar type => rw [readingShape, scalarItems]
      | struct nested => rw [readingShape, expandShape, expandShape, single nested rfl]
  | pointer =>
      cases target with
      | scalar type => rw [readingShape, scalarItems]
      | struct nested => rw [readingShape, expandShape, expandShape, single nested rfl]
  | list => rw [readingShape, expandShape, expandShape, Value.readList_overItems same]
  | map => rw [readingShape, expandShape, expandShape, Value.readMap_overEntries same]

/-- A field is expanded from what it reads. -/
theorem expand_of_reading?
    {field : FieldConversion Conversion}
    (below : ∀ inner, field.shape.nested? = some inner → inner.ReadsAlike)
    {block read : Entries Value}
    (reads : read.get? field.external = field.reading? block) :
    field.expand read = field.expand block := by
  cases takes : field.readsInput with
  | false => simp [FieldConversion.expand, takes]
  | true =>
      rw [FieldConversion.expand, FieldConversion.expand, reads, FieldConversion.reading?]
      simp only [takes, if_true]
      cases given : field.shape.given? (block.get? field.external) with
      | none =>
          rw [Option.map_none, expandShape_of_not_given given,
            expandShape_of_not_given (FieldShape.given?_of_not_present rfl)]
      | some value =>
          rw [FieldShape.eq_some_of_given? given, Option.map_some,
            expandShape_readingShape below]

private theorem Unambiguous.readsAlike
    {conversion : Conversion}
    (unambiguous : conversion.Unambiguous) :
    conversion.ReadsAlike := by
  induction unambiguous with
  | @intro conversion declared external below inductionHypothesis =>
      intro input
      cases input with
      | block block =>
          rw [reading_block, expand_block, expand_block]
          refine congrArg (Except.map _) (Results.mapM_congr fun field member => ?_)
          have reads := Entries.get?_filterMap_of_mem external
            (fun field : FieldConversion Conversion => field.reading? block) member
          rw [expand_of_reading? (fun inner isNested => ?_) reads]
          exact inductionHypothesis inner (mem_nested.mpr ⟨field, member, isNested⟩)
      | _ => cases conversion; rfl

/-- A block that gives no field a value is expanded to the zero structure. -/
theorem expand_of_not_given
    {conversion : Conversion}
    {block : Entries Value}
    (nothing : ∀ field ∈ conversion.fields, field.readsInput = true →
      field.shape.given? (block.get? field.external) = none) :
    conversion.expand (.block block) = .ok conversion.zero := by
  rw [expand_block, zero_eq]
  refine congrArg (Except.map _) (Results.mapM_eq_map fun field member => ?_)
  rw [FieldConversion.expand]
  split
  next reads => rw [expandShape_of_not_given (nothing field member reads)]; rfl
  next => rfl

end Conversion

/-! ## Compiled groups -/

/-- What a conversion of a compiled group makes of a value depends on its reading alone, and
whether it makes anything does so as well. Blocks have one reading when every field reads
the same from them; where no field reads anything the structure is zero. -/
theorem GroupPlan.expand_reads
    {manifest : Manifest}
    {group : GroupPlan}
    {compiled : CompiledGroup}
    (accepted : group.compile manifest = .ok compiled)
    {conversion : Conversion}
    (converts : compiled.Converts conversion) :
    (∀ first second, conversion.reading first = conversion.reading second →
      conversion.expand first = conversion.expand second) ∧
    (∀ first second, conversion.reading (.block first) = conversion.reading (.block second) ↔
      ∀ field ∈ conversion.fields, field.reading? first = field.reading? second) ∧
    (∀ block : Entries Value,
      (∀ field ∈ conversion.fields, field.readsInput = true →
        field.shape.given? (block.get? field.external) = none) →
      conversion.expand (.block block) = .ok conversion.zero) := by
  have unambiguous := GroupPlan.converts_unambiguous accepted converts
  have readsAlike := unambiguous.readsAlike
  obtain ⟨_, external, _⟩ := unambiguous
  refine ⟨?alike, fun first second => Conversion.reading_block_eq_iff external,
    fun block => Conversion.expand_of_not_given⟩
  case alike =>
    intro first second same
    calc conversion.expand first
        = conversion.expand (conversion.reading first) := (readsAlike first).symm
      _ = conversion.expand (conversion.reading second) := by rw [same]
      _ = conversion.expand second := readsAlike second

namespace Orders

/-- An order whose items are no list. -/
def brokenOrder : Entries Value :=
  [("number", .scalar (.int 7)),
    ("main", .list [.null]),
    ("colour", .scalar (.string "red")),
    ("items", .scalar (.int 5))]

/-- The same order in another spelling, with a value for its computed total. -/
def respelledOrder : Entries Value :=
  [("items", .scalar (.int 5)),
    ("total", .scalar (.float .zero)),
    ("spare", .list []),
    ("number", .scalar (.int 7))]

/-- The two orders differ in what is not read and in the spelling of no value. -/
theorem get?_respelledOrder
    {name : String}
    (differs : name ∉ ["colour", "total", "main", "spare"]) :
    brokenOrder.get? name = respelledOrder.get? name := by
  simp only [List.mem_cons, List.not_mem_nil, or_false, not_or] at differs
  obtain ⟨noColour, noTotal, noMain, noSpare⟩ := differs
  by_cases isNumber : name = "number"
  · simp [brokenOrder, respelledOrder, isNumber, Entries.get?]
  · simp [brokenOrder, respelledOrder, Entries.get?, Ne.symm noColour, Ne.symm noTotal,
      Ne.symm noMain, Ne.symm noSpare, Ne.symm isNumber]

/-- Whether a conversion has no colour, reads no total and has a single main item. -/
def isPlain (conversion : Conversion) : Bool :=
  conversion.fields.all fun field =>
    field.external != "colour" && (field.external != "total" || !field.readsInput) &&
      (field.external != "main" || field.shape.isSingle)

/-- Every field of such a conversion reads the same from both orders. -/
theorem reading?_respelledOrder
    {conversion : Conversion}
    (plain : isPlain conversion = true)
    {field : FieldConversion Conversion}
    (member : field ∈ conversion.fields) :
    field.reading? brokenOrder = field.reading? respelledOrder := by
  have ofField := List.all_eq_true.mp plain field member
  simp only [Bool.and_eq_true, Bool.or_eq_true, bne_iff_ne, Bool.not_eq_true'] at ofField
  obtain ⟨⟨noColour, noTotal⟩, single⟩ := ofField
  rw [FieldConversion.reading?, FieldConversion.reading?]
  cases takes : field.readsInput with
  | false => rfl
  | true =>
      have notTotal : field.external ≠ "total" := by simpa [takes] using noTotal
      by_cases isMain : field.external = "main"
      · have isSingle : field.shape.isSingle = true := by simpa [isMain] using single
        simp [brokenOrder, respelledOrder, isMain, isSingle, Entries.get?, FieldShape.given?,
          Value.present?, Value.isNothing]
      · by_cases isSpare : field.external = "spare"
        · simp [brokenOrder, respelledOrder, isSpare, Entries.get?, FieldShape.given?,
            Value.present?, Value.isNothing]
        · rw [get?_respelledOrder (by simp [noColour, notTotal, isMain, isSpare])]

end Orders

theorem GroupPlan.expand_reads_respelled :
    ∃ compiled conversion,
      Orders.group.compile Orders.manifest = .ok compiled ∧
      compiled.Converts conversion ∧
      conversion.typeId = Orders.order.id ∧
      conversion.expand (.block Orders.brokenOrder) =
        .error (.mismatch "items" .list (.scalar .int)) ∧
      conversion.expand (.block Orders.respelledOrder) =
        .error (.mismatch "items" .list (.scalar .int)) := by
  obtain ⟨compiled, conversion, accepted, converts, passes⟩ :=
    @Orders.converts
      (fun conversion => conversion.typeId == Orders.order.id && Orders.isPlain conversion &&
        match conversion.expand (.block Orders.brokenOrder) with
        | .error error => error == .mismatch "items" .list (.scalar .int)
        | .ok _ => false)
      (by decide +kernel)
  simp only [Bool.and_eq_true, beq_iff_eq] at passes
  obtain ⟨⟨typed, plain⟩, refused⟩ := passes
  have broken : conversion.expand (.block Orders.brokenOrder) =
      .error (.mismatch "items" .list (.scalar .int)) := by
    cases expanded : conversion.expand (.block Orders.brokenOrder) with
    | error error => rw [expanded] at refused; rw [beq_iff_eq.mp refused]
    | ok struct => rw [expanded] at refused; cases refused
  obtain ⟨alike, sameReading, _⟩ := GroupPlan.expand_reads accepted converts
  have same := (sameReading _ _).mpr fun _ member => Orders.reading?_respelledOrder plain member
  exact ⟨compiled, conversion, accepted, converts, typed, broken, (alike _ _ same) ▸ broken⟩

end BlockSchema
