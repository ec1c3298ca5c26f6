import BlockSchema.Proofs.Conversion.Fields

/-!
Contract: exactly which values are expanded, and which error the others get.

Acceptance is a test on the value alone. A value that fails it is rejected at one place: the
first field in declaration order that does not accept what it is given, inside it the first
element that is not accepted, and so on down to a value that is wrong by itself.
-/

set_option autoImplicit false

namespace BlockSchema

/-! ## Accepted values -/

/-- Whether a value is a scalar that can be read as one of a kind: integers widen to real
numbers. -/
def Value.suits (kind : ScalarKind) : Value → Bool
  | .scalar held => held.kind == kind || (held.kind == .int && kind == .float)
  | _ => false

mutual

/-- Whether a value is a block in which every field accepts what it is given. -/
def Conversion.accepts : Conversion → Value → Bool
  | ⟨_, fields, _⟩, .block block => Conversion.acceptsFields fields block
  | _, _ => false

/-- Whether fields accept what a block gives them. A field that takes no input accepts
anything, and so does one that the block has nothing for. -/
def Conversion.acceptsFields : List (FieldConversion Conversion) → Entries Value → Bool
  | [], _ => true
  | ⟨_, external, shape, readsInput⟩ :: rest, block =>
      (!readsInput || (block.get? external).all (Conversion.acceptsUnder shape)) &&
        Conversion.acceptsFields rest block

/-- Whether a field accepts a value. -/
def Conversion.acceptsUnder : FieldShape Conversion → Value → Bool
  | _, .null | _, .list [] => true
  | ⟨.plain, .scalar type⟩, value | ⟨.pointer, .scalar type⟩, value => value.suits type.kind
  | ⟨.plain, .struct nested⟩, .list [only] | ⟨.pointer, .struct nested⟩, .list [only] =>
      only.classify == .null || nested.accepts only
  | ⟨.list, target⟩, .list items => items.all (Conversion.acceptsElement target)
  | ⟨.map, target⟩, .block entries =>
      entries.all fun entry => Conversion.acceptsElement target entry.2
  | _, _ => false

/-- Whether a value may stand in a list or a map. -/
def Conversion.acceptsElement : Target Conversion → Value → Bool
  | .scalar type, value => value.suits type.kind
  | .struct nested, value => nested.accepts value

end

/-- Whether a field accepts what a block gives it. -/
def FieldConversion.accepts (field : FieldConversion Conversion) (block : Entries Value) : Bool :=
  !field.readsInput || (block.get? field.external).all (Conversion.acceptsUnder field.shape)

theorem FieldConversion.accepts_iff
    {field : FieldConversion Conversion}
    {block : Entries Value} :
    field.accepts block = true ↔
      (field.readsInput = true → ∀ value, block.get? field.external = some value →
        Conversion.acceptsUnder field.shape value = true) := by
  rw [accepts, Bool.or_eq_true, Bool.not_eq_true', Option.all_eq_true, or_iff_not_imp_left,
    Bool.not_eq_false]

theorem Conversion.accepts_block {conversion : Conversion} {block : Entries Value} :
    conversion.accepts (.block block) = true ↔
      ∀ field ∈ conversion.fields, field.accepts block = true := by
  have fieldsAccept : ∀ fields, Conversion.acceptsFields fields block = true ↔
      ∀ field ∈ fields, FieldConversion.accepts field block = true := by
    intro fields
    induction fields with
    | nil => simp [Conversion.acceptsFields]
    | cons field rest inductionHypothesis =>
        rw [Conversion.acceptsFields, Bool.and_eq_true, inductionHypothesis,
          List.forall_mem_cons]
        rfl
  cases conversion with
  | mk => rw [Conversion.accepts, fieldsAccept]

/-! ## Rejected values -/

mutual

/-- A conversion rejects a value for an error. -/
inductive Conversion.Rejects : Conversion → Value → ExpandError → Prop where
  | noBlock {conversion : Conversion} {value : Value}
      (other : value.classify ≠ .block) :
      Rejects conversion value (.notABlock conversion.typeId value.classify)
  | field {conversion : Conversion} {block : Entries Value} {error : ExpandError}
      {earlier later : List (FieldConversion Conversion)}
      {field : FieldConversion Conversion}
      {value : Value}
      (place : conversion.fields = earlier ++ field :: later)
      (before : ∀ other ∈ earlier, other.accepts block = true)
      (reads : field.readsInput = true)
      (found : block.get? field.external = some value)
      (rejected : RejectsUnder field.external field.shape value error) :
      Rejects conversion (.block block) error

/-- A field rejects a value for an error. -/
inductive Conversion.RejectsUnder :
    String → FieldShape Conversion → Value → ExpandError → Prop where
  | scalar {name : String} {arity : Arity} {type : ScalarType} {value : Value}
      (single : arity = .plain ∨ arity = .pointer)
      (something : value.isNothing = false)
      (unsuited : value.suits type.kind = false) :
      RejectsUnder name ⟨arity, .scalar type⟩ value
        (.mismatch name (.scalar type.kind) value.classify)
  | noSingle {name : String} {arity : Arity} {nested : Conversion} {value : Value}
      (single : arity = .plain ∨ arity = .pointer)
      (something : value.isNothing = false)
      (other : value.classify ≠ .list) :
      RejectsUnder name ⟨arity, .struct nested⟩ value
        (.mismatch name .singleBlock value.classify)
  | tooMany {name : String} {arity : Arity} {nested : Conversion} {items : List Value}
      (single : arity = .plain ∨ arity = .pointer)
      (many : 2 ≤ items.length) :
      RejectsUnder name ⟨arity, .struct nested⟩ (.list items)
        (.tooManyBlocks name items.length)
  | block {name : String} {arity : Arity} {nested : Conversion} {only : Value}
      {error : ExpandError}
      (single : arity = .plain ∨ arity = .pointer)
      (something : only.classify ≠ .null)
      (rejected : Rejects nested only error) :
      RejectsUnder name ⟨arity, .struct nested⟩ (.list [only]) error
  | noList {name : String} {target : Target Conversion} {value : Value}
      (something : value.isNothing = false)
      (other : value.classify ≠ .list) :
      RejectsUnder name ⟨.list, target⟩ value (.mismatch name .list value.classify)
  | item {name : String} {target : Target Conversion} {error : ExpandError}
      {earlier later : List Value}
      {item : Value}
      (before : ∀ other ∈ earlier, Conversion.acceptsElement target other = true)
      (rejected : RejectsElement name target item error) :
      RejectsUnder name ⟨.list, target⟩ (.list (earlier ++ item :: later)) error
  | noMap {name : String} {target : Target Conversion} {value : Value}
      (something : value.isNothing = false)
      (other : value.classify ≠ .block) :
      RejectsUnder name ⟨.map, target⟩ value (.mismatch name .map value.classify)
  | entry {name : String} {target : Target Conversion} {error : ExpandError}
      {earlier later : Entries Value}
      {entry : String × Value}
      (before : ∀ other ∈ earlier, Conversion.acceptsElement target other.2 = true)
      (rejected : RejectsElement name target entry.2 error) :
      RejectsUnder name ⟨.map, target⟩ (.block (earlier ++ entry :: later)) error

/-- A value is rejected in a list or a map for an error. -/
inductive Conversion.RejectsElement :
    String → Target Conversion → Value → ExpandError → Prop where
  | nothing {name : String} {type : ScalarType} {value : Value}
      (nothing : value.isNothing = true) :
      RejectsElement name (.scalar type) value
        (.mismatch name (.element type.kind) value.classify)
  | scalar {name : String} {type : ScalarType} {value : Value}
      (something : value.isNothing = false)
      (unsuited : value.suits type.kind = false) :
      RejectsElement name (.scalar type) value
        (.mismatch name (.scalar type.kind) value.classify)
  | struct {name : String} {nested : Conversion} {value : Value} {error : ExpandError}
      (rejected : Rejects nested value error) :
      RejectsElement name (.struct nested) value error

end

/-- A field rejects what a block gives it for an error. -/
def FieldConversion.Rejects
    (field : FieldConversion Conversion)
    (block : Entries Value)
    (error : ExpandError) :
    Prop :=
  field.readsInput = true ∧ ∃ value, block.get? field.external = some value ∧
    Conversion.RejectsUnder field.external field.shape value error

private theorem Conversion.rejects_block
    {conversion : Conversion}
    {block : Entries Value}
    {error : ExpandError} :
    conversion.Rejects (.block block) error ↔
      Results.FirstRejected (fun field => field.accepts block = true)
        (fun field => field.Rejects block) conversion.fields error := by
  constructor
  · intro rejected
    cases rejected with
    | noBlock other => exact absurd rfl other
    | field place before reads found rejected =>
        exact ⟨_, _, _, place, before, reads, _, found, rejected⟩
  · rintro ⟨earlier, field, later, place, before, reads, value, found, rejected⟩
    exact .field place before reads found rejected

/-! ## Expanding decides between the two -/

private theorem Value.suits_iff {kind : ScalarKind} {value : Value} :
    value.suits kind = true ↔ ∃ scalar, value.scalarAs? kind = some scalar := by
  cases value with
  | scalar held => cases held <;> cases kind <;> simp [Value.suits, Value.scalarAs?, Scalar.kind]
  | _ => simp [Value.suits, Value.scalarAs?]

private theorem Value.scalarAs?_eq_none {kind : ScalarKind} {value : Value} :
    value.scalarAs? kind = none ↔ value.suits kind = false := by
  rw [Option.eq_none_iff_forall_ne_some, ← Bool.not_eq_true, Value.suits_iff, not_exists]

private theorem Value.isNothing_of_suits {kind : ScalarKind} {value : Value}
    (suited : value.suits kind = true) :
    value.isNothing = false := by
  cases value with
  | scalar held => rfl
  | _ => cases suited

theorem Value.eq_block_of_classify {value : Value} (isBlock : value.classify = .block) :
    ∃ block, value = .block block := by
  cases value with
  | block entries => exact ⟨entries, rfl⟩
  | _ => cases isBlock

theorem Value.classify_list (items : List Value) : (Value.list items).classify = .list :=
  rfl

private theorem Value.present?_some (value : Value) :
    Value.present? (some value) = if value.isNothing then none else some value :=
  rfl

namespace Conversion

open Results (Decides)

section Places

variable {name : String} {shape : FieldShape Conversion} {value : Value} {error : ExpandError}

private theorem RejectsUnder.isNothing_eq (rejected : RejectsUnder name shape value error) :
    value.isNothing = false := by
  cases rejected with
  | scalar _ something _ => exact something
  | noSingle _ something _ => exact something
  | @tooMany _ _ _ items _ many =>
      cases items with
      | nil => cases many
      | cons => rfl
  | block => rfl
  | noList something _ => exact something
  | item => simp [Value.isNothing]
  | noMap something _ => exact something
  | entry => rfl

end Places

section Decisions

variable
  {name : String}
  {arity : Arity}
  {type : ScalarType}
  {nested : Conversion}
  {target : Target Conversion}
  {value : Value}

private theorem acceptsUnder_scalar (single : arity = .plain ∨ arity = .pointer) :
    acceptsUnder ⟨arity, .scalar type⟩ value = (value.isNothing || value.suits type.kind) := by
  rcases single with rfl | rfl
  all_goals
    cases value with
    | list items => cases items <;> rfl
    | _ => rfl

private theorem rejectsUnder_scalar
    (single : arity = .plain ∨ arity = .pointer)
    {error : ExpandError} :
    RejectsUnder name ⟨arity, .scalar type⟩ value error ↔
      value.isNothing = false ∧ value.suits type.kind = false ∧
        .mismatch name (.scalar type.kind) value.classify = error := by
  constructor
  · intro rejected
    cases rejected with
    | scalar _ something unsuited => exact ⟨something, unsuited, rfl⟩
    | _ => simp at single
  · rintro ⟨something, unsuited, rfl⟩
    exact .scalar single something unsuited

private theorem readScalar_decides (single : arity = .plain ∨ arity = .pointer) :
    Decides (acceptsUnder ⟨arity, .scalar type⟩ value = true)
      (RejectsUnder name ⟨arity, .scalar type⟩ value)
      (Value.readScalar name type.kind (some value)) := by
  rw [Value.readScalar, Value.present?_some, acceptsUnder_scalar single]
  cases nothing : value.isNothing with
  | true =>
      refine .ok rfl fun error rejected => ?_
      exact Bool.noConfusion (rejected.isNothing_eq.symm.trans nothing)
  | false =>
      simp only [Bool.false_eq_true, if_false, Bool.false_or]
      cases held : value.scalarAs? type.kind with
      | some scalar =>
          have suited : value.suits type.kind = true := Value.suits_iff.mpr ⟨scalar, held⟩
          refine .ok suited fun error rejected => ?_
          obtain ⟨_, unsuited, _⟩ := (rejectsUnder_scalar single).mp rejected
          exact Bool.noConfusion (unsuited.symm.trans suited)
      | none =>
          have unsuited := Value.scalarAs?_eq_none.mp held
          refine .error (Bool.not_eq_true _ ▸ unsuited) fun error => ?_
          rw [rejectsUnder_scalar single]
          simp [nothing, unsuited]

private theorem acceptsUnder_single (single : arity = .plain ∨ arity = .pointer) :
    acceptsUnder ⟨arity, .struct nested⟩ value = true ↔
      value.isNothing = true ∨
        ∃ only, value = .list [only] ∧ (only.classify = .null ∨ nested.accepts only = true) := by
  rcases single with rfl | rfl
  all_goals
    cases value with
    | list items =>
        rcases items with _ | ⟨only, _ | ⟨second, rest⟩⟩
        case nil => exact iff_of_true rfl (.inl rfl)
        case cons.nil =>
          change (only.classify == .null || nested.accepts only) = true ↔ _
          simp [Value.isNothing]
        case cons.cons => exact iff_of_false Bool.false_ne_true (by simp [Value.isNothing])
    | null => exact iff_of_true rfl (.inl rfl)
    | _ => exact iff_of_false Bool.false_ne_true (by simp [Value.isNothing])

private theorem rejectsUnder_single
    (single : arity = .plain ∨ arity = .pointer)
    {error : ExpandError} :
    RejectsUnder name ⟨arity, .struct nested⟩ value error ↔
      (value.isNothing = false ∧ value.classify ≠ .list ∧
          .mismatch name .singleBlock value.classify = error) ∨
        (∃ items, value = .list items ∧ 2 ≤ items.length ∧
          .tooManyBlocks name items.length = error) ∨
        ∃ only, value = .list [only] ∧ only.classify ≠ .null ∧ nested.Rejects only error := by
  constructor
  · intro rejected
    cases rejected with
    | noSingle _ something other => exact .inl ⟨something, other, rfl⟩
    | tooMany _ many => exact .inr (.inl ⟨_, rfl, many, rfl⟩)
    | block _ something rejected => exact .inr (.inr ⟨_, rfl, something, rejected⟩)
    | _ => simp at single
  · rintro (⟨something, other, rfl⟩ | ⟨items, rfl, many, rfl⟩ | ⟨only, rfl, something, rejected⟩)
    · exact .noSingle single something other
    · exact .tooMany single many
    · exact .block single something rejected

/-- What stands where a single block belongs is a list of at most one, or is rejected. -/
theorem readSingle_decides
    (single : arity = .plain ∨ arity = .pointer)
    (below : ∀ part, Decides (nested.accepts part = true) (nested.Rejects part)
      (nested.expand part)) :
    Decides (acceptsUnder ⟨arity, .struct nested⟩ value = true)
      (RejectsUnder name ⟨arity, .struct nested⟩ value)
      (Value.readSingle name nested.expand (some value)) := by
  refine Decides.congr ?_ (acceptsUnder_single single).symm
    fun error => (rejectsUnder_single single).symm
  cases value with
  | null => exact .ok (.inl rfl) (by simp [Value.isNothing])
  | scalar held =>
      exact .error (by simp [Value.isNothing]) (by simp [Value.isNothing, Value.classify])
  | block entries =>
      exact .error (by simp [Value.isNothing]) (by simp [Value.isNothing, Value.classify])
  | list items =>
      rcases items with _ | ⟨only, _ | ⟨second, rest⟩⟩
      case nil => exact .ok (.inl rfl) (by simp [Value.isNothing])
      case cons.nil =>
        by_cases isNull : only.classify = .null
        case pos =>
          obtain rfl : only = .null := by
            cases only with
            | null => rfl
            | _ => cases isNull
          exact .ok (by simp [Value.classify]) (by simp [Value.classify, Value.isNothing])
        case neg =>
          have readOne : Value.readSingle name nested.expand (some (.list [only])) =
              (nested.expand only).map some := by
            cases only with
            | null => exact absurd rfl isNull
            | _ => rfl
          rw [readOne]
          exact (below only).map.congr (by simp [isNull, Value.isNothing])
            (by simp [isNull, Value.classify_list])
      case cons.cons =>
        have readMany :
            Value.readSingle name nested.expand (some (.list (only :: second :: rest))) =
              .error (.tooManyBlocks name (rest.length + 2)) := by
          cases only <;> rfl
        rw [readMany]
        exact .error (by simp [Value.isNothing]) (by simp [Value.classify_list])

private theorem readTarget_decides
    (single : arity = .plain ∨ arity = .pointer)
    (below : ∀ inner, target.nested? = some inner → ∀ part,
      Decides (inner.accepts part = true) (inner.Rejects part) (inner.expand part)) :
    Decides (acceptsUnder ⟨arity, target⟩ value = true)
      (RejectsUnder name ⟨arity, target⟩ value)
      (readTarget name target (some value)) := by
  cases target with
  | scalar type => exact (readScalar_decides single).map
  | struct nested => exact (readSingle_decides single (below nested rfl)).map

private theorem readElement_decides :
    Decides (acceptsElement (.scalar type) value = true)
      (RejectsElement name (.scalar type) value)
      (Value.readElement name type.kind value) := by
  rw [Value.readElement, Value.readScalar, Value.present?_some, acceptsElement]
  cases nothing : value.isNothing with
  | true =>
      refine .error (fun suited => ?_) fun error => ⟨fun rejected => ?_, fun rejected => ?_⟩
      · exact Bool.noConfusion ((Value.isNothing_of_suits suited).symm.trans nothing)
      · cases rejected with
        | nothing => rfl
        | scalar something _ => exact Bool.noConfusion (something.symm.trans nothing)
      · subst rejected
        exact .nothing nothing
  | false =>
      simp only [Bool.false_eq_true, if_false]
      cases held : value.scalarAs? type.kind with
      | some scalar =>
          have suited : value.suits type.kind = true := Value.suits_iff.mpr ⟨scalar, held⟩
          refine .ok suited fun error rejected => ?_
          cases rejected with
          | nothing isNothing => exact Bool.noConfusion (nothing.symm.trans isNothing)
          | scalar _ unsuited => exact Bool.noConfusion (unsuited.symm.trans suited)
      | none =>
          have unsuited := Value.scalarAs?_eq_none.mp held
          refine .error (Bool.not_eq_true _ ▸ unsuited) fun error =>
            ⟨fun rejected => ?_, fun rejected => ?_⟩
          · cases rejected with
            | nothing isNothing => exact Bool.noConfusion (nothing.symm.trans isNothing)
            | scalar => rfl
          · subst rejected
            exact .scalar nothing unsuited

private theorem expandElement_decides
    (below : ∀ inner, target.nested? = some inner → ∀ part,
      Decides (inner.accepts part = true) (inner.Rejects part) (inner.expand part)) :
    Decides (acceptsElement target value = true) (RejectsElement name target value)
      (expandElement name target value) := by
  cases target with
  | scalar type =>
      rw [expandElement_scalar]
      exact readElement_decides.map
  | struct nested =>
      rw [expandElement_struct]
      refine (below nested rfl value).map.congr (by rw [acceptsElement]) fun error => ?_
      exact ⟨.struct, fun | .struct rejected => rejected⟩

private theorem acceptsUnder_list :
    acceptsUnder ⟨.list, target⟩ value = true ↔
      value.isNothing = true ∨
        ∃ items, value = .list items ∧ ∀ item ∈ items, acceptsElement target item = true := by
  cases value with
  | list items =>
      cases items with
      | nil => exact iff_of_true rfl (.inl rfl)
      | cons item rest =>
          change (item :: rest).all (acceptsElement target) = true ↔ _
          simp [Value.isNothing]
  | null => exact iff_of_true rfl (.inl rfl)
  | _ => exact iff_of_false Bool.false_ne_true (by simp [Value.isNothing])

private theorem rejectsUnder_list {error : ExpandError} :
    RejectsUnder name ⟨.list, target⟩ value error ↔
      (value.isNothing = false ∧ value.classify ≠ .list ∧
          .mismatch name .list value.classify = error) ∨
        ∃ items, value = .list items ∧
          Results.FirstRejected (fun item => acceptsElement target item = true)
            (RejectsElement name target) items error := by
  constructor
  · intro rejected
    cases rejected with
    | scalar single | noSingle single | tooMany single | block single => simp at single
    | noList something other => exact .inl ⟨something, other, rfl⟩
    | item before rejected => exact .inr ⟨_, rfl, _, _, _, rfl, before, rejected⟩
  · rintro (⟨something, other, rfl⟩ | ⟨_, rfl, earlier, item, later, rfl, before, rejected⟩)
    · exact .noList something other
    · exact .item before rejected

/-- A list is read when all of its items are. -/
theorem readList_decides
    (below : ∀ item, Decides (acceptsElement target item = true)
      (RejectsElement name target item) (expandElement name target item)) :
    Decides (acceptsUnder ⟨.list, target⟩ value = true)
      (RejectsUnder name ⟨.list, target⟩ value)
      (Value.readList name (expandElement name target) (some value)) := by
  refine Decides.congr ?_ acceptsUnder_list.symm fun error => rejectsUnder_list.symm
  cases value with
  | null => exact .ok (.inl rfl) (by simp [Value.isNothing])
  | list items =>
      rw [Value.readList_list]
      refine (Decides.mapM fun item _ => below item).congr ?_ ?_
      · cases items <;> simp [Value.isNothing]
      · simp [Value.classify_list]
  | _ => exact .error (by simp [Value.isNothing]) (by simp [Value.isNothing, Value.classify])

private theorem acceptsUnder_map :
    acceptsUnder ⟨.map, target⟩ value = true ↔
      value.isNothing = true ∨
        ∃ entries : Entries Value, value = .block entries ∧
          ∀ entry ∈ entries, acceptsElement target entry.2 = true := by
  cases value with
  | block entries =>
      change entries.all (fun entry => acceptsElement target entry.2) = true ↔ _
      simp [Value.isNothing]
  | list items =>
      cases items with
      | nil => exact iff_of_true rfl (.inl rfl)
      | cons item rest => exact iff_of_false Bool.false_ne_true (by simp [Value.isNothing])
  | null => exact iff_of_true rfl (.inl rfl)
  | scalar held => exact iff_of_false Bool.false_ne_true (by simp [Value.isNothing])

private theorem rejectsUnder_map {error : ExpandError} :
    RejectsUnder name ⟨.map, target⟩ value error ↔
      (value.isNothing = false ∧ value.classify ≠ .block ∧
          .mismatch name .map value.classify = error) ∨
        ∃ entries : Entries Value, value = .block entries ∧
          Results.FirstRejected (fun entry => acceptsElement target entry.2 = true)
            (fun entry => RejectsElement name target entry.2) entries error := by
  constructor
  · intro rejected
    cases rejected with
    | scalar single | noSingle single | tooMany single | block single => simp at single
    | noMap something other => exact .inl ⟨something, other, rfl⟩
    | entry before rejected => exact .inr ⟨_, rfl, _, _, _, rfl, before, rejected⟩
  · rintro (⟨something, other, rfl⟩ | ⟨_, rfl, earlier, entry, later, rfl, before, rejected⟩)
    · exact .noMap something other
    · exact .entry before rejected

/-- A map is read when the values of all of its entries are. -/
theorem readMap_decides
    (below : ∀ item, Decides (acceptsElement target item = true)
      (RejectsElement name target item) (expandElement name target item)) :
    Decides (acceptsUnder ⟨.map, target⟩ value = true)
      (RejectsUnder name ⟨.map, target⟩ value)
      (Value.readMap name (expandElement name target) (some value)) := by
  refine Decides.congr ?_ acceptsUnder_map.symm fun error => rejectsUnder_map.symm
  cases value with
  | null => exact .ok (.inl rfl) (by simp [Value.isNothing])
  | scalar held =>
      exact .error (by simp [Value.isNothing]) (by simp [Value.isNothing, Value.classify])
  | list items =>
      cases items with
      | nil => exact .ok (.inl rfl) (by simp [Value.isNothing])
      | cons item rest =>
          exact .error (by simp [Value.isNothing]) (by simp [Value.isNothing, Value.classify])
  | block entries =>
      have readAll : Value.readMap name (expandElement name target) (some (.block entries)) =
          entries.mapM fun entry => (expandElement name target entry.2).map (Prod.mk entry.1) :=
        Value.readEntries_eq_mapM _ entries
      rw [readAll]
      refine (Decides.mapM fun entry _ => (below entry.2).map).congr ?_ ?_
      · simp [Value.isNothing]
      · simp [Value.classify]

end Decisions

/-! ## Shapes, fields and conversions -/

section Nested

variable {name : String} {value : Value}

private theorem expandShape_decides
    (shape : FieldShape Conversion)
    (below : ∀ inner, shape.nested? = some inner → ∀ part,
      Decides (inner.accepts part = true) (inner.Rejects part) (inner.expand part)) :
    Decides (acceptsUnder shape value = true) (RejectsUnder name shape value)
      (expandShape name shape (some value)) := by
  obtain ⟨arity, target⟩ := shape
  cases arity with
  | plain =>
      rw [expandShape_plain]
      exact (readTarget_decides (.inl rfl) below).map
  | pointer =>
      rw [expandShape_pointer]
      exact (readTarget_decides (.inr rfl) below).map
  | list =>
      rw [expandShape_list]
      exact (readList_decides fun item => expandElement_decides below).map
  | map =>
      rw [expandShape_map]
      exact (readMap_decides fun item => expandElement_decides below).map

private theorem expandField_decides
    (field : FieldConversion Conversion)
    (block : Entries Value)
    (below : ∀ inner, field.shape.nested? = some inner → ∀ part,
      Decides (inner.accepts part = true) (inner.Rejects part) (inner.expand part)) :
    Decides (field.accepts block = true) (field.Rejects block) (field.expand block) := by
  unfold FieldConversion.accepts FieldConversion.Rejects FieldConversion.expand
  cases field.readsInput with
  | false => exact .ok rfl (by simp)
  | true =>
      cases found : block.get? field.external with
      | none =>
          have missing : expandShape field.external field.shape none =
              .ok (zeroShape field.shape) :=
            expandShape_of_not_given (FieldShape.given?_of_not_present rfl)
          simp only [if_true, missing]
          exact .ok rfl (by simp)
      | some value => exact (expandShape_decides field.shape below).congr (by simp) (by simp)

theorem expand_of_not_block
    (conversion : Conversion)
    (other : value.classify ≠ .block) :
    conversion.expand value = .error (.notABlock conversion.typeId value.classify) := by
  rw [expand_eq]
  cases value with
  | block entries => exact absurd rfl other
  | _ => rfl

private theorem rejects_of_not_block
    {conversion : Conversion}
    (other : value.classify ≠ .block)
    {error : ExpandError} :
    conversion.Rejects value error ↔ .notABlock conversion.typeId value.classify = error := by
  constructor
  · intro rejected
    cases rejected with
    | noBlock => rfl
    | field => exact absurd rfl other
  · rintro rfl
    exact .noBlock other

private theorem eq_block_of_accepts
    {conversion : Conversion}
    (accepted : conversion.accepts value = true) :
    ∃ block, value = .block block := by
  cases value with
  | block entries => exact ⟨entries, rfl⟩
  | _ =>
      cases conversion
      simp [accepts] at accepted

/-- A conversion expands exactly what it accepts, and fails with exactly the error that it
rejects a value for. -/
theorem expand_decides (conversion : Conversion) (value : Value) :
    Decides (conversion.accepts value = true) (conversion.Rejects value)
      (conversion.expand value) := by
  induction conversion using Conversion.induction generalizing value with
  | step conversion inductionHypothesis =>
      by_cases isBlock : value.classify = .block
      case pos =>
        obtain ⟨block, rfl⟩ := Value.eq_block_of_classify isBlock
        have ofField : ∀ field ∈ conversion.fields,
            Decides (field.accepts block = true) (field.Rejects block) (field.expand block) :=
          fun field member => expandField_decides field block fun inner nests =>
            inductionHypothesis inner (mem_nested.mpr ⟨field, member, nests⟩)
        rw [expand_block]
        refine (Decides.mapM fun field member => (ofField field member).map).map.congr ?_ ?_
        · exact accepts_block.symm
        · exact fun error => rejects_block.symm
      case neg =>
        rw [expand_of_not_block conversion isBlock]
        refine .error (fun accepted => ?_) fun error => rejects_of_not_block isBlock
        obtain ⟨block, rfl⟩ := eq_block_of_accepts accepted
        exact isBlock rfl

end Nested

end Conversion

/-! ## Where an error comes from -/

/-- The values that stand directly in a value. -/
def Value.parts : Value → List Value
  | .list items => items
  | .block entries => entries.map Prod.snd
  | _ => []

/-- A value is another one or stands inside it, at any depth. -/
def Value.Within (inner outer : Value) : Prop :=
  Relation.ReflTransGen (fun part value => part ∈ value.parts) inner outer

private theorem Value.mem_parts_of_get? {block : Entries Value} {name : String} {value : Value}
    (found : block.get? name = some value) :
    value ∈ (Value.block block).parts :=
  List.mem_map_of_mem (Entries.mem_of_get? found)

namespace Conversion

private theorem RejectsElement.own_or_nested
    {name : String}
    {target : Target Conversion}
    {value : Value}
    {error : ExpandError}
    (rejected : RejectsElement name target value error) :
    (∃ wanted found, error = .mismatch name wanted found) ∨
      ∃ inner, target.nested? = some inner ∧ inner.Rejects value error := by
  cases rejected with
  | nothing => exact .inl ⟨_, _, rfl⟩
  | scalar => exact .inl ⟨_, _, rfl⟩
  | struct rejected => exact .inr ⟨_, rfl, rejected⟩

/-- The error for a field is its own, or one of a conversion that it nests for a value that
stands inside. -/
theorem RejectsUnder.own_or_nested
    {name : String}
    {shape : FieldShape Conversion}
    {value : Value}
    {error : ExpandError}
    (rejected : RejectsUnder name shape value error) :
    (∃ wanted found, error = .mismatch name wanted found) ∨
      (∃ items, value = .list items ∧ 2 ≤ items.length ∧
        error = .tooManyBlocks name items.length) ∨
      ∃ inner, shape.nested? = some inner ∧ ∃ part ∈ value.parts, inner.Rejects part error := by
  cases rejected with
  | scalar | noSingle | noList | noMap => exact .inl ⟨_, _, rfl⟩
  | tooMany _ many => exact .inr (.inl ⟨_, rfl, many, rfl⟩)
  | block _ _ rejected => exact .inr (.inr ⟨_, rfl, _, List.mem_singleton_self _, rejected⟩)
  | item _ rejected =>
      rcases rejected.own_or_nested with mismatch | ⟨inner, nests, below⟩
      · exact .inl mismatch
      · exact .inr (.inr ⟨inner, nests, _, by simp [Value.parts], below⟩)
  | entry _ rejected =>
      rcases rejected.own_or_nested with mismatch | ⟨inner, nests, below⟩
      · exact .inl mismatch
      · exact .inr (.inr ⟨inner, nests, _, by simp [Value.parts], below⟩)

/-- Only a conversion to which no block is given says so: this one, or one nested in it. -/
theorem Rejects.notABlock_origin
    {conversion : Conversion}
    {value : Value}
    {type : TypeId}
    {found : ValueClass}
    (rejected : conversion.Rejects value (.notABlock type found)) :
    value.classify ≠ .block ∧ type = conversion.typeId ∨
      ∃ inner, Relation.TransGen (fun nested outer => nested ∈ outer.nested) inner conversion ∧
        inner.typeId = type := by
  induction conversion using Conversion.induction generalizing value with
  | step conversion inductionHypothesis =>
      cases rejected with
      | noBlock other => exact .inl ⟨other, rfl⟩
      | field place _ _ _ rejected =>
          obtain ⟨_, _, impossible⟩ | ⟨_, _, _, impossible⟩ | ⟨inner, nests, part, _, below⟩ :=
            rejected.own_or_nested
          · cases impossible
          · cases impossible
          · have isNested : inner ∈ conversion.nested :=
              mem_nested.mpr ⟨_, by simp [place], nests⟩
            refine .inr ?_
            rcases inductionHypothesis inner isNested below with
              ⟨_, rfl⟩ | ⟨deeper, inside, named⟩
            · exact ⟨inner, .single isNested, rfl⟩
            · exact ⟨deeper, inside.tail isNested, named⟩

/-- Too many blocks are counted where they stand: inside the value there is a block with a
list of that many under the name. -/
theorem Rejects.tooManyBlocks_origin
    {conversion : Conversion}
    {value : Value}
    {name : String}
    {count : Nat}
    (rejected : conversion.Rejects value (.tooManyBlocks name count)) :
    2 ≤ count ∧ ∃ (block : Entries Value) (items : List Value),
      (Value.block block).Within value ∧ block.get? name = some (.list items) ∧
        items.length = count := by
  induction conversion using Conversion.induction generalizing value with
  | step conversion inductionHypothesis =>
      cases rejected with
      | field place _ _ found rejected =>
          obtain ⟨_, _, impossible⟩ | ⟨items, rfl, many, same⟩ |
            ⟨inner, nests, part, isPart, below⟩ := rejected.own_or_nested
          · cases impossible
          · obtain ⟨rfl, rfl⟩ := ExpandError.tooManyBlocks.inj same
            exact ⟨many, _, items, .refl, found, rfl⟩
          · have isNested : inner ∈ conversion.nested :=
              mem_nested.mpr ⟨_, by simp [place], nests⟩
            obtain ⟨many, deeper, items, inside, holds, counted⟩ :=
              inductionHypothesis inner isNested below
            exact ⟨many, deeper, items,
              (inside.tail isPart).tail (Value.mem_parts_of_get? found), holds, counted⟩

end Conversion

end BlockSchema
