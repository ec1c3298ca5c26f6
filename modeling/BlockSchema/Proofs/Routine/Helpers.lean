import BlockSchema.Proofs.Conversion.Settled

/-!
Contract: the helpers that emitted routines call.

The helpers for blocks, lists and maps are those that expanding uses itself. The helpers for
scalars are made for a base type of the model, and take a value of that type out of the scalar
that was read. A scalar that was read is always of the kind that was asked for, so there is a
value to be taken.
-/

set_option autoImplicit false

namespace BlockSchema

/-! ## Base types -/

namespace ScalarKind

/-- The base type of the model that holds the scalars of a kind. -/
def Base : ScalarKind → Type
  | .string => String
  | .int => Int64
  | .bool => Bool
  | .float => Binary64

/-- The value that a scalar holds, if it is of the kind. -/
def ofScalar? : (kind : ScalarKind) → Scalar → Option kind.Base
  | .string, .string value => some value
  | .int, .int value => some value
  | .bool, .bool value => some value
  | .float, .float value => some value
  | _, _ => none

def toScalar : (kind : ScalarKind) → kind.Base → Scalar
  | .string, value => .string value
  | .int, value => .int value
  | .bool, value => .bool value
  | .float, value => .float value

/-- The default value of the base type. -/
def blank : (kind : ScalarKind) → kind.Base
  | .string => ""
  | .int => (0 : Int64)
  | .bool => false
  | .float => Binary64.zero

theorem toScalar_blank (kind : ScalarKind) : kind.toScalar kind.blank = .zero kind := by
  cases kind <;> rfl

theorem ofScalar?_eq_some {kind : ScalarKind} {scalar : Scalar} {value : kind.Base} :
    kind.ofScalar? scalar = some value ↔ kind.toScalar value = scalar := by
  constructor
  · intro held
    cases kind <;> cases scalar <;> cases held <;> rfl
  · rintro rfl
    cases kind <;> rfl

/-- A scalar of the kind holds a value. -/
theorem exists_toScalar {kind : ScalarKind} {scalar : Scalar} (same : scalar.kind = kind) :
    ∃ value : kind.Base, kind.toScalar value = scalar := by
  subst same
  cases scalar with
  | _ value => exact ⟨value, rfl⟩

end ScalarKind

/-! ## Scalars -/

namespace Helper

/-- Reads a value of a base type, if there is one. -/
def optionalScalar (kind : ScalarKind) (field : String) (input : Option Value) :
    Expanded (Option kind.Base) :=
  (Value.readScalar field kind input).map fun read => read.bind kind.ofScalar?

/-- Reads a value of a base type; the default one when there is none. -/
def scalar (kind : ScalarKind) (field : String) (input : Option Value) : Expanded kind.Base :=
  (optionalScalar kind field input).map fun read => read.getD kind.blank

/-- Reads an element of a base type. -/
def element (kind : ScalarKind) (field : String) (input : Value) : Expanded kind.Base := do
  let read ← Value.readElement field kind input
  match kind.ofScalar? read with
  | some value => return value
  | none => .error (.mismatch field (.scalar kind) input.classify)

end Helper

section Reading

variable {kind : ScalarKind} {field : String}

/-- A scalar that is read is of the kind that was asked for. -/
theorem Value.kind_of_readScalar
    {input : Option Value}
    {scalar : Scalar}
    (isRead : Value.readScalar field kind input = .ok (some scalar)) :
    scalar.kind = kind := by
  rcases Value.readScalar_eq_ok.mp isRead with ⟨_, impossible⟩ | ⟨_, _, _, held, same⟩
  · cases impossible
  · obtain rfl := Option.some.inj same
    exact (Value.scalarAs?_eq_some held).1

theorem Value.kind_of_readElement
    {input : Value}
    {scalar : Scalar}
    (isRead : Value.readElement field kind input = .ok scalar) :
    scalar.kind = kind :=
  (Value.scalarAs?_eq_some (Value.readElement_eq_ok.mp isRead)).1

namespace Helper

/-- A scalar that is there is there as a value of the base type. -/
theorem optionalScalar_agrees (kind : ScalarKind) (field : String) (input : Option Value) :
    Results.Agree (fun value scalar => value.map kind.toScalar = scalar)
      (optionalScalar kind field input) (Value.readScalar field kind input) := by
  unfold optionalScalar
  cases isRead : Value.readScalar field kind input with
  | error error => exact .error error
  | ok read =>
      refine .ok ?_
      cases read with
      | none => rfl
      | some scalar =>
          obtain ⟨value, rfl⟩ := ScalarKind.exists_toScalar (Value.kind_of_readScalar isRead)
          change (kind.ofScalar? (kind.toScalar value)).map kind.toScalar = _
          rw [ScalarKind.ofScalar?_eq_some.mpr rfl]
          rfl

theorem scalar_agrees (kind : ScalarKind) (field : String) (input : Option Value) :
    Results.Agree (fun value scalar => kind.toScalar value = scalar.getD (.zero kind))
      (scalar kind field input) (Value.readScalar field kind input) := by
  unfold scalar
  have agree := optionalScalar_agrees kind field input
  generalize optionalScalar kind field input = helped at agree
  generalize Value.readScalar field kind input = read at agree
  cases agree with
  | error error => exact .error error
  | @ok value scalar same =>
      refine .ok ?_
      subst same
      cases value with
      | none => exact kind.toScalar_blank
      | some value => rfl

/-- No element comes to the second refusal. -/
theorem element_agrees (kind : ScalarKind) (field : String) (input : Value) :
    Results.Agree (fun value scalar => kind.toScalar value = scalar)
      (element kind field input) (Value.readElement field kind input) := by
  unfold element
  cases isRead : Value.readElement field kind input with
  | error error => exact .error error
  | ok scalar =>
      obtain ⟨value, rfl⟩ := ScalarKind.exists_toScalar (Value.kind_of_readElement isRead)
      change Results.Agree _ (match kind.ofScalar? (kind.toScalar value) with
        | some value => pure value
        | none => _) _
      rw [ScalarKind.ofScalar?_eq_some.mpr rfl]
      exact .ok rfl

end Helper

end Reading

/-! ## Blocks, lists and maps -/

section Agreement

variable
  {α β : Type}
  {related : α → β → Prop}
  {read : Value → Expanded α}
  {other : Value → Expanded β}

theorem Value.readSingle_agrees
    (agree : ∀ value, Results.Agree related (read value) (other value))
    (field : String)
    (input : Option Value) :
    Results.Agree (Option.Rel related)
      (Value.readSingle field read input) (Value.readSingle field other input) := by
  unfold Value.readSingle
  split
  next => exact .ok .none
  next => exact .ok .none
  next only _ _ => exact .mapLeft (.mapRight ((agree only).imp fun _ _ holds => .some holds))
  next => exact .error _
  next => exact .error _

theorem Value.readList_agrees
    (agree : ∀ value, Results.Agree related (read value) (other value))
    (field : String)
    (input : Option Value) :
    Results.Agree (List.Forall₂ related)
      (Value.readList field read input) (Value.readList field other input) := by
  unfold Value.readList
  split
  next => exact .ok .nil
  next items _ =>
    rw [Value.readItems_eq_mapM, Value.readItems_eq_mapM]
    exact .mapM fun item _ => agree item
  next => exact .error _

theorem Value.readMap_agrees
    (agree : ∀ value, Results.Agree related (read value) (other value))
    (field : String)
    (input : Option Value) :
    Results.Agree (Entries.Alike related)
      (Value.readMap field read input) (Value.readMap field other input) := by
  unfold Value.readMap
  split
  next => exact .ok .nil
  next entries _ =>
    rw [Value.readEntries_eq_mapM, Value.readEntries_eq_mapM]
    exact .mapM fun entry _ =>
      .mapLeft (.mapRight ((agree entry.2).imp fun _ _ holds => ⟨rfl, holds⟩))
  next => exact .error _

end Agreement

end BlockSchema
