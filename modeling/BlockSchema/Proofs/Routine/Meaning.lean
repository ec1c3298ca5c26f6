import BlockSchema.Conversion.Flatten
import BlockSchema.Proofs.Name.Member
import BlockSchema.Proofs.Routine.Helpers
import BlockSchema.Routine.Basic

/-!
Contract: what emitted routines do, given the model that they are compiled with.

An expression means the composition of the helpers that it calls. Where it leaves something
to the model, the member that it is for decides: which values a conversion gives, into what
collection a map is put, and what the default value is. Routines call one another by their
names, so the routines of a program mean functions that satisfy all their definitions, if
there are any.
-/

set_option autoImplicit false

namespace BlockSchema

/-! ## The model -/

/-- A value of the model's own types; `Named` has the values of its named scalar types. -/
inductive ModelValue (Named : Type) where
  | base (kind : ScalarKind) (value : kind.Base)
  | named (value : Named)
  | option (value : Option (ModelValue Named))
  /-- A structure, by its name and the identifiers of its members. -/
  | record (struct : String) (members : List (String × ModelValue Named))
  | list (items : List (ModelValue Named))
  /-- A map collection, as the entries that it yields in turn. -/
  | map (entries : List (String × ModelValue Named))

instance (Named : Type) : Inhabited (ModelValue Named) := ⟨.option none⟩

/-- A member of a structure of the model; the type that it has there decides what source
means that leaves a type open. -/
structure MemberPlace where
  struct : String
  member : String

/-- What emitted source takes from the model. -/
structure Model where
  /-- The values of named scalar types. -/
  Named : Type
  wrap : MemberPlace → (kind : ScalarKind) → kind.Base → Named
  /-- The value of a base type that one of a named type converts to, if it does. -/
  unwrap : (kind : ScalarKind) → Named → Option kind.Base
  /-- The collection of a member that some entries are put into. -/
  collect : MemberPlace → Entries (ModelValue Named) → Entries (ModelValue Named)
  /-- The default value of the type that a member has. -/
  memberDefault : MemberPlace → ModelValue Named
  /-- The default structure of a name. -/
  default : String → ModelValue Named

namespace Model

abbrev Datum (model : Model) := ModelValue model.Named

/-- What a member takes for a value of a base type, converted or as it is. -/
def scalar
    (model : Model)
    (place : MemberPlace)
    (kind : ScalarKind)
    (converts : Bool)
    (value : kind.Base) :
    model.Datum :=
  if converts then .named (model.wrap place kind value) else .base kind value

/-- The scalar that a value of a scalar type holds. -/
def scalar? (model : Model) (type : ScalarType) : model.Datum → Option Scalar
  | .base kind value =>
      if type.named.isSome = false ∧ kind = type.kind then some (kind.toScalar value) else none
  | .named value =>
      if type.named.isSome then (model.unwrap type.kind value).map type.kind.toScalar else none
  | _ => none

theorem scalar?_scalar
    {model : Model}
    {place : MemberPlace}
    {type : ScalarType}
    (unwraps : ∀ value, model.unwrap type.kind (model.wrap place type.kind value) = some value)
    (value : type.kind.Base) :
    model.scalar? type (model.scalar place type.kind type.named.isSome value) =
      some (type.kind.toScalar value) := by
  unfold scalar
  split
  next named => simp [scalar?, named, unwraps]
  next plain => simp [scalar?, plain]

/-- The members of the default structure that are not among some others. -/
def rest (model : Model) (struct : String) (members : Entries model.Datum) :
    Entries model.Datum :=
  match model.default struct with
  | .record _ all => all.filter fun member => !members.keys.contains member.1
  | _ => []

end Model

/-! ## Expressions -/

/-- A value that is not of the type that the source gives to its place. No source that
compiles has one. -/
inductive Mistyped where
  | value
deriving DecidableEq, Repr

abbrev Written (α : Type) := Except Mistyped α

/-- The functions that source calls by their names, in each direction. -/
structure Functions (model : Model) where
  expand : String → Value → Expanded model.Datum
  flatten : String → model.Datum → Written Value

variable {model : Model}

def ElementReader.run (functions : Functions model) (place : MemberPlace) :
    ElementReader → Value → Expanded model.Datum
  | .scalar kind converts field, input =>
      (Helper.element kind field input).map (model.scalar place kind converts)
  | .routine name, input => functions.expand name input

/-- Reads the value of a member from a block. -/
def ReadExpr.run (functions : Functions model) (place : MemberPlace) (block : Entries Value) :
    ReadExpr → Expanded model.Datum
  | .scalar kind converts field =>
      (Helper.scalar kind field (block.get? field)).map (model.scalar place kind converts)
  | .optionalScalar kind converts field =>
      (Helper.optionalScalar kind field (block.get? field)).map fun read =>
        .option (read.map (model.scalar place kind converts))
  | .block routine field =>
      (Value.readSingle field (functions.expand routine) (block.get? field)).map fun read =>
        read.getD (model.memberDefault place)
  | .optionalBlock routine field =>
      (Value.readSingle field (functions.expand routine) (block.get? field)).map .option
  | .list field element =>
      (Value.readList field (element.run functions place) (block.get? field)).map .list
  | .map field element =>
      (Value.readMap field (element.run functions place) (block.get? field)).map fun entries =>
        .map (model.collect place entries)
  | .default => .ok (model.memberDefault place)

/-- Takes a scalar out of a value. A text cannot be taken out of its place as it is. -/
def Taking.run : Taking → model.Datum → Written Scalar
  | .plain, .base kind value =>
      if kind = .string then .error .value else .ok (kind.toScalar value)
  | .cloned, .base kind value => .ok (kind.toScalar value)
  | .converted kind, .named value =>
      match model.unwrap kind value with
      | some scalar => .ok (kind.toScalar scalar)
      | none => .error .value
  | _, _ => .error .value

def ElementWriter.run (functions : Functions model) :
    ElementWriter → model.Datum → Written Value
  | .scalar taking, value => (taking.run value).map .scalar
  | .routine name, value => functions.flatten name value

def WriteExpr.run (functions : Functions model) : WriteExpr → model.Datum → Written Value
  | .scalar taking, value => (taking.run value).map .scalar
  | .optionalScalar _, .option none => .ok .null
  | .optionalScalar taking, .option (some value) => (taking.run value).map .scalar
  | .block routine, value => (functions.flatten routine value).map Value.single
  | .optionalBlock _, .option none => .ok (Value.optionalSingle none)
  | .optionalBlock routine, .option (some value) =>
      (functions.flatten routine value).map fun block => Value.optionalSingle (some block)
  | .list element, .list items => (items.mapM (element.run functions)).map .list
  | .map element, .map entries =>
      (entries.mapM fun entry => (element.run functions entry.2).map (Prod.mk entry.1)).map
        fun written => .block (Entries.ofList written)
  | _, _ => .error .value

/-! ## Routines -/

namespace Routine

/-- The structure with some members, completed if the routine says so. -/
def complete (routine : Routine) (members : Entries model.Datum) : model.Datum :=
  .record routine.structName
    (members ++ if routine.completes then model.rest routine.structName members else [])

/-- The value of a member in the structure that is built. -/
def readMember
    (functions : Functions model)
    (struct : String)
    (block : Entries Value)
    (field : RoutineField) :
    Expanded model.Datum :=
  field.read.run functions ⟨struct, field.member⟩ block

/-- Expands a value, once all functions are known. -/
def expand (routine : Routine) (functions : Functions model) (input : Value) :
    Expanded model.Datum := do
  let block ← input.readBlock routine.typeId
  let members ← routine.fields.mapM fun field =>
    (readMember functions routine.structName block field).map (Prod.mk field.member)
  return routine.complete members

theorem expand_eq (routine : Routine) (functions : Functions model) (input : Value) :
    routine.expand functions input =
      input.readBlock routine.typeId >>= fun block =>
        (routine.fields.mapM fun field : RoutineField =>
          (readMember functions routine.structName block field).map
            (Prod.mk field.member)).map routine.complete :=
  rfl

/-- The value of a member in the block that is built. -/
def writeMember
    (functions : Functions model)
    (members : Entries model.Datum)
    (field : RoutineField) :
    Written Value :=
  match members.get? field.member with
  | some value => field.write.run functions value
  | none => .error .value

/-- Flattens a structure, once all functions are known. -/
def flatten (routine : Routine) (functions : Functions model) : model.Datum → Written Value
  | .record struct members =>
      if struct = routine.structName then
        (routine.fields.mapM fun field =>
            (writeMember functions members field).map (Prod.mk field.external)).map
          fun written => .block (Entries.ofList written)
      else .error .value
  | _ => .error .value

/-- The text of a routine gives the members of a structure, each once and by an identifier. -/
structure WellFormed (routine : Routine) : Prop where
  distinct : (routine.fields.map RoutineField.member).Nodup
  identifiers : ∀ member ∈ routine.fields.map RoutineField.member, Name.IsIdentifier member

/-- The functions of the routine's names are those that it defines. A text that is not
well-formed defines none. -/
structure Defines (routine : Routine) (functions : Functions model) : Prop where
  wellFormed : routine.WellFormed
  expand : functions.expand routine.expandName = routine.expand functions
  flatten : functions.flatten routine.flattenName = routine.flatten functions

end Routine

/-- The functions satisfy the definitions of all routines. -/
def Functions.Run (functions : Functions model) (program : List Routine) : Prop :=
  ∀ routine ∈ program, routine.Defines functions

end BlockSchema
