import BlockSchema.Directive.Basic
import BlockSchema.Entries
import BlockSchema.Text.Quoted

/-!
Contract: the directives of a type collected into one table, or the reason why they
do not fit together.

All names are checked first. The directives are then applied in order, which stops at
the first value that differs from one given before. What remains is checked on the
finished table: a type without a schema takes no field directives, and no field has
two effects that exclude each other.
-/

set_option autoImplicit false

namespace BlockSchema

/-- Why a registration is inconsistent. -/
inductive ConfigurationIssue where
  | unknownField (field directive : String)
  | conflict (field first second : String)
  | noSchemaWithFieldDirectives (directives : List String)
  | conflictingValues (directive first second : String)
  | duplicateExternalName (name first second : String)
  | invalidExternalName (name field : String)
  | duplicateRegistration (group : String)
  | unknownType (group : String)
deriving DecidableEq, Repr

/-- The directives of one type, collected. -/
structure DirectiveTable where
  revision : Option UInt32
  noSchema : Bool
  doc : Option DocWrapper
  effects : Entries FieldEffects
deriving DecidableEq, Repr

namespace DirectiveTable

def empty : DirectiveTable := ⟨none, false, none, []⟩

instance : Inhabited DirectiveTable := ⟨empty⟩

/-- The revision of the type, zero when none is given. -/
def version (table : DirectiveTable) : UInt32 :=
  table.revision.getD 0

/-- The effects on a field that some directive names. -/
def field? (table : DirectiveTable) (name : String) : Option FieldEffects :=
  table.effects.get? name

def effectsOn (table : DirectiveTable) (name : String) : FieldEffects :=
  (table.field? name).getD .none

def excludes (table : DirectiveTable) (name : String) : Bool :=
  (table.effectsOn name).excluded

def update
    (table : DirectiveTable)
    (name : String)
    (change : FieldEffects → FieldEffects) :
    DirectiveTable :=
  { table with effects := table.effects.insert name (change (table.effectsOn name)) }

/-- Two different values of one directive, the smaller one first. -/
def clash (directive first second : String) (inOrder : Bool) : ConfigurationIssue :=
  if inOrder then .conflictingValues directive first second
  else .conflictingValues directive second first

/-- Puts a value where at most one may be given. -/
def settle
    {α : Type}
    [DecidableEq α]
    (directive : String)
    (text : α → String)
    (before : α → α → Bool)
    (slot : Option α)
    (value : α) :
    Except ConfigurationIssue (Option α) :=
  match slot with
  | none => .ok (some value)
  | some existing =>
      if existing = value then .ok (some value)
      else .error (clash directive (text existing) (text value) (before existing value))

def textBefore (first second : String) : Bool :=
  decide (first < second)

def revisionBefore (first second : UInt32) : Bool :=
  decide (first < second)

def wrapperText (wrapper : DocWrapper) : String :=
  "header " ++ Text.quoted wrapper.header ++ ", footer " ++ Text.quoted wrapper.footer

def wrapperBefore (first second : DocWrapper) : Bool :=
  !decide (wrapperText second < wrapperText first)

def applyFieldVersion (version : UInt32) (table : DirectiveTable) :
    List String → Except ConfigurationIssue DirectiveTable
  | [] => .ok table
  | name :: rest => do
      let slot ← settle "field_version" (fun revision => toString revision.toNat)
        revisionBefore (table.effectsOn name).version version
      applyFieldVersion version
        (table.update name fun effects => { effects with version := slot }) rest

def apply (table : DirectiveTable) :
    Directive → Except ConfigurationIssue DirectiveTable
  | .mark kind names =>
      .ok (names.foldl (fun current name => current.update name (·.set kind)) table)
  | .rename declared name => do
      let slot ← settle "rename" id textBefore (table.effectsOn declared).rename name
      return table.update declared fun effects => { effects with rename := slot }
  | .fieldVersion version names => applyFieldVersion version table names
  | .version version => do
      let slot ← settle "version" (fun revision => toString revision.toNat)
        revisionBefore table.revision version
      return { table with revision := slot }
  | .noSchema => .ok { table with noSchema := true }
  | .doc wrapper => do
      let slot ← settle "doc" wrapperText wrapperBefore table.doc wrapper
      return { table with doc := slot }

def applyAll (table : DirectiveTable) :
    List Directive → Except ConfigurationIssue DirectiveTable
  | [] => .ok table
  | directive :: rest => do
      let next ← table.apply directive
      next.applyAll rest

/-- The names that directives give and the type does not declare, with the directive. -/
def unknownNames (definition : TypeDef) (directives : List Directive) :
    List (String × String) :=
  directives.flatMap fun directive =>
    (directive.fieldNames.filter fun name => (definition.field? name).isNone).map fun name =>
      (name, directive.label)

def pairBefore (first second : String × String) : Bool :=
  decide (first.1 < second.1) || (first.1 == second.1 && decide (first.2 < second.2))

def leastPair : List (String × String) → Option (String × String)
  | [] => none
  | pair :: rest =>
      match leastPair rest with
      | none => some pair
      | some least => if pairBefore least pair then some least else some pair

/-- Puts a text into a sorted list without repeats. -/
def insertLabel (label : String) : List String → List String
  | [] => [label]
  | other :: rest =>
      if label = other then other :: rest
      else if label < other then label :: other :: rest
      else other :: insertLabel label rest

/-- The labels of all effects in a table, sorted and without repeats. -/
def effectLabels (table : DirectiveTable) : List String :=
  (table.effects.flatMap fun entry => entry.2.labels).foldr insertLabel []

/-- The first conflict in the order of declared fields. -/
def firstConflict? (table : DirectiveTable) (definition : TypeDef) :
    Option ConfigurationIssue :=
  definition.fields.findSome? fun field =>
    ((table.field? field.name).bind FieldEffects.conflict?).map fun pair =>
      .conflict field.name pair.1 pair.2

def resolve (definition : TypeDef) (directives : List Directive) :
    Except ConfigurationIssue DirectiveTable :=
  match leastPair (unknownNames definition directives) with
  | some (field, directive) => .error (.unknownField field directive)
  | none => do
      let table ← empty.applyAll directives
      if table.noSchema && !table.effects.isEmpty then
        .error (.noSchemaWithFieldDirectives table.effectLabels)
      else
        match table.firstConflict? definition with
        | some issue => .error issue
        | none => .ok table

end DirectiveTable

end BlockSchema
