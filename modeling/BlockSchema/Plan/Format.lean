import BlockSchema.CompileError
import BlockSchema.Plan.Basic

/-!
Contract: plans as documents.

Every record of a plan is strict, and every part of it but the names of groups and
types can be left out. A registration lists its directives by kind; they are taken in
a fixed order, and lists without names give no directive.
-/

set_option autoImplicit false

namespace BlockSchema

def Settings.record : Record Settings where
  name := "Settings"
  strict := true
  start := .standard
  fields :=
    [⟨"model_path", true, fun path tree settings => do
        return { settings with modelPath := ← tree.readText path }⟩,
     ⟨"runtime_path", true, fun path tree settings => do
        return { settings with runtimePath := ← tree.readText path }⟩]

/-- The record format of the texts around a doc page. -/
def DocWrapper.record : Record DocWrapper where
  name := "DocText"
  strict := true
  start := ⟨"", ""⟩
  fields :=
    [⟨"header", true, fun path tree wrapper => do
        return { wrapper with header := ← tree.readText path }⟩,
     ⟨"footer", true, fun path tree wrapper => do
        return { wrapper with footer := ← tree.readText path }⟩]

/-- A registration as it is written: its directives by kind. -/
structure RegistrationRecord where
  typeId : TypeId
  required : List String
  computed : List String
  computedOnly : List String
  sensitive : List String
  forceNew : List String
  nullable : List String
  exclude : List String
  rename : Entries String
  version : Option UInt32
  fieldVersions : Entries UInt32
  noSchema : Bool
  doc : Option DocWrapper
deriving Repr, Inhabited

namespace RegistrationRecord

/-- The registration of a type without directives. -/
def bare (typeId : TypeId) : RegistrationRecord :=
  ⟨typeId, [], [], [], [], [], [], [], [], none, [], false, none⟩

def names (record : RegistrationRecord) : Mark → List String
  | .required => record.required
  | .computed => record.computed
  | .computedOnly => record.computedOnly
  | .sensitive => record.sensitive
  | .forceNew => record.forceNew
  | .nullable => record.nullable
  | .exclude => record.exclude

def markDirective? (record : RegistrationRecord) (kind : Mark) : Option Directive :=
  if (record.names kind).isEmpty then none else some (.mark kind (record.names kind))

def directives (record : RegistrationRecord) : List Directive :=
  Mark.all.filterMap record.markDirective? ++
    record.rename.map (fun entry => .rename entry.1 entry.2) ++
    record.version.toList.map .version ++
    record.fieldVersions.map (fun entry => .fieldVersion entry.2 [entry.1]) ++
    (if record.noSchema then [.noSchema] else []) ++
    record.doc.toList.map .doc

def toRegistration (record : RegistrationRecord) : Registration :=
  ⟨record.typeId, record.directives⟩

end RegistrationRecord

def readNames (path : Path) (tree : Tree) : Decoded (List String) :=
  Tree.readList Tree.readText path tree

def RegistrationRecord.record (dialect : Dialect) : Record RegistrationRecord where
  name := "TypeDirectives"
  strict := true
  start := .bare ⟨""⟩
  fields :=
    [⟨"type", false, fun path tree entry => do
        return { entry with typeId := ⟨← tree.readText path⟩ }⟩,
     ⟨"required", true, fun path tree entry => do
        return { entry with required := ← readNames path tree }⟩,
     ⟨"computed", true, fun path tree entry => do
        return { entry with computed := ← readNames path tree }⟩,
     ⟨"computed_only", true, fun path tree entry => do
        return { entry with computedOnly := ← readNames path tree }⟩,
     ⟨"sensitive", true, fun path tree entry => do
        return { entry with sensitive := ← readNames path tree }⟩,
     ⟨"force_new", true, fun path tree entry => do
        return { entry with forceNew := ← readNames path tree }⟩,
     ⟨"nullable", true, fun path tree entry => do
        return { entry with nullable := ← readNames path tree }⟩,
     ⟨"exclude", true, fun path tree entry => do
        return { entry with exclude := ← readNames path tree }⟩,
     ⟨"rename", true, fun path tree entry => do
        return { entry with rename := ← Tree.readMap Tree.readText path tree }⟩,
     ⟨"version", true, fun path tree entry => do
        return { entry with
          version := ← Tree.readOptional (Tree.readRevision dialect) path tree }⟩,
     ⟨"field_versions", true, fun path tree entry => do
        return { entry with
          fieldVersions := ← Tree.readMap (Tree.readRevision dialect) path tree }⟩,
     ⟨"no_schema", true, fun path tree entry => do
        return { entry with noSchema := ← tree.readBool path }⟩,
     ⟨"doc", true, fun path tree entry => do
        return { entry with
          doc := ← Tree.readOptional (DocWrapper.record.read dialect) path tree }⟩]

def Registration.read (dialect : Dialect) (path : Path) (tree : Tree) : Decoded Registration := do
  return ((← (RegistrationRecord.record dialect).read dialect path tree)).toRegistration

def GroupPlan.record (dialect : Dialect) : Record GroupPlan where
  name := "GroupPlan"
  strict := true
  start := ⟨"", none, false, []⟩
  fields :=
    [⟨"name", false, fun path tree group => do
        return { group with name := ← tree.readText path }⟩,
     ⟨"docs", true, fun path tree group => do
        return { group with
          docs := ← Tree.readOptional (Tree.readTextAs "path string") path tree }⟩,
     ⟨"read_only", true, fun path tree group => do
        return { group with readOnly := ← tree.readBool path }⟩,
     ⟨"types", true, fun path tree group => do
        return { group with types := ← Tree.readList (Registration.read dialect) path tree }⟩]

def Plan.record (dialect : Dialect) : Record Plan where
  name := "Plan"
  strict := true
  start := ⟨.standard, []⟩
  fields :=
    [⟨"settings", true, fun path tree plan => do
        return { plan with settings := ← Settings.record.read dialect path tree }⟩,
     ⟨"groups", true, fun path tree plan => do
        return { plan with
          groups := ← Tree.readList ((GroupPlan.record dialect).read dialect) path tree }⟩]

def Plan.ofText? (format : TextFormat) (text : String) : Decoded Plan :=
  (format.source text).decode ((Plan.record format.dialect).read format.dialect [])

/-- The plan of the text at a path, in the format of the path. -/
def Plan.ofFile? (path text : String) : Except CompileError Plan :=
  let format := TextFormat.ofPath path
  match Plan.ofText? format text with
  | .ok plan => .ok plan
  | .error error => .error (.plan (some path) format error)

def Plan.ofYaml? (text : String) : Except CompileError Plan :=
  match Plan.ofText? .yaml text with
  | .ok plan => .ok plan
  | .error error => .error (.plan none .yaml error)

end BlockSchema
