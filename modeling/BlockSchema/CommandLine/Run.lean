import BlockSchema.CommandLine.Request
import BlockSchema.Files.Search
import BlockSchema.Filter.Run
import BlockSchema.Output.Layout
import BlockSchema.Plan.Format

/-!
Contract: doing what a command line asks for.

A run reads all manifests, then the plan, compiles, and only then writes. It stops at
the first failure; files written before that stay. What it does outside of itself goes
through a host, so a run means the same on files in memory and on a machine.
-/

set_option autoImplicit false

namespace BlockSchema

/-- What a run works on: files, and two places for lines of text. -/
structure Host (m : Type → Type) where
  files : Files m
  /-- Gives a part of the result. -/
  print : String → m Unit
  /-- Tells what was done. -/
  report : String → m Unit

/-- Why a run stops. -/
inductive RunError where
  | search (error : SearchError)
  | unreadableManifest (path : String) (error : FileError)
  | unparsableManifest (path : String) (format : TextFormat) (error : DecodeError)
  | nothingSelected (pointer path : String)
  | filterFailed (path : String) (error : FilterError)
  | invalidManifest (path : String) (error : ManifestError)
  | unreadablePlan (path : String) (error : FileError)
  | unknownGroup (name : String)
  | compilation (error : CompileError)
  | unregistered (type : TypeId) (group : String)
  | withoutSchema (type : TypeId)
  | notCreated (path : String) (error : FileError)
  | notWritten (path : String) (error : FileError)
deriving DecidableEq, Repr

def RunError.message : RunError → String
  | .search error => "failed to resolve manifest paths: " ++ error.message
  | .unreadableManifest path error =>
      "failed to read source file " ++ path ++ ": " ++ error.words
  | .unparsableManifest path format error =>
      "failed to parse source file (" ++ path ++ "): " ++ error.message format.dialect
  | .nothingSelected pointer path =>
      "JSON pointer " ++ pointer ++ " selects nothing in " ++ path
  | .filterFailed path _ => "failed to apply jq expression to source file (" ++ path ++ ")"
  | .invalidManifest path error =>
      "invalid manifest " ++ path ++ ": " ++ (CompileError.manifest error).message
  | .unreadablePlan path error => "failed to read plan " ++ path ++ ": " ++ error.words
  | .unknownGroup name => "plan has no group `" ++ name ++ "`"
  | .compilation error => error.message
  | .unregistered type group =>
      "`" ++ type.text ++ "` is not registered in group `" ++ group ++ "`"
  | .withoutSchema type => "`" ++ type.text ++ "` is marked no_schema"
  | .notCreated path error => "failed to create " ++ path ++ ": " ++ error.words
  | .notWritten path error => "failed to write " ++ path ++ ": " ++ error.words

/-! ## Without a host -/

/-- The documents that an input file holds: its own one, narrowed by a pointer and then
run through a filter. -/
def Inputs.documents (inputs : Inputs) (path text : String) :
    Except RunError (List Document) := do
  let format := TextFormat.ofPath path
  let whole ←
    match Document.ofText? format text with
    | .ok document => .ok document
    | .error error => .error (.unparsableManifest path format error)
  let selected ←
    match inputs.pointer with
    | none => .ok whole
    | some pointer =>
        match whole.pointer? pointer with
        | some document => .ok document
        | none => .error (.nothingSelected pointer path)
  match inputs.filter with
  | none => .ok [selected]
  | some filter =>
      match selected.filter? filter with
      | .ok documents => .ok documents
      | .error error => .error (.filterFailed path error)

def Manifest.addDocuments (path : String) (manifest : Manifest) :
    List Document → Except RunError Manifest
  | [] => .ok manifest
  | document :: rest =>
      match Manifest.ofDocument? document with
      | .error error => .error (.invalidManifest path error)
      | .ok part =>
          match manifest.merge part with
          | (_, some fault) => .error (.compilation (.manifest (.fault fault)))
          | (next, none) => next.addDocuments path rest

/-- The plan of the groups of a name, when it has one. -/
def Plan.narrowed (plan : Plan) : Option String → Except RunError Plan
  | none => .ok plan
  | some name =>
      if (plan.group? name).isSome then .ok (plan.only name) else .error (.unknownGroup name)

/-- Compiles the groups of a plan, or those of one name. -/
def compileSelected (manifest : Manifest) (plan : Plan) (group : Option String) :
    Except RunError (List CompiledGroup) := do
  let selected ← plan.narrowed group
  match selected.compile manifest with
  | .ok groups => .ok groups
  | .error error => .error (.compilation error)

def CompiledGroup.summary (group : CompiledGroup) : String :=
  let count (isCounted : CompiledType → Bool) : String :=
    toString (group.roots.filter isCounted).length
  "ok " ++ group.name ++ ": " ++ count (fun _ => true) ++ " roots, " ++
    toString group.graph.nodes.length ++ " types, " ++
    count (fun root => root.schema.isSome) ++ " schemas, " ++
    count (fun root => root.doc.isSome) ++ " doc pages\n"

/-- The text of a type's schema, from the first group that registers it. -/
def schemaText (groups : List CompiledGroup) (type : TypeId) (group : String) :
    Except RunError String :=
  match groups.findSome? fun compiled => compiled.root? type with
  | none => .error (.unregistered type group)
  | some root =>
      match root.schema with
      | none => .error (.withoutSchema type)
      | some schema => .ok (schema.render group)

/-! ## With a host -/

abbrev Job (m : Type → Type) (α : Type) := ExceptT RunError m α

namespace Job

variable {m : Type → Type} [Monad m]

/-- The result of an operation on files, its failure told as an error. -/
def orStop {α : Type} (operation : m (Except FileError α)) (error : FileError → RunError) :
    Job m α := do
  match ← operation with
  | .ok value => return value
  | .error reason => throw (error reason)

def perform (action : m Unit) : Job m Unit :=
  ExceptT.lift action

def ofExcept {α : Type} : Except RunError α → Job m α
  | .ok value => return value
  | .error error => throw error

def forAll {α : Type} (action : α → Job m Unit) : List α → Job m Unit
  | [] => return ()
  | element :: rest => do
      action element
      forAll action rest

end Job

namespace Host

variable {m : Type → Type} [Monad m]

/-- The paths that a list of paths and patterns stands for. -/
def manifestPaths (host : Host m) : List String → Job m (List String)
  | [] => return []
  | path :: rest => do
      let found ←
        if FilePath.isPattern path then
          ExceptT.adapt RunError.search (Search.paths host.files path)
        else pure [path]
      return found ++ (← host.manifestPaths rest)

def addManifests (host : Host m) (inputs : Inputs) (manifest : Manifest) :
    List String → Job m Manifest
  | [] => return manifest
  | path :: rest => do
      let text ← Job.orStop (host.files.read path) (.unreadableManifest path)
      let documents ← Job.ofExcept (inputs.documents path text)
      let next ← Job.ofExcept (manifest.addDocuments path documents)
      host.addManifests inputs next rest

def readPlan (host : Host m) (path : String) : Job m Plan := do
  let text ← Job.orStop (host.files.read path) (.unreadablePlan path)
  match Plan.ofFile? path text with
  | .ok plan => return plan
  | .error error => throw (.compilation error)

/-- Compiles what is given, up to the first failure in it. -/
def compile (host : Host m) (inputs : Inputs) (group : Option String) :
    Job m (Settings × List CompiledGroup) := do
  let paths ← host.manifestPaths inputs.manifests
  let manifest ← host.addManifests inputs .empty paths
  let plan ← host.readPlan inputs.plan
  return (plan.settings, ← Job.ofExcept (compileSelected manifest plan group))

/-- Writes a file, with the directories above it. -/
def writeArtifact (host : Host m) (artifact : Artifact) : Job m Unit := do
  match FilePath.parent? artifact.path with
  | none => pure ()
  | some directory =>
      Job.orStop (host.files.makeChain (FilePath.lineage directory)) (.notCreated directory)
  Job.orStop (host.files.write artifact.path artifact.contents) (.notWritten artifact.path)

/-- Writes the files of a group and tells so, or prints where they would go. -/
def emit (host : Host m) (layout : Layout) (listOnly : Bool) (group : CompiledGroup) :
    Job m Unit := do
  let artifacts := layout.artifacts group
  if listOnly then
    Job.forAll (fun artifact => Job.perform (host.print (artifact.path ++ "\n"))) artifacts
  else
    Job.forAll host.writeArtifact artifacts
    Job.perform (host.report
      ("wrote " ++ group.name ++ " (" ++ toString artifacts.length ++ " files)\n"))

def run (host : Host m) : Request → Job m Unit
  | .compile inputs out docsRoot group listOnly => do
      let (settings, groups) ← host.compile inputs group
      Job.forAll (host.emit (.make out docsRoot settings) listOnly) groups
  | .check inputs group => do
      let (_, groups) ← host.compile inputs group
      Job.forAll (fun compiled => Job.perform (host.print compiled.summary)) groups
  | .schema inputs type group => do
      let (_, groups) ← host.compile inputs (some group)
      Job.perform (host.print (← Job.ofExcept (schemaText groups ⟨type⟩ group)))

end Host

end BlockSchema
