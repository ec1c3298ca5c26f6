import BlockSchema.Proofs.Group.Rules
import BlockSchema.Proofs.Output.Places

/-!
Contract: the directories that the files of a group do not leave.

Packages, groups and types have any names. What a path takes of them is in snake case first,
which leaves nothing that a path is steered by. So each of them makes one step down at most,
and the path goes on from the directories of the layout as it began.
-/

set_option autoImplicit false

namespace BlockSchema

/-! ## Directories -/

namespace FilePath

/-- A path is a base, a directory below it, another one below that unless its name is empty,
and a file in it. The two names that are not fixed are single steps down. -/
def Confined (base directory inner path : String) : Prop :=
  (inner = "" ∨ IsName inner) ∧
    ∃ file, IsName file ∧ path = join (join (join base directory) inner) file ∧
      steps path = steps base ++ [.down directory] ++ stepInto inner ++ [.down file]

/-- A path is a directory and a file in it. -/
def DirectlyIn (directory path : String) : Prop :=
  ∃ file, IsName file ∧ path = join directory file ∧
    steps path = steps directory ++ [.down file]

variable {base directory inner file : String}

private theorem directlyIn_join
    (isFile : IsName file) :
    DirectlyIn directory (join directory file) :=
  ⟨file, isFile, rfl, steps_join isFile⟩

/-- A name in snake case confines what is below it. -/
theorem confined_join_snake
    (isDirectory : IsName directory)
    (text : String)
    (isFile : IsName file) :
    Confined base directory (Name.snake text)
      (join (join (join base directory) (Name.snake text)) file) := by
  constructor
  · by_cases empty : Name.snake text = ""
    · exact .inl empty
    · exact .inr (Name.isName_snake empty)
  · refine ⟨file, isFile, rfl, ?_⟩
    rw [steps_join isFile, steps_join_snake, steps_join isDirectory]

end FilePath

/-! ## The files of a group -/

namespace Layout

open FilePath (IsName Confined DirectlyIn)

variable (layout : Layout) (group : CompiledGroup)

def schemaArtifacts : List Artifact :=
  (group.roots.filterMap CompiledType.schema).map (layout.schemaArtifact group.name)

def pageArtifacts : List Artifact :=
  (group.roots.filterMap CompiledType.doc).map (layout.pageArtifact group)

private theorem confined_schemaArtifact (schema : Schema) :
    Confined layout.outDir "schemas" schema.typeId.packageModule
      (layout.schemaArtifact group.name schema).path := by
  have directory : IsName "schemas" := ⟨by decide, rfl, by decide⟩
  dsimp only [schemaArtifact, schemaDir, TypeId.packageModule]
  apply FilePath.confined_join_snake directory
  exact isName_schemaFile group.name schema.typeId

private theorem confined_structureArtifact
    {artifact : Artifact}
    (member : artifact ∈ layout.structureArtifacts group) :
    Confined layout.outDir "structures" (Name.snake group.name) artifact.path := by
  have directory : IsName "structures" := ⟨by decide, rfl, by decide⟩
  unfold structureArtifacts at member
  rcases List.mem_append.mp member with isRoutine | isModule
  · obtain ⟨conversion, _, rfl⟩ := List.mem_map.mp isRoutine
    dsimp only [routineArtifact, structuresDir]
    apply FilePath.confined_join_snake directory
    exact isName_routineFile conversion.typeId
  · rw [List.mem_singleton.mp isModule]
    dsimp only [moduleArtifact, structuresDir]
    apply FilePath.confined_join_snake directory
    exact isName_moduleFile

private theorem directlyIn_pageArtifact (page : DocPage) :
    DirectlyIn (layout.docsDir group) (layout.pageArtifact group page).path := by
  dsimp only [pageArtifact]
  apply FilePath.directlyIn_join
  exact isName_pageFile page.root.typeId

/-- The files of a group are its schemas, its structures and its pages. Whatever the names of
the group, its packages and its types, the path of a schema lies in the directory of schemas
and at most one step further, that of a structure in the directory of structures and at most
one step further, the same one for the whole group, and that of a page in the directory that
the group has for its pages. -/
theorem artifacts_confined :
    layout.artifacts group =
        layout.schemaArtifacts group ++ layout.structureArtifacts group ++
          layout.pageArtifacts group ∧
      (∀ artifact ∈ layout.schemaArtifacts group,
        ∃ package, Confined layout.outDir "schemas" package artifact.path) ∧
      (∀ artifact ∈ layout.structureArtifacts group,
        Confined layout.outDir "structures" (Name.snake group.name) artifact.path) ∧
      ∀ artifact ∈ layout.pageArtifacts group,
        DirectlyIn (layout.docsDir group) artifact.path := by
  refine ⟨artifacts_eq layout group, ?_, ?_, ?_⟩
  · intro artifact member
    obtain ⟨schema, _, rfl⟩ := List.mem_map.mp member
    exact ⟨_, layout.confined_schemaArtifact group schema⟩
  · intro artifact
    exact layout.confined_structureArtifact group
  · intro artifact member
    obtain ⟨page, _, rfl⟩ := List.mem_map.mp member
    exact layout.directlyIn_pageArtifact group page

end Layout

/-! ## Names that are paths -/

namespace Intruders

def id : TypeId := ⟨"../../root/.ssh/.Überall"⟩

def node : TypeNode :=
  ⟨id, none, 0, false, none, true, [], []⟩

def conversion : Conversion := ⟨id, [], []⟩

def page : DocPage := ⟨⟨"", ""⟩, ⟨id, []⟩, []⟩

/-- The name of the group is an absolute path that leads to the root, and so has no words. -/
def group : CompiledGroup :=
  ⟨"/..", false, none, [⟨node, some ⟨id, 0, []⟩, conversion, some page⟩], [conversion], ⟨[node]⟩⟩

def layout : Layout := .make "/srv/out" none .standard

end Intruders

/-- A group, a package and a type that are named like paths out of the directory have their
files in it. -/
theorem Layout.artifacts_confined_intruders :
    (∀ artifact ∈ Intruders.layout.schemaArtifacts Intruders.group,
      ∃ package, FilePath.Confined "/srv/out" "schemas" package artifact.path) ∧
    (∀ artifact ∈ Intruders.layout.structureArtifacts Intruders.group,
      FilePath.Confined "/srv/out" "structures" "" artifact.path) ∧
    (Intruders.layout.artifacts Intruders.group).map Artifact.path =
      ["/srv/out/schemas/root_ssh/_überall.generated.json",
        "/srv/out/structures/root_ssh_überall.rs", "/srv/out/structures/mod.rs",
        "/srv/out/docs/überall.md"] := by
  obtain ⟨_, schemas, structures, _⟩ := artifacts_confined Intruders.layout Intruders.group
  have noName : Name.snake Intruders.group.name = "" := by decide +kernel
  rw [noName] at structures
  exact ⟨schemas, structures, by decide +kernel⟩

end BlockSchema
