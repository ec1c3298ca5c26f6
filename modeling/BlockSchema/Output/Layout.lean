import BlockSchema.Group.Compile
import BlockSchema.Page.Markdown
import BlockSchema.Routine.Source

/-!
Contract: the files that a compiled group is written to.

Schemas lie in a directory a package, routines in a directory a group with a module
over them, doc pages in the group's directory below the root of all pages. File names
are made of snake case names, so they are single steps of a path.
-/

set_option autoImplicit false

namespace BlockSchema

/-- A file to be written. -/
structure Artifact where
  path : String
  contents : String
deriving DecidableEq, Repr

/-- Where files go. -/
structure Layout where
  outDir : String
  docsRoot : String
  settings : Settings
deriving DecidableEq, Repr

namespace Layout

/-- The layout below an output directory; doc pages go there too unless they have a
root of their own. -/
def make (outDir : String) (docsRoot : Option String) (settings : Settings) : Layout :=
  ⟨outDir, docsRoot.getD (FilePath.join outDir "docs"), settings⟩

def schemaDir (layout : Layout) : String :=
  FilePath.join layout.outDir "schemas"

def structuresDir (layout : Layout) (group : String) : String :=
  FilePath.join (FilePath.join layout.outDir "structures") (Name.snake group)

def docsDir (layout : Layout) (group : CompiledGroup) : String :=
  FilePath.join layout.docsRoot (group.docs.getD (Name.snake group.name))

def schemaArtifact (layout : Layout) (group : String) (schema : Schema) : Artifact where
  path := FilePath.join (FilePath.join layout.schemaDir schema.typeId.packageModule)
    (Name.snake group ++ "_" ++ Name.snake schema.typeId.name ++ ".generated.json")
  contents := schema.render group

def routineArtifact (layout : Layout) (group : String) (conversion : Conversion) :
    Artifact where
  path := FilePath.join (layout.structuresDir group) (conversion.typeId.stem ++ ".rs")
  contents := (Routine.ofConversion conversion).source

/-- The file of the module over a group's routines. -/
def moduleArtifact (layout : Layout) (group : CompiledGroup) : Artifact where
  path := FilePath.join (layout.structuresDir group.name) "mod.rs"
  contents := Routine.moduleSource (group.conversions.map Conversion.typeId) layout.settings

def pageArtifact (layout : Layout) (group : CompiledGroup) (page : DocPage) : Artifact where
  path := FilePath.join (layout.docsDir group) (Name.snake page.root.typeId.name ++ ".md")
  contents := page.render group.readOnly

/-- The files of a group: schemas, routines, the module over them, doc pages. -/
def artifacts (layout : Layout) (group : CompiledGroup) : List Artifact :=
  (group.roots.filterMap CompiledType.schema).map (layout.schemaArtifact group.name) ++
    group.conversions.map (layout.routineArtifact group.name) ++
    [layout.moduleArtifact group] ++
    (group.roots.filterMap CompiledType.doc).map (layout.pageArtifact group)

end Layout

/-- The path of a file as shown relative to a base. -/
def Artifact.shown (artifact : Artifact) (base : String) : String :=
  FilePath.shown artifact.path base

end BlockSchema
