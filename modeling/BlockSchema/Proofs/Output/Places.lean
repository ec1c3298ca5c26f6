import BlockSchema.Output.Layout
import BlockSchema.Proofs.Name.Snake
import BlockSchema.Proofs.Text.FilePath
import Mathlib.Tactic.TFAE

/-!
Contract: where the files of a group go.

Whatever its spelling, the path of a file takes the steps of a directory of the layout, then
at most one step into a directory of its own and one step to the file. These steps tell what
kind of file it is and the names that its path was made of.
-/

set_option autoImplicit false

namespace BlockSchema

/-! ## File names -/

theorem Name.isName_snake {text : String} (nonempty : Name.snake text ≠ "") :
    FilePath.IsName (Name.snake text) := by
  have absent : ∀ mark, ¬ Name.IsPlain mark → mark ∉ (Name.snake text).toList :=
    fun mark notPlain member => notPlain (Name.isPlain_snake member)
  have noDot := absent '.' (by decide)
  refine ⟨absent '/' (by decide), ?_, fun dots => noDot (by simp [dots])⟩
  have notDot : Name.snake text ≠ "." := fun dot => noDot (by simp [dot])
  simp [FilePath.counts, nonempty, notDot]

/-- A text without slashes is a name once it has an ending. -/
theorem FilePath.IsName.of_ending
    {front ending : String}
    (unseparated : '/' ∉ front.toList)
    {last : Char}
    (ends : ending.toList.getLast? = some last)
    (isPlain : '/' ∉ ending.toList ∧ last ≠ '.') :
    FilePath.IsName (front ++ ending) := by
  have lastOf : (front ++ ending).toList.getLast? = some last := by
    rw [String.toList_append, List.getLast?_append, ends]
    rfl
  refine ⟨?_, ?_, fun dots => ?_⟩
  · simp [String.toList_append, unseparated, isPlain.1]
  · have nonempty : front ++ ending ≠ "" := fun empty => by simp [empty] at lastOf
    have notDot : front ++ ending ≠ "." := by
      intro dot
      rw [dot] at lastOf
      exact isPlain.2 (Option.some.inj lastOf).symm
    simp [FilePath.counts, nonempty, notDot]
  · rw [dots] at lastOf
    exact isPlain.2 (Option.some.inj lastOf).symm

private theorem Name.unseparated_snake (text : String) : '/' ∉ (Name.snake text).toList :=
  fun member => absurd (Name.isPlain_snake member) (by decide)

namespace TypeId

variable {left right : TypeId}

theorem isPlain_stem {id : TypeId} {character : Char} (member : character ∈ id.stem.toList) :
    Name.IsPlain character := by
  rw [stem, String.toList_append, String.toList_append, List.mem_append, List.mem_append]
    at member
  rcases member with (inPackage | isJoint) | inName
  · exact Name.isPlain_snake inPackage
  · exact List.mem_singleton.mp isJoint ▸ (by decide)
  · exact Name.isPlain_snake inName

/-- No stem is the name of the module over the routines. -/
theorem stem_ne_mod (id : TypeId) : id.stem ≠ "mod" := by
  intro same
  have joint : '_' ∈ id.stem.toList := by simp [stem, String.toList_append]
  rw [same] at joint
  revert joint
  decide

/-- An anchor tells the stem, which has no dashes. -/
theorem anchor_eq_iff : left.anchor = right.anchor ↔ left.stem = right.stem := by
  have dashed : ∀ {id : TypeId}, id.stem.toList =
      (id.stem.toList.map fun character => if character = '_' then '-' else character).map
        fun character => if character = '-' then '_' else character := by
    intro id
    rw [List.map_map]
    refine (List.map_id _).symm.trans (List.map_congr_left fun character member => ?_)
    have notDash : character ≠ '-' := by
      rintro rfl
      exact absurd (isPlain_stem member) (by decide)
    by_cases joint : character = '_'
    · simp [joint]
    · simp [joint, notDash]
  constructor
  · intro same
    have sameCharacters := congrArg String.toList ((String.append_right_inj _).mp same)
    rw [String.toList_ofList, String.toList_ofList] at sameCharacters
    rw [← String.toList_inj, dashed, sameCharacters, ← dashed]
  · intro same
    rw [anchor, same, ← anchor]

/-- What emitted text calls the same for two types, it calls so by their stems. -/
theorem names_tfae (left right : TypeId) :
    List.TFAE
      [left.stem = right.stem, left.expandName = right.expandName,
        left.flattenName = right.flattenName, left.anchor = right.anchor] := by
  tfae_have 1 ↔ 2 := expandName_eq_iff.symm
  tfae_have 1 ↔ 3 := flattenName_eq_iff.symm
  tfae_have 1 ↔ 4 := anchor_eq_iff.symm
  tfae_finish

end TypeId

/-! ## Places -/

/-- What the path of a file is made of. -/
inductive FilePlace where
  | schema (package name : String)
  | source (group name : String)
  | page (directory : List FilePath.Step) (name : String)
deriving DecidableEq, Repr

/-- The step into a directory; without a name it is the directory around it. -/
def FilePath.stepInto (name : String) : List FilePath.Step :=
  if name = "" then [] else [.down name]

theorem FilePath.steps_join_snake (base text : String) :
    steps (join base (Name.snake text)) = steps base ++ stepInto (Name.snake text) := by
  unfold stepInto
  split
  next empty => rw [empty, steps_join_empty, List.append_nil]
  next nonempty => exact steps_join (Name.isName_snake nonempty)

/-- How the name of a file ends. -/
def FilePlace.ending : FilePlace → String
  | .schema _ _ => ".generated.json"
  | .source _ _ => ".rs"
  | .page _ _ => ".md"

/-- The directories of a file, below the output directory but for doc pages, and its name. -/
def FilePlace.parts (outDir : List FilePath.Step) : FilePlace → List FilePath.Step × String
  | .schema package name =>
      (outDir ++ .down "schemas" :: FilePath.stepInto package, name ++ ".generated.json")
  | .source group name =>
      (outDir ++ .down "structures" :: FilePath.stepInto group, name ++ ".rs")
  | .page directory name => (directory, name ++ ".md")

private theorem FilePath.stepInto_injective : Function.Injective stepInto := by
  intro left right same
  unfold stepInto at same
  split at same <;> split at same
  next emptyLeft emptyRight => rw [emptyLeft, emptyRight]
  next => cases same
  next => cases same
  next => simpa using same

/-- Files of two kinds have different names, and each kind tells what its files are made of. -/
theorem FilePlace.parts_injective (outDir : List FilePath.Step) :
    Function.Injective (FilePlace.parts outDir) := by
  have apart : ∀ {left right leftEnding rightEnding : String} {leftLast rightLast : Char},
      leftEnding.toList.getLast? = some leftLast → rightEnding.toList.getLast? = some rightLast →
        leftLast ≠ rightLast → left ++ leftEnding ≠ right ++ rightEnding := by
    intro left right leftEnding rightEnding leftLast rightLast leftEnds rightEnds differ same
    have lasts := congrArg (fun name => name.toList.getLast?) same
    simp only [String.toList_append, List.getLast?_append, leftEnds, rightEnds] at lasts
    exact differ (Option.some.inj lasts)
  have below : ∀ {directory : String} {left right : String},
      outDir ++ .down directory :: FilePath.stepInto left =
        outDir ++ .down directory :: FilePath.stepInto right → left = right := by
    intro directory left right same
    exact FilePath.stepInto_injective (List.cons.inj (List.append_cancel_left same)).2
  intro left right same
  obtain ⟨sameDirectory, sameName⟩ := Prod.mk.inj same
  cases left <;> cases right
  case schema.schema =>
    rw [below sameDirectory, (String.append_left_inj _).mp sameName]
  case source.source =>
    rw [below sameDirectory, (String.append_left_inj _).mp sameName]
  case page.page =>
    exact congrArg₂ FilePlace.page sameDirectory ((String.append_left_inj _).mp sameName)
  case schema.source => exact absurd sameName (apart rfl rfl (by decide))
  case schema.page => exact absurd sameName (apart rfl rfl (by decide))
  case source.schema => exact absurd sameName (apart rfl rfl (by decide))
  case source.page => exact absurd sameName (apart rfl rfl (by decide))
  case page.schema => exact absurd sameName (apart rfl rfl (by decide))
  case page.source => exact absurd sameName (apart rfl rfl (by decide))

/-- The steps to a file. -/
def FilePlace.steps (outDir : List FilePath.Step) (place : FilePlace) : List FilePath.Step :=
  (place.parts outDir).1 ++ [.down (place.parts outDir).2]

theorem FilePlace.steps_injective (outDir : List FilePath.Step) :
    Function.Injective (FilePlace.steps outDir) := by
  intro left right same
  obtain ⟨sameDirectory, sameLast⟩ := List.append_inj' same rfl
  have sameName : (left.parts outDir).2 = (right.parts outDir).2 := by simpa using sameLast
  exact FilePlace.parts_injective outDir (Prod.ext sameDirectory sameName)

/-! ## The files of a group -/

namespace Layout

variable (layout : Layout) (group : CompiledGroup)

def schemaPlace (schema : Schema) : FilePlace :=
  .schema schema.typeId.packageModule
    (Name.snake group.name ++ "_" ++ Name.snake schema.typeId.name)

def routinePlace (conversion : Conversion) : FilePlace :=
  .source (Name.snake group.name) conversion.typeId.stem

def modulePlace : FilePlace :=
  .source (Name.snake group.name) "mod"

def pagePlace (page : DocPage) : FilePlace :=
  .page (FilePath.steps (layout.docsDir group)) (Name.snake page.root.typeId.name)

def schemaPlaces : List FilePlace :=
  (group.roots.filterMap CompiledType.schema).map (schemaPlace group)

def sourcePlaces : List FilePlace :=
  group.conversions.map (routinePlace group) ++ [modulePlace group]

def pagePlaces : List FilePlace :=
  (group.roots.filterMap CompiledType.doc).map (layout.pagePlace group)

/-- What the paths of a group's files are made of. -/
def places : List FilePlace :=
  schemaPlaces group ++ (sourcePlaces group ++ layout.pagePlaces group)

/-- The steps that a path takes, whatever its spelling. -/
def stepsTo (artifact : Artifact) : List FilePath.Step :=
  FilePath.steps artifact.path

theorem isName_schemaFile (name : String) (id : TypeId) :
    FilePath.IsName (Name.snake name ++ "_" ++ Name.snake id.name ++ ".generated.json") := by
  refine .of_ending ?_ rfl (by decide)
  simp [String.toList_append, Name.unseparated_snake]

theorem isName_routineFile (id : TypeId) : FilePath.IsName (id.stem ++ ".rs") := by
  refine .of_ending (fun slash => ?_) rfl (by decide)
  exact absurd (TypeId.isPlain_stem slash) (by decide)

theorem isName_moduleFile : FilePath.IsName "mod.rs" :=
  ⟨by decide, rfl, by decide⟩

theorem isName_pageFile (id : TypeId) : FilePath.IsName (Name.snake id.name ++ ".md") :=
  .of_ending (Name.unseparated_snake id.name) rfl (by decide)

private theorem stepsTo_schemaArtifact (schema : Schema) :
    stepsTo (layout.schemaArtifact group.name schema) =
      (schemaPlace group schema).steps (FilePath.steps layout.outDir) := by
  have directory : FilePath.IsName "schemas" := ⟨by decide, rfl, by decide⟩
  have file := isName_schemaFile group.name schema.typeId
  rw [stepsTo, schemaArtifact, FilePath.steps_join file, TypeId.packageModule,
    FilePath.steps_join_snake, schemaDir, FilePath.steps_join directory]
  simp [FilePlace.steps, FilePlace.parts, schemaPlace, TypeId.packageModule]

private theorem steps_structuresDir (text : String) :
    FilePath.steps (layout.structuresDir text) =
      FilePath.steps layout.outDir ++ .down "structures" ::
        FilePath.stepInto (Name.snake text) := by
  have directory : FilePath.IsName "structures" := ⟨by decide, rfl, by decide⟩
  rw [structuresDir, FilePath.steps_join_snake, FilePath.steps_join directory,
    List.append_assoc, List.singleton_append]

private theorem stepsTo_routineArtifact (conversion : Conversion) :
    stepsTo (layout.routineArtifact group.name conversion) =
      (routinePlace group conversion).steps (FilePath.steps layout.outDir) := by
  rw [stepsTo, routineArtifact, FilePath.steps_join (isName_routineFile conversion.typeId),
    steps_structuresDir]
  rfl

private theorem stepsTo_moduleArtifact :
    stepsTo (layout.moduleArtifact group) =
      (modulePlace group).steps (FilePath.steps layout.outDir) := by
  rw [stepsTo, moduleArtifact, FilePath.steps_join isName_moduleFile, steps_structuresDir]
  rfl

private theorem stepsTo_pageArtifact (page : DocPage) :
    stepsTo (layout.pageArtifact group page) =
      (layout.pagePlace group page).steps (FilePath.steps layout.outDir) := by
  rw [stepsTo, pageArtifact, FilePath.steps_join (isName_pageFile page.root.typeId)]
  rfl

theorem stepsTo_artifacts :
    (layout.artifacts group).map stepsTo =
      (layout.places group).map (FilePlace.steps (FilePath.steps layout.outDir)) := by
  simp only [artifacts, places, schemaPlaces, sourcePlaces, pagePlaces, List.map_append,
    List.map_map, List.map_singleton, List.append_assoc, Function.comp_def,
    stepsTo_schemaArtifact, stepsTo_routineArtifact, stepsTo_moduleArtifact,
    stepsTo_pageArtifact]

end Layout

end BlockSchema
