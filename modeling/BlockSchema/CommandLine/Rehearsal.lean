import BlockSchema.CommandLine.Run
import BlockSchema.Files.Tree

/-!
Contract: runs on files in memory.

A stage holds the files and all that was said so far; runs on it are plain functions.
-/

set_option autoImplicit false

namespace BlockSchema

/-- Files in memory and all that was said. -/
structure Stage where
  tree : FileTree
  printed : String
  reported : String
deriving DecidableEq, Repr

namespace Stage

def ofFiles (files : List (String × String)) : Stage :=
  ⟨.ofFiles files, "", ""⟩

def onTree {α : Type} (operation : StateM FileTree α) : StateM Stage α :=
  fun stage =>
    let (value, tree) := operation stage.tree
    (value, { stage with tree := tree })

def host : Host (StateM Stage) where
  files :=
    { kind? := fun path => onTree (FileTree.access.kind? path)
      names := fun path => onTree (FileTree.access.names path)
      read := fun path => onTree (FileTree.access.read path)
      makeDirectory := fun path => onTree (FileTree.access.makeDirectory path)
      write := fun path text => onTree (FileTree.access.write path text) }
  print text := modify fun stage => { stage with printed := stage.printed ++ text }
  report text := modify fun stage => { stage with reported := stage.reported ++ text }

def run (stage : Stage) (request : Request) : Except RunError Unit × Stage :=
  (host.run request).run stage

end Stage

end BlockSchema
