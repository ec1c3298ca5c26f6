import BlockSchema.Files.Access
import BlockSchema.Text.FilePath

/-!
Contract: files kept in memory.

A tree lists what every place below its root holds; a place is the list of the names
that lead to it. Paths are followed step by step, so every step but the last has to be
a directory that is there, also one that is left again.
-/

set_option autoImplicit false

namespace BlockSchema

/-- A place in a tree: the names that lead to it from the root. -/
abbrev Place := List String

/-- What a place holds. -/
inductive FileNode where
  | directory
  | file (text : String)
deriving DecidableEq, Repr

def FileNode.kind : FileNode → FileKind
  | .directory => .directory
  | .file _ => .file

/-- Files in memory. -/
structure FileTree where
  /-- Where relative paths start. -/
  here : Place
  nodes : List (Place × FileNode)
deriving DecidableEq, Repr

/-- Where a path leads. -/
inductive Destination where
  | found (place : Place) (node : FileNode)
  /-- Nothing is there yet, but the directory for it is. -/
  | vacant (place : Place) (asDirectory : Bool)
deriving DecidableEq, Repr

namespace FileTree

def nameLimit : Nat := 255

/-- What a place holds. The root is a directory. -/
def node? (tree : FileTree) (place : Place) : Option FileNode :=
  if place.isEmpty then some .directory
  else (tree.nodes.find? fun entry => entry.1 = place).map Prod.snd

/-- Puts a node at a place, instead of what it holds. -/
def put (tree : FileTree) (place : Place) (node : FileNode) : FileTree :=
  { tree with
    nodes := (place, node) :: tree.nodes.filter fun entry => entry.1 ≠ place }

/-- Follows pieces of a path from a place that holds a node. -/
def follow (tree : FileTree) (place : Place) (node : FileNode) :
    List String → Except FileError Destination
  | [] => .ok (.found place node)
  | piece :: rest =>
      match node with
      | .file _ => .error .notADirectory
      | .directory =>
          if !FilePath.counts piece then tree.follow place .directory rest
          else if piece = ".." then tree.follow place.dropLast .directory rest
          else if nameLimit < piece.utf8ByteSize then .error .nameTooLong
          else
            let next := place ++ [piece]
            match tree.node? next with
            | some found => tree.follow next found rest
            | none =>
                if rest.all String.isEmpty then .ok (.vacant next !rest.isEmpty)
                else .error .notFound

def locate (tree : FileTree) (path : String) : Except FileError Destination :=
  if path = "" then .error .notFound
  else
    let split := FilePath.parts path
    tree.follow (if split.rooted then [] else tree.here) .directory split.pieces

def kind? (tree : FileTree) (path : String) : Option FileKind :=
  match tree.locate path with
  | .ok (.found _ node) => some node.kind
  | _ => none

def names (tree : FileTree) (path : String) : Except FileError (List String) := do
  match ← tree.locate path with
  | .found _ (.file _) => .error .notADirectory
  | .found place .directory =>
      .ok (tree.nodes.filterMap fun entry =>
        if entry.1.dropLast = place then entry.1.getLast? else none)
  | .vacant _ _ => .error .notFound

def read (tree : FileTree) (path : String) : Except FileError String := do
  match ← tree.locate path with
  | .found _ (.file text) => .ok text
  | .found _ .directory => .error .isADirectory
  | .vacant _ _ => .error .notFound

def makeDirectory (tree : FileTree) (path : String) : Except FileError FileTree := do
  match ← tree.locate path with
  | .found _ _ => .error .alreadyThere
  | .vacant place _ => .ok (tree.put place .directory)

def write (tree : FileTree) (path text : String) : Except FileError FileTree := do
  match ← tree.locate path with
  | .found _ .directory => .error .isADirectory
  | .found place (.file _) => .ok (tree.put place (.file text))
  | .vacant place false => .ok (tree.put place (.file text))
  | .vacant _ true => .error .isADirectory

/-- Puts a file below the directory where paths start, with the directories above it. -/
def withFile (tree : FileTree) (file : String × String) : FileTree :=
  let place := tree.here ++ (FilePath.parts file.1).pieces
  let above := (List.range place.length).map fun count => place.take count
  let grown := above.foldl
    (fun grown directory =>
      if (grown.node? directory).isSome then grown else grown.put directory .directory)
    tree
  grown.put place (.file file.2)

/-- The tree of the files in one directory, in which paths start. -/
def ofFiles (files : List (String × String)) : FileTree :=
  files.foldl withFile ⟨["work"], [(["work"], .directory)]⟩

/-- The texts of the files below the directory where paths start, by path. -/
def files (tree : FileTree) : Entries String :=
  Entries.sortedOfList (tree.nodes.filterMap fun entry =>
    match entry.2 with
    | .directory => none
    | .file text =>
        if tree.here.isPrefixOf entry.1 then
          some (String.intercalate "/" (entry.1.drop tree.here.length), text)
        else none)

/-- The files that are not in an earlier tree, or have another text there. -/
def newFiles (tree earlier : FileTree) : Entries String :=
  let before := earlier.files
  tree.files.filter fun entry => before.get? entry.1 ≠ some entry.2

def access : Files (StateM FileTree) where
  kind? path := return (← get).kind? path
  names path := return (← get).names path
  read path := return (← get).read path
  makeDirectory path := do
    match (← get).makeDirectory path with
    | .ok tree => set tree; return .ok ()
    | .error error => return .error error
  write path text := do
    match (← get).write path text with
    | .ok tree => set tree; return .ok ()
    | .error error => return .error error

end FileTree

end BlockSchema
