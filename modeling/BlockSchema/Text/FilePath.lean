import BlockSchema.Document.Basic

/-!
Contract: file paths as text.

A path is split at slashes into pieces. Empty pieces do not count, and neither do
single dots except one that opens a relative path. Operations keep the spelling of the
pieces they do not touch.
-/

set_option autoImplicit false

namespace BlockSchema.FilePath

/-- Pieces of a path: whether it starts at the root, and what stands between slashes
after that. -/
structure Parts where
  rooted : Bool
  pieces : List String
deriving DecidableEq, Repr

def parts (path : String) : Parts :=
  match path.toList with
  | [] => ⟨false, []⟩
  | '/' :: rest => ⟨true, (Document.pieces '/' [] rest).map String.ofList⟩
  | characters => ⟨false, (Document.pieces '/' [] characters).map String.ofList⟩

def counts (piece : String) : Bool :=
  piece ≠ "" && piece ≠ "."

/-- The step that a path takes, its spelling aside. -/
inductive Step where
  | root
  | here
  | up
  | down (name : String)
deriving DecidableEq, Repr

def stepOf (piece : String) : Step :=
  if piece = ".." then .up else .down piece

/-- Whether a relative path opens with a single dot. -/
def opensHere (parts : Parts) : Bool :=
  !parts.rooted && parts.pieces.head? == some "."

def steps (path : String) : List Step :=
  let split := parts path
  (if split.rooted then [.root] else []) ++ (if opensHere split then [.here] else []) ++
    (split.pieces.filter counts).map stepOf

def isRooted (path : String) : Bool :=
  path.toList.head? == some '/'

/-- A path continued by another one; a rooted one stands for itself. -/
def join (base path : String) : String :=
  if isRooted path then path
  else if base = "" ∨ base.toList.getLast? = some '/' then base ++ path
  else base ++ "/" ++ path

/-- Pieces without those at the end that do not count. -/
def dropIdle (pieces : List String) : List String :=
  (pieces.reverse.dropWhile fun piece => !counts piece).reverse

def unparts (parts : Parts) : String :=
  (if parts.rooted then "/" else "") ++ String.intercalate "/" parts.pieces

/-- The path without its last step; the root and the empty path have none. -/
def parent? (path : String) : Option String :=
  let split := parts path
  let opening := if opensHere split then ["."] else []
  let body := dropIdle (split.pieces.drop opening.length)
  if body.isEmpty then
    if opening.isEmpty then none else some ""
  else some (unparts ⟨split.rooted, opening ++ dropIdle body.dropLast⟩)

/-- A path and those above it, innermost first, as far as a number of steps; the empty
path is left out. -/
def lineageWithin : Nat → String → List String
  | 0, _ => []
  | count + 1, path =>
      if path = "" then []
      else path :: (parent? path).elim [] (lineageWithin count)

/-- A path and all those above it, innermost first. Every one has a step less than the
one before it. -/
def lineage (path : String) : List String :=
  lineageWithin ((steps path).length + 1) path

/-- The last step of a path, when it goes down. -/
def fileName? (path : String) : Option String :=
  match (steps path).getLast? with
  | some (.down name) => some name
  | _ => none

/-- The part of a file name after its last dot, unless that dot comes first. -/
def extension? (path : String) : Option String :=
  match fileName? path with
  | none => none
  | some name =>
      let after := (name.toList.reverse.takeWhile fun character => character ≠ '.').reverse
      if after.length + 1 < name.toList.length then some (String.ofList after) else none

/-- Removes the pieces of a number of steps and the idle pieces after them. -/
def dropSteps : Nat → List String → List String
  | 0, pieces => pieces.dropWhile fun piece => !counts piece
  | count + 1, pieces =>
      dropSteps count ((pieces.dropWhile fun piece => !counts piece).drop 1)

/-- The rest of a path after another one, compared step by step. -/
def relativeTo? (path base : String) : Option String :=
  let pathSteps := steps path
  let baseSteps := steps base
  if baseSteps.isPrefixOf pathSteps then
    let split := parts path
    if baseSteps.isEmpty then
      some (unparts ⟨split.rooted,
        (if opensHere split then ["."] else []) ++
          dropIdle (split.pieces.drop (if opensHere split then 1 else 0))⟩)
    else
      let inner := baseSteps.filter fun step => step ≠ .root ∧ step ≠ .here
      some (unparts ⟨false, dropIdle (dropSteps inner.length split.pieces)⟩)
  else none

def shown (path base : String) : String :=
  (relativeTo? path base).getD path

end BlockSchema.FilePath
