import BlockSchema.Files.Access
import BlockSchema.Files.Pattern
import BlockSchema.Text.FilePath

/-!
Contract: the paths that a pattern stands for.

A pattern is taken apart at slashes; each part is a pattern for one name. Parts without
wildcards are looked up, all others are compared with the names in a directory, in
ascending order. A directory comes before what is in it.
-/

set_option autoImplicit false

namespace BlockSchema

/-- Why the paths of a pattern cannot be listed. -/
inductive SearchError where
  | malformed (error : PatternError)
  | unreadable (path : String) (error : FileError)
  | noMatch (pattern : String)
deriving DecidableEq, Repr

def SearchError.message : SearchError → String
  | .malformed error => error.message
  | .unreadable path error =>
      "attempting to read `" ++ path ++ "` resulted in an error: " ++ error.words
  | .noMatch pattern => "glob pattern matched no files: " ++ pattern

/-- A pattern for paths. -/
structure PathPattern where
  rooted : Bool
  parts : List NamePattern
  /-- Whether only directories are meant. -/
  directories : Bool
deriving DecidableEq, Repr

def PathPattern.readParts : List (List Char) → Except PatternError (List NamePattern)
  | [] => .ok []
  | part :: rest => return (← NamePattern.read 0 true part) :: (← readParts rest)

/-- The pattern of a text; the text as a whole has to be in order too. -/
def PathPattern.ofText? (text : String) : Except PatternError PathPattern := do
  let _ ← NamePattern.ofText? text
  let rooted := FilePath.isRooted text
  let pieces := Document.pieces '/' [] (text.toList.drop (if rooted then 1 else 0))
  let ends := pieces.getLast? = some []
  return ⟨rooted, ← readParts (if ends then pieces.dropLast else pieces), ends⟩

/-- A place that a search has come to. -/
structure Visit where
  path : String
  name : String
  isDirectory : Bool
deriving DecidableEq, Repr

namespace Search

variable {m : Type → Type} [Monad m]

abbrev Listing (m : Type → Type) := ExceptT SearchError m (List String)

def below (directory name : String) : String :=
  if directory = "." then name else FilePath.join directory name

/-- What a path leads to, as a place of the search. -/
def visit (files : Files m) (path name : String) : ExceptT SearchError m Visit := do
  return ⟨path, name, (← files.kind? path) = some .directory⟩

/-- The listings of places one after another. -/
def each (next : Visit → Listing m) : List Visit → Listing m
  | [] => return []
  | place :: rest => return (← next place) ++ (← each next rest)

def inside (files : Files m) (place : Visit) : ExceptT SearchError m (List Visit) := do
  match ← files.names place.path with
  | .error error => throw (.unreadable place.path error)
  | .ok names =>
      (names.mergeSort fun first second => first ≤ second).mapM fun name =>
        visit files (below place.path name) name

/-- What is found at a place that answers all parts before `rest`. -/
def arrive
    (directories : Bool)
    (next : List NamePattern → Visit → Listing m)
    (rest : List NamePattern)
    (place : Visit) :
    Listing m :=
  if rest.isEmpty then
    return if directories && !place.isDirectory then [] else [place.path]
  else next rest place

/-- What is found when the name of a place is compared with the first part. -/
def compareName
    (directories : Bool)
    (next : List NamePattern → Visit → Listing m)
    (place : Visit) :
    List NamePattern → Listing m
  | [] => return []
  | part :: rest =>
      if part.isFor place.name then arrive directories next rest place else return []

/-- What is found at a place in a directory. A part for any number of directories is
answered by a directory, from where it goes on, and by none. -/
def examine
    (directories : Bool)
    (next : List NamePattern → Visit → Listing m)
    (part : NamePattern)
    (rest : List NamePattern)
    (place : Visit) :
    Listing m :=
  if part.isRecursive then do
    let after := rest.dropWhile NamePattern.isRecursive
    let here ←
      if after.isEmpty then pure (if place.isDirectory then [place.path] else [])
      else compareName directories next place after
    return here ++ (← if place.isDirectory then next (part :: after) place else pure [])
  else compareName directories next place (part :: rest)

/-- The two special names of a directory that a part with wildcards stands for. The part
has to open with a dot for that. -/
def specials (part : NamePattern) : List String :=
  if part.head? = some (.exactly '.') then ["..", "."].filter part.isFor else []

/-- What parts stand for below a place, as far down as a number of steps. -/
def descend (files : Files m) (directories : Bool) :
    Nat → List NamePattern → Visit → Listing m
  | 0, _, _ => return []
  | _, [], _ => return []
  | count + 1, part :: rest, place => do
      let next := descend files directories count
      match part.literal? with
      | some name =>
          let path := below place.path name
          let isThere := (← files.kind? path).isSome
          if if name = "." ∨ name = ".." then place.isDirectory else isThere then
            arrive directories next rest (← visit files path name)
          else return []
      | none =>
          if place.isDirectory then
            let special ← each (arrive directories next rest)
              (← (specials part).mapM fun name =>
                visit files (FilePath.join place.path name) name)
            return special ++
              (← each (examine directories next part rest) (← inside files place))
          else return []

/-- A number of steps that no search goes beyond: each answers a part or adds a name
and a slash to a path, and paths are shorter than that. -/
def depth (pattern : PathPattern) : Nat := pattern.parts.length + 4096

/-- The paths that the text of a pattern stands for. -/
def paths (files : Files m) (text : String) : Listing m := do
  match PathPattern.ofText? text with
  | .error error => throw (.malformed error)
  | .ok pattern =>
      let start ← visit files (if pattern.rooted then "/" else ".") ""
      let found ← descend files pattern.directories (depth pattern) pattern.parts start
      if found.isEmpty then throw (.noMatch text) else return found

end Search

end BlockSchema
