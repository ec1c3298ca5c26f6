/-!
Contract: what a program may do with files.

The operations are a record over a monad, so the same program runs on files kept in
memory and on those of a machine. Every operation reports a failure as a value.
-/

set_option autoImplicit false

namespace BlockSchema

/-- What a path leads to. -/
inductive FileKind where
  | file
  | directory
deriving DecidableEq, Repr

/-- Why an operation on files fails. -/
inductive FileError where
  | notFound
  | alreadyThere
  | notADirectory
  | isADirectory
  | nameTooLong
  | other (words : String)
deriving DecidableEq, Repr

def FileError.words : FileError → String
  | .notFound => "No such file or directory (os error 2)"
  | .alreadyThere => "File exists (os error 17)"
  | .notADirectory => "Not a directory (os error 20)"
  | .isADirectory => "Is a directory (os error 21)"
  | .nameTooLong => "File name too long (os error 36)"
  | .other words => words

/-- Operations on files. -/
structure Files (m : Type → Type) where
  /-- What a path leads to, if it leads anywhere. -/
  kind? : String → m (Option FileKind)
  /-- The names in a directory, in any order. -/
  names : String → m (Except FileError (List String))
  read : String → m (Except FileError String)
  /-- Makes one directory in a directory that is there. -/
  makeDirectory : String → m (Except FileError Unit)
  /-- Makes or replaces a file in a directory that is there. -/
  write : String → String → m (Except FileError Unit)

namespace Files

variable {m : Type → Type} [Monad m]

/-- The outcome of making a directory; one that is there already will do. -/
def settle (files : Files m) (path : String) :
    Except FileError Unit → m (Except FileError Unit)
  | .ok () => return .ok ()
  | .error error => do
      if (← files.kind? path) = some .directory then return .ok () else return .error error

/-- Makes a directory after those above it, which are given innermost first. -/
def makeChain (files : Files m) : List String → m (Except FileError Unit)
  | [] => return .ok ()
  | path :: above => do
      match ← files.makeDirectory path with
      | .error .notFound =>
          match ← files.makeChain above with
          | .ok () => files.settle path (← files.makeDirectory path)
          | .error error => return .error error
      | outcome => files.settle path outcome

end Files

end BlockSchema
