import BlockSchema.CommandLine.Run

/-!
Contract: the program, which does what its command line asks for on the files of the
machine.

This is the only part that acts on the world outside; what it does there is decided by
`Host.run`.
-/

set_option autoImplicit false

namespace BlockSchema

/-- What an error of the system means for an operation on files. -/
def FileError.ofSystem : IO.Error → FileError
  | .noFileOrDirectory _ _ _ => .notFound
  | .alreadyExists _ _ _ => .alreadyThere
  | .inappropriateType _ code _ => if code = 21 then .isADirectory else .notADirectory
  | .permissionDenied _ code _ =>
      .other ("Permission denied (os error " ++ toString code ++ ")")
  | error => .other (toString error)

/-- The outcome of an action on files, its exception as a value. -/
def fileOutcome {α : Type} (action : IO α) : IO (Except FileError α) := do
  match ← action.toBaseIO with
  | .ok value => return .ok value
  | .error error => return .error (.ofSystem error)

/-- A path as an entry of the file system, which can be asked for what is there. -/
def systemEntry (path : String) : IO.FS.DirEntry := ⟨path, ""⟩

def systemKind? (path : String) : IO (Option FileKind) := do
  match ← (systemEntry path).root.metadata.toBaseIO with
  | .error _ => return none
  | .ok metadata =>
      return some (match metadata.type with
        | .dir => .directory
        | _ => .file)

def systemText (path : String) : IO (Except FileError String) := do
  match ← fileOutcome (IO.FS.readBinFile path) with
  | .error error => return .error error
  | .ok bytes =>
      match String.fromUTF8? bytes with
      | some text => return .ok text
      | none => return .error (.other "stream did not contain valid UTF-8")

/-- The files and the streams of the machine. -/
def Host.system : Host IO where
  files :=
    { kind? := systemKind?
      names := fun path => fileOutcome do
        return ((← (systemEntry path).root.readDir).map IO.FS.DirEntry.fileName).toList
      read := systemText
      makeDirectory := fun path => fileOutcome (IO.FS.createDir path)
      write := fun path text => fileOutcome (IO.FS.writeFile path text) }
  print text := do (← IO.getStdout).putStr text
  report text := do (← IO.getStderr).putStr text

/-- The words for a command line that cannot be followed. -/
def UsageError.words : UsageError → String
  | .help | .nothing => ""
  | .unknownVerb => "error: unrecognized subcommand\n"
  | .unknownArgument => "error: unexpected argument\n"
  | .missingArgument => "error: a required argument was not provided\n"
  | .missingValue => "error: an argument has no value\n"
  | .needlessValue => "error: a value for an argument that takes none\n"
  | .givenTwice => "error: an argument cannot be used multiple times\n"

def usage : String :=
  "Usage: schemac <compile|check|schema> --manifest <MANIFEST>... --plan <PLAN>\n" ++
    "  compile --out <OUT> [--docs-root <DOCS_ROOT>] [--group <GROUP>] [--no-op]\n" ++
    "  check [--group <GROUP>]\n" ++
    "  schema --type <TYPE> --group <GROUP>\n" ++
    "Each also takes [--json-pointer <JSON_POINTER>] [--jq-expr <JQ_EXPR>]\n"

end BlockSchema

open BlockSchema in
def main (arguments : List String) : IO UInt32 := do
  match Request.ofArguments arguments with
  | .error .help =>
      IO.print usage
      return 0
  | .error error =>
      IO.eprint (error.words ++ usage)
      return 2
  | .ok request =>
      match ← (Host.system.run request).run with
      | .ok () => return 0
      | .error error =>
          IO.eprintln ("error: " ++ error.message)
          return 1
