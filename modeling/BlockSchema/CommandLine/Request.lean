import BlockSchema.CommandLine.Options

/-!
Contract: what a command line asks for.

The first argument names a verb, or asks for help; the others are its options.
-/

set_option autoImplicit false

namespace BlockSchema

/-- What is compiled. -/
structure Inputs where
  /-- Paths of manifests, or patterns for them. -/
  manifests : List String
  /-- Where the manifest is in each document. -/
  pointer : Option String
  /-- What turns each document into manifests. -/
  filter : Option String
  plan : String
deriving DecidableEq, Repr

/-- What a command line asks for. -/
inductive Request where
  /-- Compile groups, and write their files or only list them. -/
  | compile
      (inputs : Inputs)
      (out : String)
      (docsRoot : Option String)
      (group : Option String)
      (listOnly : Bool)
  /-- Compile groups and say what they have. -/
  | check (inputs : Inputs) (group : Option String)
  /-- Compile a group and print one of its schemas. -/
  | schema (inputs : Inputs) (type group : String)
deriving DecidableEq, Repr

namespace Given

/-- The value of an option that has to be given. -/
def required (given : Given) (flag : Flag) : Except UsageError String :=
  match given.value? flag with
  | some value => .ok value
  | none => .error .missingArgument

def inputs (given : Given) : Except UsageError Inputs := do
  let _ ← given.required .manifest
  return ⟨given.values .manifest, given.value? .jsonPointer, given.value? .filter,
    ← given.required .plan⟩

/-- What a verb asks for with the options given. -/
def request (given : Given) : Verb → Except UsageError Request
  | .compile => do
      return .compile (← given.inputs) (← given.required .out) (given.value? .docsRoot)
        (given.value? .group) (given.has .listOnly)
  | .check => return .check (← given.inputs) (given.value? .group)
  | .schema => do
      return .schema (← given.inputs) (← given.required .type) (← given.required .group)

end Given

namespace Request

def helpWord : String := "help"

def isCommand (word : String) : Bool :=
  word = helpWord || (Verb.ofWord? word).isSome

/-- What is wrong with asking for help on words. -/
def helpOn : List String → UsageError
  | [] => .help
  | [word] => if isCommand word then .help else .unknownVerb
  | _ :: _ :: _ => .unknownVerb

/-- What a text without a verb before it has wrong. -/
def withoutVerb (text : String) (rest : List String) : UsageError :=
  match Argument.ofText text with
  | .stop =>
      match rest with
      | [] => .nothing
      | word :: _ => if isCommand word then .unknownArgument else .unknownVerb
  | .long word none => if word = Flag.help.word then .help else .unknownArgument
  | .long word (some _) => if word = Flag.help.word then .needlessValue else .unknownArgument
  | .short letter _ => if Flag.help.letter? = some letter then .help else .unknownArgument
  | .plain _ => .unknownVerb

def ofArguments : List String → Except UsageError Request
  | [] => .error .nothing
  | word :: rest =>
      match Verb.ofWord? word with
      | some verb => do (← Reading.start.arguments verb rest).request verb
      | none => .error (if word = helpWord then helpOn rest else withoutVerb word rest)

end Request

end BlockSchema
