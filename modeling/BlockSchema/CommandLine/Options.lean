/-!
Contract: the options of a command line and how arguments are read as such.

An option has a long name and some have a letter. A value stands in the same argument,
after an equals sign or right after the letter, or in the next one; one option takes
all the arguments that follow it. Every value counts when it is complete, so an error
in it comes up there and not where it begins.
-/

set_option autoImplicit false

namespace BlockSchema

/-- What a command line may ask for. -/
inductive Verb where
  | compile
  | check
  | schema
deriving DecidableEq, Repr

/-- An option. -/
inductive Flag where
  | jsonPointer
  | filter
  | manifest
  | plan
  | out
  | docsRoot
  | group
  | listOnly
  | type
  | help
deriving DecidableEq, Repr

/-- How many values an option has. -/
inductive ValueCount where
  | none
  | one
  | many
deriving DecidableEq, Repr

/-- Why a command line cannot be followed. -/
inductive UsageError where
  | help
  | nothing
  | unknownVerb
  | unknownArgument
  | missingArgument
  | missingValue
  | needlessValue
  | givenTwice
deriving DecidableEq, Repr

namespace Verb

def all : List Verb := [.compile, .check, .schema]

def word : Verb → String
  | .compile => "compile"
  | .check => "check"
  | .schema => "schema"

def ofWord? (word : String) : Option Verb :=
  all.find? fun verb => verb.word = word

def flags : Verb → List Flag
  | .compile =>
      [.jsonPointer, .filter, .manifest, .plan, .out, .docsRoot, .group, .listOnly, .help]
  | .check => [.jsonPointer, .filter, .manifest, .plan, .group, .help]
  | .schema => [.jsonPointer, .filter, .manifest, .plan, .type, .group, .help]

end Verb

namespace Flag

def word : Flag → String
  | .jsonPointer => "json-pointer"
  | .filter => "jq-expr"
  | .manifest => "manifest"
  | .plan => "plan"
  | .out => "out"
  | .docsRoot => "docs-root"
  | .group => "group"
  | .listOnly => "no-op"
  | .type => "type"
  | .help => "help"

def letter? : Flag → Option Char
  | .manifest => some 'm'
  | .plan => some 'p'
  | .out => some 'o'
  | .help => some 'h'
  | _ => none

def valueCount : Flag → ValueCount
  | .listOnly | .help => .none
  | .manifest => .many
  | _ => .one

/-- Whether the value of an option is a path, which is never empty. -/
def isPath : Flag → Bool
  | .plan | .out | .docsRoot => true
  | _ => false

end Flag

/-! ## Forms of arguments -/

/-- The form of an argument. -/
inductive Argument where
  | stop
  | long (word : String) (value : Option String)
  | short (letter : Char) (value : Option String)
  | plain (text : String)
deriving DecidableEq, Repr

/-- What is before the first equals sign, and what comes after it. -/
def Argument.splitAtEquals : List Char → List Char × Option (List Char)
  | [] => ([], none)
  | '=' :: rest => ([], some rest)
  | character :: rest =>
      let (front, back) := splitAtEquals rest
      (character :: front, back)

def Argument.ofText (text : String) : Argument :=
  match text.toList with
  | ['-', '-'] => .stop
  | '-' :: '-' :: rest =>
      let (word, value) := splitAtEquals rest
      .long (String.ofList word) (value.map String.ofList)
  | ['-', letter] => .short letter none
  | '-' :: letter :: '=' :: rest => .short letter (some (String.ofList rest))
  | '-' :: letter :: rest => .short letter (some (String.ofList rest))
  | _ => .plain text

/-! ## Reading -/

/-- The options given, in order, with their values. -/
abbrev Given := List (Flag × List String)

namespace Given

def has (given : Given) (flag : Flag) : Bool :=
  given.any fun entry => entry.1 = flag

def values (given : Given) (flag : Flag) : List String :=
  (given.filter fun entry => entry.1 = flag).flatMap Prod.snd

def value? (given : Given) (flag : Flag) : Option String :=
  (given.values flag).head?

def add (given : Given) (flag : Flag) (values : List String) : Except UsageError Given :=
  if flag = .help then .error .help
  else if flag.valueCount ≠ .none ∧ values.isEmpty then .error .missingValue
  else if flag.valueCount ≠ .many ∧ given.has flag then .error .givenTwice
  else if flag.isPath ∧ values.any String.isEmpty then .error .missingValue
  else .ok (given ++ [(flag, values)])

end Given

/-- How far arguments are read. -/
structure Reading where
  given : Given
  /-- An option whose values may stand in arguments of their own. -/
  open? : Option (Flag × List String)
deriving DecidableEq, Repr

namespace Reading

def start : Reading := ⟨[], none⟩

/-- The options given, the open one with what it has. -/
def close (reading : Reading) : Except UsageError Given :=
  match reading.open? with
  | none => .ok reading.given
  | some (flag, values) => reading.given.add flag values

/-- The reading after an option, with the value in its own argument if there is one. -/
def option (reading : Reading) (flag : Flag) (value : Option String) :
    Except UsageError Reading :=
  match flag.valueCount, value with
  | .none, some _ => .error .needlessValue
  | .none, none => do
      let given ← reading.close
      return ⟨← given.add flag [], none⟩
  | _, some value => do
      let given ← reading.close
      return ⟨← given.add flag [value], none⟩
  | _, none => do
      return ⟨← reading.close, some (flag, [])⟩

/-- The reading after an argument that is no option. -/
def plain (reading : Reading) (text : String) : Except UsageError Reading :=
  match reading.open? with
  | some (flag, values) =>
      if flag.valueCount = .many ∨ values.isEmpty then
        .ok { reading with open? := some (flag, values ++ [text]) }
      else .error .unknownArgument
  | none => .error .unknownArgument

/-- Reads arguments with the options of a verb. -/
def arguments (verb : Verb) (reading : Reading) : List String → Except UsageError Given
  | [] => reading.close
  | text :: rest =>
      match Argument.ofText text with
      | .stop => if rest.isEmpty then reading.close else .error .unknownArgument
      | .long word value =>
          match verb.flags.find? fun flag => flag.word = word with
          | none => .error .unknownArgument
          | some flag => do (← reading.option flag value).arguments verb rest
      | .short letter value =>
          match verb.flags.find? fun flag => flag.letter? = some letter with
          | none => .error .unknownArgument
          | some .help => do
              let _ ← reading.close
              .error .help
          | some flag => do (← reading.option flag value).arguments verb rest
      | .plain text => do (← reading.plain text).arguments verb rest

end Reading

end BlockSchema
