import BlockSchema.Directive.Table
import BlockSchema.Document.TextFormat
import BlockSchema.Manifest.Format

/-!
Contract: the reasons why a compilation fails, and their wording.

Every reason is fatal. A reason names the type or field at which it came up, as a
value; text is made of it in one place, `CompileError.message`.
-/

set_option autoImplicit false

namespace BlockSchema

/-- A place in the model. -/
inductive Site where
  | type (id : TypeId)
  | field (owner : TypeId) (name : String)
deriving DecidableEq, Repr

def Site.text : Site → String
  | .type id => id.text
  | .field owner name => owner.text ++ "." ++ name

/-- Why a shape has no counterpart in schemas. -/
inductive ShapeFault where
  | pointerToPointer
  | pointerToCollection
  | collectionOfPointers
  | nestedCollection
  /-- A field refers to a type that the manifest does not define. -/
  | danglingReference (missing : TypeId)
  /-- The type at the place is not defined. -/
  | undefinedType
  /-- Types that nest each other; the first one stands at both ends. -/
  | nestsItself (cycle : List TypeId)
deriving DecidableEq, Repr

def ShapeFault.words : ShapeFault → String
  | .pointerToPointer => "pointer to pointer"
  | .pointerToCollection => "pointer to a collection"
  | .collectionOfPointers => "collection of pointers"
  | .nestedCollection => "nested collection"
  | .danglingReference missing =>
      "type `" ++ missing.text ++ "` has no definition in the manifest"
  | .undefinedType => "type has no definition in the manifest"
  | .nestsItself cycle =>
      "type nests itself (" ++ String.intercalate " -> " (cycle.map TypeId.text) ++ ")"

/-- Why expanding what was flattened could not give the value back. -/
inductive RoundTripFault where
  /-- An explicit null would come back as a zero value or an empty collection. -/
  | nullableWithoutPointer (collection : Bool)
  /-- A required field sits inside a block that is never read. -/
  | requiredBelowComputed (field : String) (owner : TypeId)
deriving DecidableEq, Repr

def RoundTripFault.words : RoundTripFault → String
  | .nullableWithoutPointer collection =>
      "nullable field has a non-pointer shape, an explicit null would flatten back as " ++
        (if collection then "an empty collection" else "the zero value")
  | .requiredBelowComputed field owner =>
      "computed-only block nests required field `" ++ field ++ "` of `" ++ owner.text ++
        "`, expand could never supply it"

/-- Why a compilation fails. -/
inductive CompileError where
  /-- The directives of a type fit neither each other nor the type. -/
  | configuration (type : TypeId) (issue : ConfigurationIssue)
  | unsupportedShape (site : Site) (fault : ShapeFault)
  | roundTrip (site : Site) (fault : RoundTripFault)
  | manifest (error : ManifestError)
  /-- The text of a plan could not be read; `origin` is its path, when it has one. -/
  | plan (origin : Option String) (format : TextFormat) (error : DecodeError)
deriving DecidableEq, Repr

/-- The words for an inconsistent registration. -/
def ConfigurationIssue.words : ConfigurationIssue → String
  | .unknownField field directive =>
      "directive `" ++ directive ++ "` names field `" ++ field ++ "` which does not exist"
  | .conflict field first second =>
      "field `" ++ field ++ "` cannot be both `" ++ first ++ "` and `" ++ second ++ "`"
  | .noSchemaWithFieldDirectives directives =>
      "`no_schema` cannot be combined with field directives (" ++
        String.intercalate ", " directives ++ ")"
  | .conflictingValues directive first second =>
      "conflicting values for `" ++ directive ++ "`: " ++ first ++ " vs " ++ second
  | .duplicateExternalName name first second =>
      "external name `" ++ name ++ "` is produced by both `" ++ first ++ "` and `" ++ second ++
        "`"
  | .invalidExternalName name field =>
      "external name `" ++ name ++ "` (from field `" ++ field ++
        "`) is not a valid attribute name"
  | .duplicateRegistration group =>
      "type is registered more than once in group `" ++ group ++ "`"
  | .unknownType group =>
      "type is registered in group `" ++ group ++ "` but missing from the manifest"

def ManifestFault.words : ManifestFault → String
  | .typeTwice id => "type `" ++ id.text ++ "` is defined more than once"
  | .fieldTwice id field =>
      "type `" ++ id.text ++ "` declares field `" ++ field ++ "` more than once"

/-- The words for an error of reading a manifest. -/
def ManifestError.words : ManifestError → String
  | .malformed error => error.message .document
  | .fault reason => reason.words

def CompileError.message : CompileError → String
  | .configuration type issue =>
      "configuration error in `" ++ type.text ++ "`: " ++ issue.words
  | .unsupportedShape site fault =>
      "unsupported shape at `" ++ site.text ++ "`: " ++ fault.words
  | .roundTrip site fault =>
      "conversion invariant violated at `" ++ site.text ++ "`: " ++ fault.words
  | .manifest error => "manifest error: " ++ error.words
  | .plan origin format error =>
      "plan error: " ++ (origin.elim "" fun path => path ++ ": ") ++
        error.message format.dialect

/-- The reference of a manifest that no type answers, as an error. -/
def Manifest.checkReferences (manifest : Manifest) : Except CompileError Unit :=
  match manifest.firstDangling? with
  | none => .ok ()
  | some dangling =>
      .error (.unsupportedShape (.field dangling.owner dangling.field)
        (.danglingReference dangling.missing))

end BlockSchema
