import BlockSchema.Document.Decode
import BlockSchema.Document.Json.Reader
import BlockSchema.Document.Yaml.Reader
import BlockSchema.Text.FilePath

/-!
Contract: the formats of document text.

The extension of a path decides the format: two extensions stand for YAML, and every
other path, with an extension or without one, stands for JSON.

A value is decoded while its text is read, so an error in it is found before damage
that follows it. JSON text ends with its value, whatever comes after; YAML text has to
be in order to its end.
-/

set_option autoImplicit false

namespace BlockSchema

/-- A format of document text. -/
inductive TextFormat where
  | json
  | yaml
deriving DecidableEq, Repr

namespace TextFormat

def yamlExtensions : List String := ["yaml", "yml"]

def ofPath (path : String) : TextFormat :=
  match FilePath.extension? path with
  | some extension => if yamlExtensions.contains extension then .yaml else .json
  | none => .json

/-- How errors about text of the format are worded. -/
def dialect : TextFormat → Dialect
  | .json => .json
  | .yaml => .yaml

end TextFormat

/-! ## Reading -/

def TextFormat.source (format : TextFormat) (text : String) : Source :=
  match format with
  | .json => ⟨Json.read text, true⟩
  | .yaml => Yaml.read text

def Source.decode {α : Type} (source : Source) (read : Tree → Decoded α) : Decoded α := do
  let value ← read source.tree
  if source.whole then return value else .error .malformed

def Document.ofText? (format : TextFormat) (text : String) : Decoded Document :=
  (format.source text).decode (Tree.readDocument [])

end BlockSchema
