import BlockSchema.Name.Words

/-!
Contract: the names that identifiers of the model take in what is produced.

The external name is the key of a field in schemas and generic values. The member
name is the identifier of the field in emitted conversion source, where reserved
words are written in raw form.
-/

set_option autoImplicit false

namespace BlockSchema.Name

/-- The external name of a declared identifier. -/
def external (declared : String) : String :=
  snake declared

/-- A character that may follow the first one of an external name. -/
def isExternalTail (character : Char) : Bool :=
  character.isLower || character.isDigit || character == '_'

/-- An external name is a lower case ASCII letter followed by lower case ASCII
letters, digits and underscores. -/
def isExternalChars : List Char → Bool
  | [] => false
  | first :: rest => first.isLower && rest.all isExternalTail

/-- Whether a text is usable as an external name. -/
def isExternal (name : String) : Bool :=
  isExternalChars name.toList

/-- Words that emitted source writes in raw form. -/
def reservedWords : List String :=
  ["as", "async", "await", "break", "const", "continue", "dyn", "else", "enum", "extern",
   "false", "fn", "for", "gen", "if", "impl", "in", "let", "loop", "match", "mod", "move",
   "mut", "pub", "ref", "return", "static", "struct", "trait", "true", "type", "unsafe",
   "use", "where", "while", "abstract", "become", "box", "do", "final", "macro", "override",
   "priv", "try", "typeof", "unsized", "virtual", "yield"]

/-- Words that have no raw form, so they take a trailing underscore. -/
def pathWords : List String :=
  ["self", "super", "crate"]

/-- The member name that stands for a snake case name in emitted source. -/
def escapeReserved (name : String) : String :=
  if pathWords.contains name then name ++ "_"
  else if reservedWords.contains name then "r#" ++ name
  else name

/-- The identifier of a declared field in emitted source. -/
def member (declared : String) : String :=
  escapeReserved (snake declared)

end BlockSchema.Name
