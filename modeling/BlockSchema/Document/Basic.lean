import BlockSchema.Entries
import BlockSchema.Number.Reading

/-!
Contract: documents, the common form of JSON and YAML data.

The entries of an object keep the order in which their keys first appeared. A
complete document has no key twice in one object.
-/

set_option autoImplicit false

namespace BlockSchema

/-- A value of a data format. -/
inductive Document where
  | null
  | bool (value : Bool)
  | number (value : Number)
  | text (value : String)
  | list (items : List Document)
  | object (entries : List (String × Document))
deriving BEq, Repr, Inhabited

namespace Document

def nat (value : Nat) : Document :=
  .number (.int value)

def get? (key : String) : Document → Option Document
  | .object entries => Entries.get? key entries
  | _ => none

/-- A step into a document by one token of a pointer. Positions of a list are decimal
numbers without a sign or a leading zero. -/
def step? (token : String) : Document → Option Document
  | .object entries => Entries.get? token entries
  | .list items =>
      match token.toList with
      | [] => none
      | first :: rest =>
          if !((first :: rest).all Char.isDigit) then none
          else if first = '0' ∧ rest ≠ [] then none
          else items[Number.natOfDigits ((first :: rest).map fun digit => digit.toNat - 48)]?
  | _ => none

/-- Undoes the two escapes of a pointer token. The tilde is restored last, so an
escaped tilde before a digit stays a tilde and that digit. -/
def unescapeToken : List Char → List Char
  | '~' :: '1' :: rest => '/' :: unescapeToken rest
  | '~' :: '0' :: rest => '~' :: unescapeToken rest
  | character :: rest => character :: unescapeToken rest
  | [] => []

def pieces (separator : Char) (piece : List Char) : List Char → List (List Char)
  | [] => [piece]
  | character :: rest =>
      if character = separator then piece :: pieces separator [] rest
      else pieces separator (piece ++ [character]) rest

/-- The part of a document that a pointer selects. The empty pointer selects all of
it, any other pointer begins with a slash. -/
def pointer? (pointer : String) (document : Document) : Option Document :=
  match pointer.toList with
  | [] => some document
  | '/' :: rest =>
      (pieces '/' [] rest).foldl
        (fun found token =>
          found.bind (step? (String.ofList (unescapeToken token))))
        (some document)
  | _ => none

end Document

end BlockSchema
