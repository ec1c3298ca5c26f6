import BlockSchema.Document.Basic
import BlockSchema.Number.Shortest

/-!
Contract: documents as JSON text, in a compact and in an indented layout.

Strings escape the quote, the backslash and the controls, five of which have a letter
of their own. Empty collections stand on one line in both layouts.
-/

set_option autoImplicit false

namespace BlockSchema.Json

def stringChar (character : Char) : List Char :=
  if character = '"' then ['\\', '"']
  else if character = '\\' then ['\\', '\\']
  else if character = '\n' then ['\\', 'n']
  else if character = '\r' then ['\\', 'r']
  else if character = '\t' then ['\\', 't']
  else if character = '\x08' then ['\\', 'b']
  else if character = '\x0c' then ['\\', 'f']
  else if character.toNat < 32 then
    ['\\', 'u', '0', '0', if character.toNat < 16 then '0' else '1',
      Nat.digitChar (character.toNat % 16)]
  else [character]

def stringChars (text : String) : List Char :=
  '"' :: text.toList.flatMap stringChar ++ ['"']

def numberChars : Number → List Char
  | .int value => (toString value).toList
  | .real value => (Shortest.documentText value).toList

/-- A line break and the indentation of a depth, in the layouts that have them. -/
def breakLine (indented : Bool) (depth : Nat) : List Char :=
  if indented then '\n' :: List.replicate (2 * depth) ' ' else []

mutual

/-- The text of a document that stands at a depth. -/
def documentChars (indented : Bool) (depth : Nat) : Document → List Char
  | .null => ['n', 'u', 'l', 'l']
  | .bool true => ['t', 'r', 'u', 'e']
  | .bool false => ['f', 'a', 'l', 's', 'e']
  | .number value => numberChars value
  | .text value => stringChars value
  | .list [] => ['[', ']']
  | .list (item :: rest) =>
      '[' :: breakLine indented (depth + 1) ++ documentChars indented (depth + 1) item ++
        itemsChars indented depth rest
  | .object [] => ['\x7b', '\x7d']
  | .object ((key, value) :: rest) =>
      '\x7b' :: breakLine indented (depth + 1) ++ stringChars key ++
        (if indented then [':', ' '] else [':']) ++
        documentChars indented (depth + 1) value ++ entriesChars indented depth rest

/-- The items after the first one, and the closing bracket. -/
def itemsChars (indented : Bool) (depth : Nat) : List Document → List Char
  | [] => breakLine indented depth ++ [']']
  | item :: rest =>
      ',' :: breakLine indented (depth + 1) ++ documentChars indented (depth + 1) item ++
        itemsChars indented depth rest

/-- The entries after the first one, and the closing brace. -/
def entriesChars (indented : Bool) (depth : Nat) : List (String × Document) → List Char
  | [] => breakLine indented depth ++ ['\x7d']
  | (key, value) :: rest =>
      ',' :: breakLine indented (depth + 1) ++ stringChars key ++
        (if indented then [':', ' '] else [':']) ++
        documentChars indented (depth + 1) value ++ entriesChars indented depth rest

end

def compact (document : Document) : String :=
  String.ofList (documentChars false 0 document)

def pretty (document : Document) : String :=
  String.ofList (documentChars true 0 document)

end BlockSchema.Json
