import BlockSchema.Document.Basic

/-!
Contract: document text as far as it could be read.

A tree is what a reader hands to a decoder. Text that breaks off or goes wrong
somewhere still has a tree, whose damaged place is marked. A decoder walks the tree
in the order of the text, so it meets a value of the wrong kind before damage that
comes later, and damage before a wrong value that comes later.

Scalars are atoms. An atom says what it reads as for each kind of wish, because a
format may accept one scalar as text where text is wanted and as a number elsewhere.
-/

set_option autoImplicit false

namespace BlockSchema

/-- What a scalar stands for when no kind is wished for. -/
inductive Meaning where
  | null
  | bool (value : Bool)
  | number (value : Number)
  | text (value : String)
  /-- An integer beyond the machine's range, by its digits. -/
  | wide (digits : String)
  /-- A scalar declared to be of a kind that its text is not. -/
  | misfit (written expected : String)
deriving DecidableEq, Repr, Inhabited

/-- A scalar of document text. -/
structure Atom where
  meaning : Meaning
  /-- The text it gives where text is wished for. -/
  text? : Option String
  /-- The truth value it gives where one is wished for. -/
  bool? : Option Bool
  /-- The natural number it gives where one is wished for. -/
  natural? : Option Nat
  /-- Whether it stands for a part that is left out; none when it is declared to and
  does not. -/
  absent? : Option Bool
  /-- It stands for an empty collection. -/
  blank : Bool
deriving DecidableEq, Repr, Inhabited

/-- A key of an object: text, or a collection where text belongs. -/
inductive Key where
  | text (value : String)
  | list
  | object
deriving DecidableEq, Repr, Inhabited

/-- Document text as far as it could be read. A collection that is not `whole` is
damaged after the parts listed. -/
inductive Tree where
  | atom (value : Atom)
  | list (items : List Tree) (whole : Bool)
  | object (entries : List (Key × Tree)) (whole : Bool)
  /-- A value under a tag of the document's own. -/
  | tagged (value : Tree)
  | broken
deriving Repr, Inhabited

/-- What a text holds, as far as it could be read. -/
structure Source where
  tree : Tree
  /-- The text after the value is in order too. -/
  whole : Bool
deriving Repr

def Source.damaged : Source := ⟨.broken, false⟩

/-- The natural number that a number is, if it is one. -/
def Number.natural? : Number → Option Nat
  | .int value => if 0 ≤ value then some value.toNat else none
  | .real _ => none

/-- A scalar that reads only as the kind it is. -/
def Atom.strict (meaning : Meaning) : Atom where
  meaning := meaning
  text? := match meaning with
    | .text value => some value
    | _ => none
  bool? := match meaning with
    | .bool value => some value
    | _ => none
  natural? := match meaning with
    | .number value => value.natural?
    | _ => none
  absent? := match meaning with
    | .null => some true
    | _ => some false
  blank := false

mutual

def Document.toTree : Document → Tree
  | .null => .atom (.strict .null)
  | .bool value => .atom (.strict (.bool value))
  | .number value => .atom (.strict (.number value))
  | .text value => .atom (.strict (.text value))
  | .list items => .list (Document.toTrees items) true
  | .object entries => .object (Document.toTreeEntries entries) true

def Document.toTrees : List Document → List Tree
  | [] => []
  | item :: rest => item.toTree :: Document.toTrees rest

def Document.toTreeEntries : List (String × Document) → List (Key × Tree)
  | [] => []
  | (key, value) :: rest => (.text key, value.toTree) :: Document.toTreeEntries rest

end

end BlockSchema
