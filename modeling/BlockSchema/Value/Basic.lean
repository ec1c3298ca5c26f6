import BlockSchema.Document.Basic
import BlockSchema.Manifest.Basic

/-!
Contract: generic values, as a user of a schema writes them.

A block maps external names to values. A single nested block stands in a list of at
most one. Blocks are equal when they give every key equal values, in whatever order,
and real numbers are equal when they agree as numbers.
-/

set_option autoImplicit false

namespace BlockSchema

/-- A scalar value. -/
inductive Scalar where
  | bool (value : Bool)
  | int (value : Int64)
  | float (value : Binary64)
  | string (value : String)
deriving DecidableEq, Repr, Inhabited

namespace Scalar

/-- The scalar that stands for no value of a kind. -/
def zero : ScalarKind → Scalar
  | .string => .string ""
  | .int => .int 0
  | .bool => .bool false
  | .float => .float .zero

def kind : Scalar → ScalarKind
  | .bool _ => .bool
  | .int _ => .int
  | .float _ => .float
  | .string _ => .string

def same : Scalar → Scalar → Bool
  | .float left, .float right => left.agrees right
  | left, right => left == right

@[simp] theorem kind_zero (kind : ScalarKind) : (zero kind).kind = kind := by
  cases kind <;> rfl

end Scalar

/-- A generic value. -/
inductive Value where
  | null
  | scalar (value : Scalar)
  | list (items : List Value)
  | block (entries : List (String × Value))
deriving BEq, Repr, Inhabited

/-- What a generic value is, as messages say it. -/
inductive ValueClass where
  | null
  | scalar (kind : ScalarKind)
  | list
  | block
deriving DecidableEq, Repr

def ValueClass.words : ValueClass → String
  | .null => "null"
  | .scalar .bool => "a bool"
  | .scalar .int => "an int"
  | .scalar .float => "a float"
  | .scalar .string => "a string"
  | .list => "a list"
  | .block => "a block"

namespace Value

def classify : Value → ValueClass
  | .null => .null
  | .scalar value => .scalar value.kind
  | .list _ => .list
  | .block _ => .block

mutual

def same : Value → Value → Bool
  | .null, .null => true
  | .scalar left, .scalar right => left.same right
  | .list left, .list right => sameItems left right
  | .block left, .block right => left.length == right.length && sameEntries left right
  | _, _ => false

def sameItems : List Value → List Value → Bool
  | [], [] => true
  | left :: lefts, right :: rights => left.same right && sameItems lefts rights
  | _, _ => false

/-- Whether every entry has an equal value under its key in other entries. -/
def sameEntries : List (String × Value) → List (String × Value) → Bool
  | [], _ => true
  | (key, left) :: lefts, rights =>
      match Entries.get? key rights with
      | some right => left.same right && sameEntries lefts rights
      | none => false

end

def leastInt : Int := -(twoTo 63 : Int)

def greatestInt : Int := (twoTo 63 : Int) - 1

mutual

/-- The value of a document. Integers beyond the machine's range are real numbers. -/
def ofDocument : Document → Value
  | .null => .null
  | .bool value => .scalar (.bool value)
  | .number (.int value) =>
      if leastInt ≤ value ∧ value ≤ greatestInt then .scalar (.int (Int64.ofInt value))
      else .scalar (.float (Binary64.ofInt value))
  | .number (.real value) => .scalar (.float value)
  | .text value => .scalar (.string value)
  | .list items => .list (ofDocuments items)
  | .object entries => .block (ofDocumentEntries entries)

def ofDocuments : List Document → List Value
  | [] => []
  | item :: rest => ofDocument item :: ofDocuments rest

def ofDocumentEntries : List (String × Document) → List (String × Value)
  | [] => []
  | (key, value) :: rest => (key, ofDocument value) :: ofDocumentEntries rest

end

end Value

end BlockSchema
