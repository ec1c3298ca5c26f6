import BlockSchema.Value.Basic

/-!
Contract: reading the parts of generic values, with the reasons why one cannot be read.

A part that is missing, a null and an empty list all stand for no value. Integers
widen where a real number is wanted. Elements of lists and maps cannot be without a
value.
-/

set_option autoImplicit false

namespace BlockSchema

/-- What a field wanted instead of what it found. -/
inductive Wanted where
  | scalar (kind : ScalarKind)
  | element (kind : ScalarKind)
  | singleBlock
  | list
  | map
deriving DecidableEq, Repr

def Wanted.words : Wanted → String
  | .scalar kind => kind.label
  | .element kind => kind.label ++ " element"
  | .singleBlock => "a list of at most one block"
  | .list => "a list"
  | .map => "a map"

/-- Why a generic value is no structure of a type. -/
inductive ExpandError where
  /-- Something else stands where a block of the type belongs. -/
  | notABlock (type : TypeId) (found : ValueClass)
  | tooManyBlocks (field : String) (count : Nat)
  | mismatch (field : String) (wanted : Wanted) (found : ValueClass)
deriving DecidableEq, Repr

def ExpandError.message : ExpandError → String
  | .notABlock type found =>
      "expand " ++ type.text ++ " failure, input is " ++ found.words ++ " instead of a block"
  | .tooManyBlocks field count =>
      "field `" ++ field ++ "` holds " ++ toString count ++ " blocks but accepts at most one"
  | .mismatch field wanted found =>
      "field `" ++ field ++ "`: expected " ++ wanted.words ++ ", found " ++ found.words

abbrev Expanded (α : Type) := Except ExpandError α

namespace Value

def isNothing : Value → Bool
  | .null => true
  | .list items => items.isEmpty
  | _ => false

def present? : Option Value → Option Value
  | none => none
  | some value => if value.isNothing then none else some value

def scalarAs? (kind : ScalarKind) : Value → Option Scalar
  | .scalar (.int value) =>
      match kind with
      | .float => some (.float (Binary64.ofInt value.toInt))
      | .int => some (.int value)
      | _ => none
  | .scalar value => if value.kind = kind then some value else none
  | _ => none

/-- Reads a scalar of a kind, if there is a value. -/
def readScalar (field : String) (kind : ScalarKind) (input : Option Value) :
    Expanded (Option Scalar) :=
  match present? input with
  | none => .ok none
  | some value =>
      match value.scalarAs? kind with
      | some read => .ok (some read)
      | none => .error (.mismatch field (.scalar kind) value.classify)

def readElement (field : String) (kind : ScalarKind) (input : Value) : Expanded Scalar := do
  match ← readScalar field kind (some input) with
  | some read => return read
  | none => .error (.mismatch field (.element kind) input.classify)

def readBlock (type : TypeId) : Value → Expanded (Entries Value)
  | .block entries => .ok entries
  | other => .error (.notABlock type other.classify)

/-- Reads a single block, written as a list of at most one; a null in the list counts
as none. -/
def readSingle {α : Type} (field : String) (read : Value → Expanded α) (input : Option Value) :
    Expanded (Option α) :=
  match present? input with
  | none => .ok none
  | some (.list [.null]) => .ok none
  | some (.list [only]) => (read only).map some
  | some (.list items) => .error (.tooManyBlocks field items.length)
  | some other => .error (.mismatch field .singleBlock other.classify)

def readItems {α : Type} (read : Value → Expanded α) : List Value → Expanded (List α)
  | [] => .ok []
  | item :: rest => do
      let value ← read item
      let values ← readItems read rest
      return value :: values

def readEntries {α : Type} (read : Value → Expanded α) :
    List (String × Value) → Expanded (List (String × α))
  | [] => .ok []
  | (key, item) :: rest => do
      let value ← read item
      let values ← readEntries read rest
      return (key, value) :: values

def readList {α : Type} (field : String) (read : Value → Expanded α) (input : Option Value) :
    Expanded (List α) :=
  match present? input with
  | none => .ok []
  | some (.list items) => readItems read items
  | some other => .error (.mismatch field .list other.classify)

def readMap {α : Type} (field : String) (read : Value → Expanded α) (input : Option Value) :
    Expanded (List (String × α)) :=
  match present? input with
  | none => .ok []
  | some (.block entries) => readEntries read entries
  | some other => .error (.mismatch field .map other.classify)

end Value

end BlockSchema
