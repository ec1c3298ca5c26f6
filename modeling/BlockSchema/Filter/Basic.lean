import BlockSchema.Document.Basic

/-!
Contract: filters, small programs that turn a document into documents.

A filter takes one document and gives any number of them. A call names a function with
a number of arguments; the functions that exist are listed here.
-/

set_option autoImplicit false

namespace BlockSchema

/-- A filter. -/
inductive Filter where
  | identity
  | literal (value : Document)
  /-- A part of a target, chosen by a key or a position. -/
  | index (target key : Filter)
  | slice (target : Filter) (low high : Option Filter)
  | parts (target : Filter)
  | pipe (first second : Filter)
  | comma (first second : Filter)
  /-- The first filter's useful documents, or else the second's. -/
  | alternative (first second : Filter)
  | equals (left right : Filter)
  | differs (left right : Filter)
  | negate (operand : Filter)
  | collect (content : Option Filter)
  | object (entries : List (Filter × Filter))
  | conditional (condition whenTrue whenFalse : Filter)
  | call (name : String) (arguments : List Filter)
  | variable (name : String)
deriving Repr, Inhabited

/-- Why a filter gives no documents. -/
inductive FilterError where
  | malformed
  /-- It calls a function or names a variable that does not exist. -/
  | undefined
  | failed
deriving DecidableEq, Repr

namespace Filter

/-- The functions that exist, with the numbers of their arguments. -/
def functions : List (String × Nat) :=
  [("empty", 0), ("error", 0), ("error", 1), ("length", 0), ("keys", 0), ("select", 1),
   ("map", 1), ("not", 0), ("true", 0), ("false", 0), ("null", 0)]

mutual

/-- Whether everything that a filter refers to exists. -/
def isDefined : Filter → Bool
  | .identity | .literal _ => true
  | .index target key => target.isDefined && key.isDefined
  | .slice target low high => target.isDefined && isDefinedOption low && isDefinedOption high
  | .parts target => target.isDefined
  | .pipe first second | .comma first second | .alternative first second =>
      first.isDefined && second.isDefined
  | .equals left right | .differs left right => left.isDefined && right.isDefined
  | .negate operand => operand.isDefined
  | .collect content => isDefinedOption content
  | .object entries => isDefinedEntries entries
  | .conditional condition whenTrue whenFalse =>
      condition.isDefined && whenTrue.isDefined && whenFalse.isDefined
  | .call name arguments =>
      functions.contains (name, arguments.length) && isDefinedList arguments
  | .variable _ => false

/-- The same for a filter that may be left out. -/
def isDefinedOption : Option Filter → Bool
  | none => true
  | some filter => filter.isDefined

def isDefinedList : List Filter → Bool
  | [] => true
  | filter :: rest => filter.isDefined && isDefinedList rest

/-- The same for the keys and values of entries. -/
def isDefinedEntries : List (Filter × Filter) → Bool
  | [] => true
  | (key, value) :: rest => key.isDefined && value.isDefined && isDefinedEntries rest

end

end Filter

end BlockSchema
