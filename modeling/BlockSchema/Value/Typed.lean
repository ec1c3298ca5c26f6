import BlockSchema.Value.Basic

/-!
Contract: typed values, as the model's own code holds them.

A structure maps the declared names of its type's fields to values; a declared field
without a value stands for the zero value. Pointers are explicit, and a map keeps its
keys in ascending order.
-/

set_option autoImplicit false

namespace BlockSchema

/-- A typed value. -/
inductive TypedValue where
  | scalar (value : Scalar)
  | pointer (target : Option TypedValue)
  | struct (type : TypeId) (fields : List (String × TypedValue))
  | list (items : List TypedValue)
  | map (entries : List (String × TypedValue))
deriving Repr, Inhabited

/-- A structure of a type. -/
structure TypedStruct where
  type : TypeId
  fields : Entries TypedValue
deriving Repr, Inhabited

namespace TypedStruct

def toValue (struct : TypedStruct) : TypedValue :=
  .struct struct.type struct.fields

/-- The value of a declared field, when the structure has one. -/
def get? (struct : TypedStruct) (declared : String) : Option TypedValue :=
  struct.fields.get? declared

/-- The structure with the value of a field set, in place when it has one. -/
def set (struct : TypedStruct) (declared : String) (value : TypedValue) : TypedStruct :=
  ⟨struct.type, struct.fields.insert declared value⟩

/-- The structure without a value for a field. -/
def unset (struct : TypedStruct) (declared : String) : TypedStruct :=
  ⟨struct.type, struct.fields.erase declared⟩

end TypedStruct

namespace TypedValue

mutual

/-- Equality of typed values; the order of a structure's fields does not count. -/
def same : TypedValue → TypedValue → Bool
  | .scalar left, .scalar right => left.same right
  | .pointer none, .pointer none => true
  | .pointer (some left), .pointer (some right) => left.same right
  | .struct leftType lefts, .struct rightType rights =>
      leftType == rightType && lefts.length == rights.length && sameFields lefts rights
  | .list lefts, .list rights => sameItems lefts rights
  | .map lefts, .map rights => sameEntries lefts rights
  | _, _ => false

/-- Whether every field has an equal value among other fields. -/
def sameFields : List (String × TypedValue) → List (String × TypedValue) → Bool
  | [], _ => true
  | (name, left) :: lefts, rights =>
      match Entries.get? name rights with
      | some right => left.same right && sameFields lefts rights
      | none => false

def sameItems : List TypedValue → List TypedValue → Bool
  | [], [] => true
  | left :: lefts, right :: rights => left.same right && sameItems lefts rights
  | _, _ => false

def sameEntries : List (String × TypedValue) → List (String × TypedValue) → Bool
  | [], [] => true
  | (leftKey, left) :: lefts, (rightKey, right) :: rights =>
      leftKey == rightKey && left.same right && sameEntries lefts rights
  | _, _ => false

end

end TypedValue

def TypedStruct.same (left right : TypedStruct) : Bool :=
  left.toValue.same right.toValue

end BlockSchema
