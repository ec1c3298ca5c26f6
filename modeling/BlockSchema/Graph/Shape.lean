import BlockSchema.CompileError

/-!
Contract: the shapes of fields that schemas and conversions know.

A field holds a scalar or a nested type, plainly, by a pointer, in a list or in a map
from text keys. Every other nesting of shapes is refused with its reason.
-/

set_option autoImplicit false

namespace BlockSchema

/-- How a field holds its target. -/
inductive Arity where
  | plain
  | pointer
  | list
  | map
deriving DecidableEq, Repr

/-- What a field holds: a scalar, or a nested type given by `ν`. -/
inductive Target (ν : Type) where
  | scalar (type : ScalarType)
  | struct (nested : ν)
deriving DecidableEq, Repr

/-- The shape of a field. -/
structure FieldShape (ν : Type) where
  arity : Arity
  target : Target ν
deriving DecidableEq, Repr

def Target.nested? {ν : Type} : Target ν → Option ν
  | .scalar _ => none
  | .struct nested => some nested

def FieldShape.nested? {ν : Type} (shape : FieldShape ν) : Option ν :=
  shape.target.nested?

/-- Whether a value of the shape can be absent. -/
def FieldShape.isPointer {ν : Type} (shape : FieldShape ν) : Bool :=
  shape.arity == .pointer

/-- Whether a value of the shape is a list or a map. -/
def FieldShape.isCollection {ν : Type} (shape : FieldShape ν) : Bool :=
  shape.arity == .list || shape.arity == .map

def Shape.element? : Shape → Except ShapeFault (Target TypeId)
  | .scalar type => .ok (.scalar type)
  | .struct id => .ok (.struct id)
  | .pointer _ => .error .collectionOfPointers
  | .list _ | .map _ => .error .nestedCollection

def Shape.pointee? : Shape → Except ShapeFault (Target TypeId)
  | .scalar type => .ok (.scalar type)
  | .struct id => .ok (.struct id)
  | .pointer _ => .error .pointerToPointer
  | .list _ | .map _ => .error .pointerToCollection

def Shape.classify : Shape → Except ShapeFault (FieldShape TypeId)
  | .scalar type => .ok ⟨.plain, .scalar type⟩
  | .struct id => .ok ⟨.plain, .struct id⟩
  | .pointer inner => inner.pointee?.map (FieldShape.mk .pointer)
  | .list element => element.element?.map (FieldShape.mk .list)
  | .map element => element.element?.map (FieldShape.mk .map)

end BlockSchema
