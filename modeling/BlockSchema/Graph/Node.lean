import BlockSchema.Graph.Shape

/-!
Contract: types with their directives applied, and the graphs they form.

A node holds the nodes of the types that its fields nest, so a node by itself is
complete. A graph lists every type once, and a type stands after all types it nests.
-/

set_option autoImplicit false

namespace BlockSchema

/-- A field with its directives applied; `ν` is what stands for a nested type. -/
structure FieldNode (ν : Type) where
  declared : String
  external : String
  shape : FieldShape ν
  effects : FieldEffects
  /-- The least model revision that has the field. -/
  version : UInt32
  description : Option String

/-- A type with its directives applied. -/
structure TypeNode where
  id : TypeId
  description : Option String
  /-- The least model revision that has the type. -/
  version : UInt32
  noSchema : Bool
  doc : Option DocWrapper
  /-- The type is registered by itself. -/
  registered : Bool
  /-- The fields in declaration order, without the excluded ones. -/
  fields : List (FieldNode TypeNode)
  /-- The declared names of the excluded fields, in declaration order. -/
  excluded : List String

def FieldNode.withShape
    {ν μ : Type}
    (field : FieldNode ν)
    (shape : FieldShape μ) :
    FieldNode μ :=
  ⟨field.declared, field.external, shape, field.effects, field.version, field.description⟩

def TypeNode.field? (node : TypeNode) (declared : String) : Option (FieldNode TypeNode) :=
  node.fields.find? fun field => field.declared = declared

/-- The nodes of a compilation, every type after the types it nests. -/
structure TypeGraph where
  nodes : List TypeNode

namespace TypeGraph

def get? (graph : TypeGraph) (id : TypeId) : Option TypeNode :=
  graph.nodes.find? fun node => node.id = id

def ids (graph : TypeGraph) : List TypeId :=
  graph.nodes.map TypeNode.id

end TypeGraph

end BlockSchema
