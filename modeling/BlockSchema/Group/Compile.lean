import BlockSchema.Conversion.Basic
import BlockSchema.Graph.Walk
import BlockSchema.Page.Basic
import BlockSchema.Plan.Basic

/-!
Contract: compiling the groups of a plan.

The tables of all registered types are resolved before any type is walked. The graph
of a group is what its registered types reach; every type of the graph has a
conversion, and every registered type has a schema, a doc page, both or neither, as
its directives say.
-/

set_option autoImplicit false

namespace BlockSchema

/-- A registered type with everything derived from it. -/
structure CompiledType where
  node : TypeNode
  /-- Absent when the type opts out. -/
  schema : Option Schema
  conversion : Conversion
  doc : Option DocPage

/-- A compiled group. -/
structure CompiledGroup where
  name : String
  readOnly : Bool
  docs : Option String
  roots : List CompiledType
  /-- The conversions of all types of the graph, in its order. -/
  conversions : List Conversion
  graph : TypeGraph

def CompiledGroup.root? (group : CompiledGroup) (id : TypeId) : Option CompiledType :=
  group.roots.find? fun root => root.node.id = id

/-- The table of a registration, unless the type is registered before. -/
def Registry.tableOf
    (manifest : Manifest)
    (group : String)
    (registry : Registry)
    (registration : Registration) :
    Except CompileError DirectiveTable :=
  let id := registration.typeId
  if registry.registers id then .error (.configuration id (.duplicateRegistration group))
  else
    match manifest.get? id with
    | none => .error (.configuration id (.unknownType group))
    | some definition =>
        match DirectiveTable.resolve definition registration.directives with
        | .error issue => .error (.configuration id issue)
        | .ok table => .ok table

/-- Adds the tables of registrations, in order. -/
def Registry.extend
    (manifest : Manifest)
    (group : String)
    (registry : Registry) :
    List Registration → Except CompileError Registry
  | [] => .ok registry
  | registration :: rest => do
      let table ← Registry.tableOf manifest group registry registration
      Registry.extend manifest group (registry ++ [(registration.typeId, table)]) rest

def Registry.ofGroup (manifest : Manifest) (group : GroupPlan) : Except CompileError Registry :=
  Registry.extend manifest group.name [] group.types

def Registry.ids (registry : Registry) : List TypeId :=
  registry.map Prod.fst

/-- The schema and the doc page of a node, with the schemas built so far. -/
def CompiledType.ofNode
    (readOnly : Bool)
    (node : TypeNode)
    (conversion : Conversion)
    (schemas : List Schema) :
    CompiledType × List Schema :=
  if node.noSchema && node.doc.isNone then (⟨node, none, conversion, none⟩, schemas)
  else
    let (schema, later) := (Schema.derive readOnly node).value schemas
    (⟨node, if node.noSchema then none else some schema, conversion,
        node.doc.map (DocPage.ofSchema schema)⟩, later)

/-- The roots of a group, from their nodes and conversions. -/
def CompiledType.ofNodes (readOnly : Bool) (schemas : List Schema) :
    List (TypeNode × Conversion) → List CompiledType
  | [] => []
  | (node, conversion) :: rest =>
      let (root, later) := CompiledType.ofNode readOnly node conversion schemas
      root :: CompiledType.ofNodes readOnly later rest

/-- Derives the conversions of a graph and then those of the roots in it. -/
def Conversion.deriveGroup (graph : TypeGraph) (roots : List TypeNode) :
    Deriving (List Conversion) :=
  (Building.each Conversion.derive graph.nodes).bind fun _ =>
    Building.each Conversion.derive roots

def GroupPlan.compile (group : GroupPlan) (manifest : Manifest) :
    Except CompileError CompiledGroup := do
  let registry ← Registry.ofGroup manifest group
  match walkAll manifest registry registry.ids [] with
  | (.error error, _) => .error error
  | (.ok roots, nodes) =>
      match Conversion.deriveGroup ⟨nodes⟩ roots [] with
      | (.error error, _) => .error error
      | (.ok ofRoots, conversions) =>
          .ok
            { name := group.name
              readOnly := group.readOnly
              docs := group.docs
              roots := CompiledType.ofNodes group.readOnly [] (roots.zip ofRoots)
              conversions := conversions
              graph := ⟨nodes⟩ }

/-- Compiles groups in order, up to the first that fails. -/
def compileGroups (manifest : Manifest) :
    List GroupPlan → Except CompileError (List CompiledGroup)
  | [] => .ok []
  | group :: rest => do
      let compiled ← group.compile manifest
      let others ← compileGroups manifest rest
      return compiled :: others

/-- Compiles a plan over a manifest whose references are all answered. -/
def Plan.compile (plan : Plan) (manifest : Manifest) :
    Except CompileError (List CompiledGroup) := do
  manifest.checkReferences
  compileGroups manifest plan.groups

end BlockSchema
