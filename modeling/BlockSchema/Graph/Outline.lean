import BlockSchema.Graph.Node

/-!
Contract: what a type says about its fields by itself, nested types not looked into.

An outline has the fields up to the first one that is faulty by itself: its external
name is not valid, an earlier field has the same one, or its shape is not supported.
Excluded fields are left out before any of this is asked.
-/

set_option autoImplicit false

namespace BlockSchema

/-- The directive tables of the registered types, in the order of registration. -/
abbrev Registry := List (TypeId × DirectiveTable)

/-- The table of a type; a type that is not registered has no directives. -/
def Registry.table (registry : Registry) (id : TypeId) : DirectiveTable :=
  (registry.lookup id).getD .empty

def Registry.registers (registry : Registry) (id : TypeId) : Bool :=
  (registry.lookup id).isSome

/-- The fields of a type by themselves. -/
structure Outline where
  fields : List (FieldNode TypeId)
  /-- Why the field after the listed ones is faulty. -/
  fault? : Option CompileError

namespace Outline

def externalName (effects : FieldEffects) (field : FieldDef) : String :=
  Name.external (effects.rename.getD field.name)

/-- The least revision that has a field of a type. -/
def fieldVersion (table : DirectiveTable) (effects : FieldEffects) (field : FieldDef) :
    UInt32 :=
  max (max table.version (field.since.getD 0)) (effects.version.getD 0)

/-- A field by itself; `taken` has the external names of the fields before it, with
their declared names. -/
def field?
    (id : TypeId)
    (table : DirectiveTable)
    (taken : List (String × String))
    (field : FieldDef) :
    Except CompileError (FieldNode TypeId) :=
  let effects := table.effectsOn field.name
  let external := externalName effects field
  if !Name.isExternal external then
    .error (.configuration id (.invalidExternalName external field.name))
  else
    match taken.lookup external with
    | some first => .error (.configuration id (.duplicateExternalName external first field.name))
    | none =>
        match field.shape.classify with
        | .error fault => .error (.unsupportedShape (.field id field.name) fault)
        | .ok shape =>
            .ok ⟨field.name, external, shape, effects, fieldVersion table effects field,
              field.description⟩

/-- The outline of the fields after some others. -/
def ofFields
    (id : TypeId)
    (table : DirectiveTable)
    (taken : List (String × String)) :
    List FieldDef → Outline
  | [] => ⟨[], none⟩
  | field :: rest =>
      if table.excludes field.name then ofFields id table taken rest
      else
        match field? id table taken field with
        | .error error => ⟨[], some error⟩
        | .ok node =>
            let later := ofFields id table ((node.external, field.name) :: taken) rest
            ⟨node :: later.fields, later.fault?⟩

def ofType (definition : TypeDef) (table : DirectiveTable) : Outline :=
  ofFields definition.id table [] definition.fields

/-- The declared names of the excluded fields. -/
def excluded (definition : TypeDef) (table : DirectiveTable) : List String :=
  (definition.fields.map FieldDef.name).filter table.excludes

end Outline

end BlockSchema
