import BlockSchema.Directive.Basic

/-!
Contract: plans, which say what types are compiled in what groups and with what
directives.
-/

set_option autoImplicit false

namespace BlockSchema

/-- Where emitted source finds the model and the helpers. -/
structure Settings where
  modelPath : String
  runtimePath : String
deriving DecidableEq, Repr

def Settings.standard : Settings := ⟨"crate::model", "schemac"⟩

instance : Inhabited Settings := ⟨.standard⟩

/-- A type registered in a group, with its directives. -/
structure Registration where
  typeId : TypeId
  directives : List Directive
deriving DecidableEq, Repr, Inhabited

/-- A group of a plan. -/
structure GroupPlan where
  name : String
  /-- The directory of the group's doc pages below the root of all pages. -/
  docs : Option String
  readOnly : Bool
  types : List Registration
deriving DecidableEq, Repr, Inhabited

/-- A plan. -/
structure Plan where
  settings : Settings
  groups : List GroupPlan
deriving DecidableEq, Repr, Inhabited

def Plan.group? (plan : Plan) (name : String) : Option GroupPlan :=
  plan.groups.find? fun group => group.name = name

def Plan.only (plan : Plan) (name : String) : Plan :=
  { plan with groups := plan.groups.filter fun group => group.name = name }

end BlockSchema
