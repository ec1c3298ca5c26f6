import BlockSchema.Manifest.Basic

/-!
Contract: the directives that a registration may give for a record type, and the
effects they have on its fields.
-/

set_option autoImplicit false

namespace BlockSchema

/-- Marks that a directive puts on fields. -/
inductive Mark where
  | required
  | computed
  | computedOnly
  | sensitive
  | forceNew
  | nullable
  | exclude
deriving DecidableEq, Repr

def Mark.label : Mark → String
  | .required => "required"
  | .computed => "computed"
  | .computedOnly => "computed_only"
  | .sensitive => "sensitive"
  | .forceNew => "force_new"
  | .nullable => "nullable"
  | .exclude => "exclude"

/-- The marks in the order in which they are listed. -/
def Mark.all : List Mark :=
  [.required, .computed, .computedOnly, .sensitive, .forceNew, .nullable, .exclude]

/-- Texts around a doc page. -/
structure DocWrapper where
  header : String
  footer : String
deriving DecidableEq, Repr, Inhabited

/-- One directive of a registration. -/
inductive Directive where
  | mark (kind : Mark) (names : List String)
  | rename (declared : String) (name : String)
  /-- The least model revision of the whole type. -/
  | version (version : UInt32)
  /-- The least model revision of single fields. -/
  | fieldVersion (version : UInt32) (names : List String)
  /-- The type gets no schema of its own. -/
  | noSchema
  | doc (wrapper : DocWrapper)
deriving DecidableEq, Repr

def Directive.label : Directive → String
  | .mark kind _ => kind.label
  | .rename _ _ => "rename"
  | .version _ => "version"
  | .fieldVersion _ _ => "field_version"
  | .noSchema => "no_schema"
  | .doc _ => "doc"

def Directive.fieldNames : Directive → List String
  | .mark _ names => names
  | .rename declared _ => [declared]
  | .fieldVersion _ names => names
  | .version _ | .noSchema | .doc _ => []

/-- What the directives of a type say about one field. -/
structure FieldEffects where
  required : Bool
  computed : Bool
  computedOnly : Bool
  sensitive : Bool
  forceNew : Bool
  nullable : Bool
  excluded : Bool
  rename : Option String
  version : Option UInt32
deriving DecidableEq, Repr

namespace FieldEffects

def none : FieldEffects :=
  ⟨false, false, false, false, false, false, false, Option.none, Option.none⟩

instance : Inhabited FieldEffects := ⟨none⟩

def has (effects : FieldEffects) : Mark → Bool
  | .required => effects.required
  | .computed => effects.computed
  | .computedOnly => effects.computedOnly
  | .sensitive => effects.sensitive
  | .forceNew => effects.forceNew
  | .nullable => effects.nullable
  | .exclude => effects.excluded

def set (effects : FieldEffects) : Mark → FieldEffects
  | .required => { effects with required := true }
  | .computed => { effects with computed := true }
  | .computedOnly => { effects with computedOnly := true }
  | .sensitive => { effects with sensitive := true }
  | .forceNew => { effects with forceNew := true }
  | .nullable => { effects with nullable := true }
  | .exclude => { effects with excluded := true }

/-- The names of the effects that are there, in a fixed order. -/
def labels (effects : FieldEffects) : List String :=
  (Mark.all.filter effects.has).map Mark.label ++
    (if effects.rename.isSome then ["rename"] else []) ++
    (if effects.version.isSome then ["field_version"] else [])

/-- The pairs of marks that exclude each other, in the order in which they are
looked for. -/
def opposedMarks : List (Mark × Mark) :=
  [(.required, .computedOnly), (.required, .computed), (.computed, .computedOnly),
   (.required, .nullable), (.forceNew, .computedOnly)]

/-- The first two effects that cannot stand together. An excluded field takes no other
effect at all. -/
def conflict? (effects : FieldEffects) : Option (String × String) :=
  if effects.excluded then
    (effects.labels.find? fun label => label != Mark.exclude.label).map fun other =>
      (Mark.exclude.label, other)
  else
    (opposedMarks.find? fun pair => effects.has pair.1 && effects.has pair.2).map fun pair =>
      (pair.1.label, pair.2.label)

end FieldEffects

end BlockSchema
