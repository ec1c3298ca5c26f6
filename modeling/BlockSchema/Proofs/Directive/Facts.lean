import BlockSchema.Directive.Table
import Mathlib.Data.String.Basic

/-!
Contract: directives as lists of facts, and the facts that a table holds.

A directive says facts, most of them about one field each. Applying directives in order is
putting their facts into a table one by one. A fact is refused only for a fact that the
table holds already and that gives the same slot another value. So what a table holds in the
end is what was said, and whether there is an end depends on pairs of facts alone.
-/

set_option autoImplicit false

namespace BlockSchema

/-- What a directive says about one field. -/
inductive Effect where
  | mark (kind : Mark)
  | rename (name : String)
  | version (version : UInt32)
deriving DecidableEq, Repr

def Effect.label : Effect → String
  | .mark kind => kind.label
  | .rename _ => "rename"
  | .version _ => "field_version"

/-- One thing that a directive says. -/
inductive Fact where
  | field (name : String) (effect : Effect)
  | version (version : UInt32)
  | noSchema
  | doc (wrapper : DocWrapper)
deriving DecidableEq, Repr

def Directive.facts : Directive → List Fact
  | .mark kind names => names.map fun name => .field name (.mark kind)
  | .rename declared name => [.field declared (.rename name)]
  | .version revision => [.version revision]
  | .fieldVersion revision names => names.map fun name => .field name (.version revision)
  | .noSchema => [.noSchema]
  | .doc wrapper => [.doc wrapper]

/-- What directives say, in their order. -/
def Fact.ofDirectives (directives : List Directive) : List Fact :=
  directives.flatMap Directive.facts

/-- An added directive says its facts, wherever it stands. -/
theorem Fact.mem_ofDirectives_insert
    {fact : Fact}
    (directive : Directive)
    (front back : List Directive) :
    fact ∈ Fact.ofDirectives (front ++ directive :: back) ↔
      fact ∈ directive.facts ∨ fact ∈ Fact.ofDirectives (front ++ back) := by
  simp only [Fact.ofDirectives, List.flatMap_append, List.flatMap_cons, List.mem_append]
  exact or_left_comm

/-! ## Slots, which take one value -/

/-- How two values of a slot are told in an issue: in one order, whichever is given first. -/
structure Slot (α : Type) where
  directive : String
  text : α → String
  before : α → α → Bool
  ordered : ∀ {first second}, first ≠ second →
    DirectiveTable.clash directive (text first) (text second) (before first second) =
      DirectiveTable.clash directive (text second) (text first) (before second first)

namespace Slot

open DirectiveTable

private theorem clash_not (directive first second : String) (inOrder : Bool) :
    clash directive first second inOrder = clash directive second first !inOrder := by
  cases inOrder <;> rfl

def name : Slot String where
  directive := "rename"
  text := id
  before := textBefore
  ordered := by
    intro first second differs
    have flipped : textBefore second first = !textBefore first second := by
      rcases lt_or_gt_of_ne differs with less | greater
      · simp [textBefore, less, not_lt_of_gt less]
      · simp [textBefore, greater, not_lt_of_gt greater]
    rw [flipped, ← clash_not]

def revision (directive : String) : Slot UInt32 where
  directive := directive
  text := fun revision => toString revision.toNat
  before := revisionBefore
  ordered := by
    intro first second differs
    have apart : first.toNat ≠ second.toNat := fun same => differs (UInt32.toNat_inj.mp same)
    have flipped : revisionBefore second first = !revisionBefore first second := by
      simp only [revisionBefore, UInt32.lt_iff_toNat_lt, ← decide_not, decide_eq_decide]
      omega
    rw [flipped, ← clash_not]

def wrapper : Slot DocWrapper where
  directive := "doc"
  text := wrapperText
  before := wrapperBefore
  ordered := by
    intro first second _
    -- Two wrappers may be told by one text; the order is then of no account.
    rcases lt_trichotomy (wrapperText first) (wrapperText second) with less | same | greater
    · simp [wrapperBefore, less, not_lt_of_gt less, clash]
    · simp [same, clash]
    · simp [wrapperBefore, greater, not_lt_of_gt greater, clash]

variable {α : Type} [DecidableEq α] (slot : Slot α)

/-- The issue with a value beside the one that a slot has, unless they are equal. -/
def dispute? (existing value : α) : Option ConfigurationIssue :=
  if existing = value then none
  else some (clash slot.directive (slot.text existing) (slot.text value)
    (slot.before existing value))

variable {slot} {held : Option α} {existing value other : α}

theorem dispute?_eq_none : slot.dispute? existing value = none ↔ existing = value := by
  simp [dispute?]

private theorem dispute?_comm : slot.dispute? existing value = slot.dispute? value existing := by
  by_cases same : existing = value
  · simp [dispute?, same]
  · simp [dispute?, same, Ne.symm same, slot.ordered same]

/-- A value is settled unless the slot has a value that it disputes. -/
theorem bind_settle
    {β : Type}
    (slot : Slot α)
    (held : Option α)
    (value : α)
    (next : Option α → Except ConfigurationIssue β) :
    (settle slot.directive slot.text slot.before held value >>= next) =
      match held.bind (slot.dispute? · value) with
      | some issue => .error issue
      | none => next (some value) := by
  cases held with
  | none => rfl
  | some existing =>
      by_cases same : existing = value
      · simp [settle, dispute?, same, bind, Except.bind]
      · simp [settle, dispute?, same, bind, Except.bind]

/-- A slot that has settled a value has this value, and had no other. -/
theorem some_eq_iff (undisputed : held.bind (slot.dispute? · value) = none) :
    some value = some other ↔ other = value ∨ held = some other := by
  rw [Option.some.injEq]
  constructor
  · exact fun same => .inl same.symm
  · rintro (same | there)
    · exact same.symm
    · rw [there, Option.bind_some] at undisputed
      exact (dispute?_eq_none.mp undisputed).symm

end Slot

/-! ## Facts that give one slot two values -/

/-- The issue with an effect beside another one on the same field. -/
def Effect.dispute? : Effect → Effect → Option ConfigurationIssue
  | .rename existing, .rename name => Slot.name.dispute? existing name
  | .version existing, .version revision =>
      (Slot.revision "field_version").dispute? existing revision
  | _, _ => none

/-- The issue with a fact beside another one. -/
def Fact.dispute? : Fact → Fact → Option ConfigurationIssue
  | .field existing held, .field name effect =>
      if existing = name then held.dispute? effect else none
  | .version existing, .version revision => (Slot.revision "version").dispute? existing revision
  | .doc existing, .doc wrapper => Slot.wrapper.dispute? existing wrapper
  | _, _ => none

private theorem Effect.dispute?_comm (first second : Effect) :
    first.dispute? second = second.dispute? first := by
  cases first <;> cases second <;> first | rfl | exact Slot.dispute?_comm

theorem Fact.dispute?_comm (first second : Fact) :
    first.dispute? second = second.dispute? first := by
  cases first <;> cases second <;> try first | rfl | exact Slot.dispute?_comm
  case field.field name effect other otherEffect =>
    by_cases same : name = other
    · simp [dispute?, same, effect.dispute?_comm otherEffect]
    · simp [dispute?, same, Ne.symm same]

theorem Fact.dispute?_self (fact : Fact) : fact.dispute? fact = none := by
  cases fact with
  | noSchema => rfl
  | version revision => exact Slot.dispute?_eq_none.mpr rfl
  | doc wrapper => exact Slot.dispute?_eq_none.mpr rfl
  | field name effect =>
      rw [dispute?, if_pos rfl]
      cases effect with
      | mark kind => rfl
      | rename name => exact Slot.dispute?_eq_none.mpr rfl
      | version revision => exact Slot.dispute?_eq_none.mpr rfl

/-- An issue with two of some facts. -/
def Disputed (facts : List Fact) (issue : ConfigurationIssue) : Prop :=
  ∃ first ∈ facts, ∃ second ∈ facts, first.dispute? second = some issue

theorem Disputed.congr {facts others : List Fact} {issue : ConfigurationIssue}
    (disputed : Disputed facts issue)
    (same : ∀ fact, fact ∈ facts ↔ fact ∈ others) :
    Disputed others issue := by
  obtain ⟨first, firstMember, second, secondMember, isDispute⟩ := disputed
  exact ⟨first, (same first).mp firstMember, second, (same second).mp secondMember, isDispute⟩

/-! ## Effects on a field -/

namespace FieldEffects

/-- An effect is among those on a field. -/
def Holds (effects : FieldEffects) : Effect → Prop
  | .mark kind => effects.has kind = true
  | .rename name => effects.rename = some name
  | .version revision => effects.version = some revision

def put (effects : FieldEffects) : Effect → FieldEffects
  | .mark kind => effects.set kind
  | .rename name => { effects with rename := some name }
  | .version revision => { effects with version := some revision }

/-- The issue with an effect beside those on a field. -/
def dispute? (effects : FieldEffects) : Effect → Option ConfigurationIssue
  | .mark _ => Option.none
  | .rename name => effects.rename.bind (Slot.name.dispute? · name)
  | .version revision =>
      effects.version.bind ((Slot.revision "field_version").dispute? · revision)

private theorem has_set (effects : FieldEffects) (kind other : Mark) :
    (effects.set kind).has other = true ↔ other = kind ∨ effects.has other = true := by
  cases kind <;> cases other <;> simp [set, has]

theorem not_holds_none (effect : Effect) : ¬ none.Holds effect := by
  cases effect with
  | mark kind => cases kind <;> simp [Holds, none, has]
  | rename name => simp [Holds, none]
  | version revision => simp [Holds, none]

/-- Effects are the same when the same effects are among them. -/
theorem eq_of_holds {left right : FieldEffects}
    (same : ∀ effect, left.Holds effect ↔ right.Holds effect) :
    left = right := by
  have marks : ∀ kind, left.has kind = right.has kind := fun kind =>
    Bool.eq_iff_iff.mpr (same (.mark kind))
  have renames : left.rename = right.rename := Option.ext fun name => same (.rename name)
  have versions : left.version = right.version :=
    Option.ext fun revision => same (.version revision)
  obtain ⟨required, computed, computedOnly, sensitive, forceNew, nullable, excluded, _, _⟩ := left
  obtain rfl : required = right.required := marks .required
  obtain rfl : computed = right.computed := marks .computed
  obtain rfl : computedOnly = right.computedOnly := marks .computedOnly
  obtain rfl : sensitive = right.sensitive := marks .sensitive
  obtain rfl : forceNew = right.forceNew := marks .forceNew
  obtain rfl : nullable = right.nullable := marks .nullable
  obtain rfl : excluded = right.excluded := marks .exclude
  obtain rfl := renames
  obtain rfl := versions
  rfl

theorem dispute?_eq_some {effects : FieldEffects} {effect : Effect} {issue : ConfigurationIssue} :
    effects.dispute? effect = some issue ↔
      ∃ held, effects.Holds held ∧ held.dispute? effect = some issue := by
  constructor
  · intro found
    cases effect with
    | mark kind => cases found
    | rename name =>
        obtain ⟨existing, there, disputed⟩ := Option.bind_eq_some_iff.mp found
        exact ⟨.rename existing, there, disputed⟩
    | version revision =>
        obtain ⟨existing, there, disputed⟩ := Option.bind_eq_some_iff.mp found
        exact ⟨.version existing, there, disputed⟩
  · rintro ⟨held, holds, disputed⟩
    cases held <;> cases effect <;> try cases disputed
    case rename.rename => exact Option.bind_eq_some_iff.mpr ⟨_, holds, disputed⟩
    case version.version => exact Option.bind_eq_some_iff.mpr ⟨_, holds, disputed⟩

/-- No two effects on a field dispute each other. -/
theorem Holds.dispute?_eq_none {effects : FieldEffects} {first second : Effect}
    (holdsFirst : effects.Holds first)
    (holdsSecond : effects.Holds second) :
    first.dispute? second = Option.none := by
  cases first <;> cases second <;> try rfl
  case rename.rename =>
    exact Slot.dispute?_eq_none.mpr (Option.some.inj (holdsFirst.symm.trans holdsSecond))
  case version.version =>
    exact Slot.dispute?_eq_none.mpr (Option.some.inj (holdsFirst.symm.trans holdsSecond))

/-- Putting an effect that disputes none adds it to those that are there. -/
theorem holds_put {effects : FieldEffects} {effect : Effect}
    (undisputed : effects.dispute? effect = Option.none)
    (other : Effect) :
    (effects.put effect).Holds other ↔ other = effect ∨ effects.Holds other := by
  cases effect with
  | mark kind =>
      cases other with
      | mark otherKind => simpa [Holds, put] using effects.has_set kind otherKind
      | rename name => cases kind <;> simp [Holds, put, set]
      | version revision => cases kind <;> simp [Holds, put, set]
  | rename name =>
      cases other with
      | mark kind => cases kind <;> simp [Holds, put, has]
      | version revision => simp [Holds, put]
      | rename otherName => simpa [Holds, put] using Slot.some_eq_iff undisputed
  | version revision =>
      cases other with
      | mark kind => cases kind <;> simp [Holds, put, has]
      | rename name => simp [Holds, put]
      | version otherRevision => simpa [Holds, put] using Slot.some_eq_iff undisputed

end FieldEffects

end BlockSchema
