import BlockSchema.Proofs.Conversion.Memory
import BlockSchema.Proofs.Group.Acceptance

/-!
Contract: what derivations remember is not observable in what they give.

A session shares one walker, the schemas and the conversions between any steps, and a step
that fails leaves behind what it had built. Schemas and conversions are found again by their
types alone. That is enough because the walker has one node for a type: whatever is remembered
is what one of its nodes gives by itself, and later nodes do not change that.
-/

set_option autoImplicit false

namespace BlockSchema

/-! ## Nodes inside nodes -/

/-- A node is another one or stands inside it, at any depth. -/
def TypeNode.Within (inner outer : TypeNode) : Prop :=
  Relation.ReflTransGen (fun nested node => nested ∈ node.nested) inner outer

/-- What stands inside a node without a fault has none. -/
theorem TypeNode.Within.faultless
    {inner outer : TypeNode}
    (within : inner.Within outer)
    (faultless : outer.conversionFault? = none) :
    inner.conversionFault? = none := by
  induction within using Relation.ReflTransGen.head_induction_on with
  | refl => exact faultless
  | head isNested _ inductionHypothesis =>
      exact (TypeNode.conversionFault?_eq_none.mp inductionHypothesis).2 _ isNested

/-- More nodes change nothing about what is remembered of some. -/
theorem Remembers.mono
    {ε ρ : Type}
    {alone : TypeNode → Except ε ρ}
    {nodes more : List TypeNode}
    {built : List ρ}
    (remembers : Remembers alone nodes built)
    (grown : nodes <+: more) :
    Remembers alone more built := by
  intro result inside
  obtain ⟨node, member, given⟩ := remembers result inside
  exact ⟨node, grown.subset member, given⟩

/-! ## Sessions -/

/-- A walker, and what was derived from its nodes. -/
structure Session where
  walker : Walker
  schemas : List Schema
  conversions : List Conversion

namespace Session

/-- A walk for a type, or a derivation from the node that the walker has for a type. -/
inductive Step where
  | walk (id : TypeId)
  | schema (id : TypeId)
  | conversion (id : TypeId)
deriving DecidableEq, Repr

def fresh : Session := ⟨.fresh, [], []⟩

/-- The node that the walker has for a type. -/
def node? (session : Session) (id : TypeId) : Option TypeNode :=
  TypeGraph.get? ⟨session.walker.nodes⟩ id

section Runs

variable (manifest : Manifest) (registry : Registry) (readOnly : Bool)

/-- The session after a step, which may fail. Nothing is derived for a type that the walker
has no node for. -/
def step (session : Session) : Step → Session
  | .walk id => { session with walker := (session.walker.call manifest registry id).2 }
  | .schema id =>
      match session.node? id with
      | none => session
      | some node => { session with schemas := (Schema.derive readOnly node session.schemas).2 }
  | .conversion id =>
      match session.node? id with
      | none => session
      | some node => { session with conversions := (Conversion.derive node session.conversions).2 }

/-- The session after steps in order, whatever each of them gives. -/
def after (steps : List Step) : Session :=
  steps.foldl (step manifest registry readOnly) fresh

/-- Between steps no type is under way, the nodes are well built, and what is remembered is
what the nodes give by themselves. -/
structure Sound (session : Session) : Prop where
  idle : session.walker.stack = []
  built : WellBuilt manifest registry session.walker.nodes
  schemas : Remembers (TypeNode.derivedSchema readOnly) session.walker.nodes session.schemas
  conversions : Remembers TypeNode.converted session.walker.nodes session.conversions
  inOrder : Conversion.InOrder session.conversions

end Runs

/-- A session keeps everything that another one has, where it is. -/
structure Extends (earlier later : Session) : Prop where
  nodes : earlier.walker.nodes <+: later.walker.nodes
  schemas : earlier.schemas <+: later.schemas
  conversions : earlier.conversions <+: later.conversions

private theorem Extends.refl (session : Session) : session.Extends session :=
  ⟨List.prefix_refl _, List.prefix_refl _, List.prefix_refl _⟩

private theorem Extends.trans
    {first second third : Session}
    (left : first.Extends second)
    (right : second.Extends third) :
    first.Extends third :=
  ⟨left.nodes.trans right.nodes, left.schemas.trans right.schemas,
    left.conversions.trans right.conversions⟩

variable {manifest : Manifest} {registry : Registry} {readOnly : Bool} {session : Session}

private theorem mem_of_node?
    {id : TypeId}
    {node : TypeNode}
    (found : session.node? id = some node) :
    node ∈ session.walker.nodes :=
  List.mem_of_find?_eq_some found

namespace Sound

variable (sound : session.Sound manifest registry readOnly)

include sound

private theorem schema_advances {node : TypeNode} (member : node ∈ session.walker.nodes) :
    Building.Advances (Remembers (TypeNode.derivedSchema readOnly) session.walker.nodes)
      session.schemas (Schema.derive readOnly node session.schemas)
      (Derived (TypeNode.derivedSchema readOnly) node) :=
  Schema.derive_alone readOnly sound.built.coherent node member session.schemas sound.schemas

private theorem conversion_advances {node : TypeNode} (member : node ∈ session.walker.nodes) :
    Building.Advances (Remembers TypeNode.converted session.walker.nodes)
      session.conversions (Conversion.derive node session.conversions)
      (Derived TypeNode.converted node) :=
  Conversion.derive_alone sound.built.coherent node member session.conversions sound.conversions

private theorem walk_advances (id : TypeId) :
    ∃ nodes, (session.walker.call manifest registry id).2 = ⟨nodes, []⟩ ∧
      WellBuilt manifest registry nodes ∧ session.walker.nodes <+: nodes ∧
      ∀ node, (session.walker.call manifest registry id).1 = .ok node → node ∈ nodes := by
  have advanced := BlockSchema.walk_advances [] id ⟨sound.built, by simp⟩
  rw [Walker.call_eq, sound.idle]
  exact ⟨_, rfl, advanced.kept.built, advanced.grown, fun node given =>
    (advanced.ensured.2 node given).1⟩

/-- A step leaves a sound session that has all that was there before. -/
theorem after_step (step : Step) :
    (session.step manifest registry readOnly step).Sound manifest registry readOnly ∧
      session.Extends (session.step manifest registry readOnly step) := by
  cases step with
  | walk id =>
      obtain ⟨nodes, called, built, grown, _⟩ := sound.walk_advances id
      rw [Session.step, called]
      exact ⟨⟨rfl, built, sound.schemas.mono grown, sound.conversions.mono grown, sound.inOrder⟩,
        ⟨grown, List.prefix_refl _, List.prefix_refl _⟩⟩
  | schema id =>
      rw [Session.step]
      cases found : session.node? id with
      | none => exact ⟨sound, .refl session⟩
      | some node =>
          have advanced := sound.schema_advances (mem_of_node? found)
          exact ⟨{ sound with schemas := advanced.kept },
            ⟨List.prefix_refl _, advanced.grown, List.prefix_refl _⟩⟩
  | conversion id =>
      rw [Session.step]
      cases found : session.node? id with
      | none => exact ⟨sound, .refl session⟩
      | some node =>
          have advanced := sound.conversion_advances (mem_of_node? found)
          have ordered := Conversion.derive_inOrder node sound.inOrder
          exact ⟨{ sound with conversions := advanced.kept, inOrder := ordered.kept },
            ⟨List.prefix_refl _, List.prefix_refl _, advanced.grown⟩⟩

/-- A type whose node has a fault somewhere below has no conversion. -/
theorem not_converted
    {inner outer : TypeNode}
    (within : inner.Within outer)
    (member : outer ∈ session.walker.nodes)
    {error : CompileError}
    (failed : inner.converted = .error error) :
    ∀ conversion ∈ session.conversions, conversion.typeId ≠ outer.id := by
  intro conversion remembered named
  obtain ⟨node, isNode, given⟩ := sound.conversions conversion remembered
  obtain ⟨faultless, rfl⟩ := TypeNode.converted_eq_ok.mp given
  rw [TypeNode.conversion_typeId] at named
  obtain rfl := sound.built.eq_of_id_eq isNode member named
  rw [TypeNode.converted, within.faultless faultless] at failed
  cases failed

end Sound

section Runs

variable (manifest : Manifest) (registry : Registry) (readOnly : Bool)

private theorem after_concat (steps : List Step) (step : Step) :
    after manifest registry readOnly (steps ++ [step]) =
      (after manifest registry readOnly steps).step manifest registry readOnly step :=
  List.foldl_concat _ _ _ _

private theorem after_sound (steps : List Step) :
    (after manifest registry readOnly steps).Sound manifest registry readOnly := by
  induction steps using List.reverseRecOn with
  | nil => exact ⟨rfl, .nothing, .nothing, .nothing, .nothing⟩
  | append_singleton steps step inductionHypothesis =>
      rw [after_concat]
      exact (inductionHypothesis.after_step step).1

private theorem after_extends (steps more : List Step) :
    (after manifest registry readOnly steps).Extends
      (after manifest registry readOnly (steps ++ more)) := by
  induction more using List.reverseRecOn with
  | nil => exact (List.append_nil steps).symm ▸ .refl _
  | append_singleton more step inductionHypothesis =>
      have sound := after_sound manifest registry readOnly (steps ++ more)
      rw [← List.append_assoc, after_concat]
      exact inductionHypothesis.trans (sound.after_step step).2

/-- What was remembered in a run cannot be told from what is derived afterwards. -/
structure Transparent (steps : List Step) : Prop where
  /-- The walker has every node that it gave. -/
  walked : ∀ id node,
    ((after manifest registry readOnly steps).walker.call manifest registry id).1 = .ok node →
      node ∈ (after manifest registry readOnly (steps ++ [.walk id])).walker.nodes
  kept : ∀ more, (after manifest registry readOnly steps).Extends
    (after manifest registry readOnly (steps ++ more))
  schemas : ∀ node ∈ (after manifest registry readOnly steps).walker.nodes,
    (Schema.derive readOnly node (after manifest registry readOnly steps).schemas).1 =
      (Schema.derive readOnly node fresh.schemas).1
  conversions : ∀ node ∈ (after manifest registry readOnly steps).walker.nodes,
    (Conversion.derive node (after manifest registry readOnly steps).conversions).1 =
      (Conversion.derive node fresh.conversions).1
  /-- What fails is never remembered, nor is a type around it. -/
  failed : ∀ node ∈ (after manifest registry readOnly steps).walker.nodes, ∀ error,
    (Conversion.derive node (after manifest registry readOnly steps).conversions).1 =
        .error error →
      (after manifest registry readOnly steps).conversions <+:
          (Conversion.derive node (after manifest registry readOnly steps).conversions).2 ∧
        ∀ more, ∀ outer ∈ (after manifest registry readOnly (steps ++ more)).walker.nodes,
          node.Within outer →
            ∀ conversion ∈ (after manifest registry readOnly (steps ++ more)).conversions,
              conversion.typeId ≠ outer.id
  inOrder : ∀ earlier conversion later,
    (after manifest registry readOnly steps).conversions = earlier ++ conversion :: later →
      ∀ inner, Relation.TransGen (fun nested outer => nested ∈ outer.nested) inner conversion →
        inner ∈ earlier

/-- Whatever steps share a walker and what is derived from its nodes, also when some of them
fail: a node gives the schema and the conversion, or the error, that it gives when nothing is
remembered. A failure costs nothing that was remembered and adds nothing around it, and the
conversions are in order. -/
theorem after_transparent (steps : List Step) :
    Transparent manifest registry readOnly steps := by
  have sound := after_sound manifest registry readOnly steps
  have schemaAlone : ∀ node ∈ (after manifest registry readOnly steps).walker.nodes,
      (Schema.derive readOnly node fresh.schemas).1 = node.derivedSchema readOnly :=
    fun node member =>
      (Schema.derive_alone readOnly sound.built.coherent node member [] .nothing).ensured.1
  have conversionAlone : ∀ node ∈ (after manifest registry readOnly steps).walker.nodes,
      (Conversion.derive node fresh.conversions).1 = node.converted :=
    fun node member =>
      (Conversion.derive_alone sound.built.coherent node member [] .nothing).ensured.1
  exact
    { walked := by
        intro id node given
        obtain ⟨nodes, called, _, _, remembered⟩ := sound.walk_advances id
        rw [after_concat, step, called]
        exact remembered node given
      kept := after_extends manifest registry readOnly steps
      schemas := fun node member =>
        (sound.schema_advances member).ensured.1.trans (schemaAlone node member).symm
      conversions := fun node member =>
        (sound.conversion_advances member).ensured.1.trans (conversionAlone node member).symm
      failed := by
        intro node member error failed
        have advanced := sound.conversion_advances member
        refine ⟨advanced.grown, fun more outer isOuter within => ?_⟩
        have later := after_sound manifest registry readOnly (steps ++ more)
        exact later.not_converted within isOuter (advanced.ensured.1.symm.trans failed)
      inOrder := fun earlier conversion later place inner inside =>
        sound.inOrder.inside_before place inside }

end Runs

end Session

/-! ## A derivation that stops halfway -/

namespace Parcels

/-- An item in a parcel with a note. -/
def parcel : TypeDef :=
  { name := "Parcel"
    package := "shop"
    description := none
    fields :=
      [Orders.field "Main" (.struct Orders.item.id),
        Orders.field "Note" (.scalar (.plain .string))] }

def model : Manifest :=
  ⟨[Orders.item, parcel], by decide, by decide⟩

/-- A note cannot be nullable, since it is not a pointer. -/
def tables : Registry :=
  [(parcel.id,
    (DirectiveTable.resolve parcel [.mark .nullable ["Note"]]).toOption.getD .empty)]

/-- The conversion of the parcel fails once the item in it has one. -/
def steps : List Session.Step :=
  [.walk parcel.id, .schema parcel.id, .conversion parcel.id]

end Parcels

open Parcels in
/-- The item is remembered and the parcel, which gives its error again, never is. -/
theorem Session.after_transparent_parcels :
    (after model tables false steps).conversions.map Conversion.typeId = [Orders.item.id] ∧
    ∃ node ∈ (after model tables false steps).walker.nodes, node.id = parcel.id ∧
      (∃ error, (Conversion.derive node (after model tables false steps).conversions).1 =
        .error error ∧ (Conversion.derive node []).1 = .error error) ∧
      ∀ more, ∀ conversion ∈ (after model tables false (steps ++ more)).conversions,
        conversion.typeId ≠ parcel.id := by
  have remembered : (after model tables false steps).conversions.map Conversion.typeId =
      [Orders.item.id] := by decide +kernel
  have fails : (after model tables false steps).walker.nodes.any (fun node =>
      node.id == parcel.id &&
        !(Conversion.derive node (after model tables false steps).conversions).1.isOk) = true := by
    decide +kernel
  obtain ⟨node, member, passes⟩ := List.any_eq_true.mp fails
  simp only [Bool.and_eq_true, beq_iff_eq, Bool.not_eq_true'] at passes
  obtain ⟨named, notOk⟩ := passes
  have transparent := Session.after_transparent model tables false steps
  have same := transparent.conversions node member
  cases given : (Conversion.derive node (after model tables false steps).conversions).1 with
  | ok conversion =>
      rw [given] at notOk
      cases notOk
  | error error =>
      refine ⟨remembered, node, member, named, ⟨error, given, same.symm.trans given⟩,
        fun more => ?_⟩
      have grown := (transparent.kept more).nodes
      exact named ▸ (transparent.failed node member error given).2 more node
        (grown.subset member) .refl

end BlockSchema
