import BlockSchema.Proofs.Graph.Transparency

/-!
Contract: a walk one step at a time, and how deep it goes.

A call for a type begins, goes through the fields of the type, and waits at a field that nests a
type until the call for that type has returned. `next?` does one step of this on a walker that
anything may be under way on; nothing in it bounds how deep calls go. What one step keeps is that
the stack has the types of the calls under way, each of them defined and none twice. So calls are
never deeper than the manifest is long, and every walk comes to the end that `Walker.call` tells.
-/

set_option autoImplicit false

namespace BlockSchema.Walker

def push (walker : Walker) (id : TypeId) : Walker :=
  { walker with stack := walker.stack ++ [id] }

def pop (walker : Walker) : Walker :=
  { walker with stack := walker.stack.dropLast }

def keep (walker : Walker) (node : TypeNode) : Walker :=
  { walker with nodes := walker.nodes ++ [node] }

/-- A call that goes through the fields of its type. -/
structure Frame where
  definition : TypeDef
  resolved : List (FieldNode TypeNode)
  remaining : List (FieldNode TypeId)

/-- The call with one more field resolved. -/
def Frame.resolve (frame : Frame) (field : FieldNode TypeId) (target : Target TypeNode) : Frame :=
  { frame with resolved := frame.resolved ++ [field.withShape ⟨field.shape.arity, target⟩] }

/-- A call that waits at a field for the node of the type nested there. -/
structure Waiting where
  frame : Frame
  field : FieldNode TypeId

/-- What the innermost call does. -/
inductive Point where
  /-- It is made, for a type. -/
  | begins (id : TypeId)
  /-- It goes through the fields of its type. -/
  | builds (frame : Frame)
  /-- It has returned. -/
  | returns (answer : Except CompileError TypeNode)

/-- A walk at one moment. The calls that wait are listed from the innermost one outwards. -/
structure Moment where
  walker : Walker
  waiting : List Waiting
  point : Point

namespace Moment

/-- What becomes of a call when it is made. -/
def begin (manifest : Manifest) (registry : Registry) (walker : Walker) (id : TypeId) :
    Walker × Point :=
  match walker.nodes.find? fun node => node.id == id with
  | some node => (walker, .returns (.ok node))
  | none =>
      if id ∈ walker.stack then
        (walker, .returns (.error (.unsupportedShape (.type id)
          (.nestsItself (cycleFrom walker.stack id)))))
      else
        match manifest.get? id with
        | none => (walker, .returns (.error (.unsupportedShape (.type id) .undefinedType)))
        | some definition =>
            (walker.push id, .builds ⟨definition, [], (definition.outline registry).fields⟩)

/-- What becomes of a call when its fields are resolved. -/
def finish (registry : Registry) (walker : Walker) (frame : Frame) : Walker × Point :=
  match (frame.definition.outline registry).fault? with
  | some error => (walker.pop, .returns (.error error))
  | none =>
      let node := frame.definition.node registry frame.resolved
      (walker.pop.keep node, .returns (.ok node))

/-- The moment after one step; there is none when the outermost call has returned. -/
def next? (manifest : Manifest) (registry : Registry) : Moment → Option Moment
  | ⟨walker, waiting, .begins id⟩ =>
      let (after, point) := begin manifest registry walker id
      some ⟨after, waiting, point⟩
  | ⟨walker, waiting, .builds ⟨definition, resolved, field :: remaining⟩⟩ =>
      match field.shape.target with
      | .scalar type =>
          some ⟨walker, waiting,
            .builds (Frame.resolve ⟨definition, resolved, remaining⟩ field (.scalar type))⟩
      | .struct id =>
          some ⟨walker, ⟨⟨definition, resolved, remaining⟩, field⟩ :: waiting, .begins id⟩
  | ⟨walker, waiting, .builds ⟨definition, resolved, []⟩⟩ =>
      let (after, point) := finish registry walker ⟨definition, resolved, []⟩
      some ⟨after, waiting, point⟩
  | ⟨walker, call :: waiting, .returns (.ok node)⟩ =>
      some ⟨walker, waiting, .builds (call.frame.resolve call.field (.struct node))⟩
  | ⟨walker, _ :: waiting, .returns (.error error)⟩ =>
      some ⟨walker.pop, waiting, .returns (.error error)⟩
  | ⟨_, [], .returns _⟩ => none

/-- The moment after some steps; the last moment stays. -/
def advance (manifest : Manifest) (registry : Registry) (moment : Moment) : Nat → Moment
  | 0 => moment
  | steps + 1 =>
      match moment.next? manifest registry with
      | some later => later.advance manifest registry steps
      | none => moment

/-- One moment comes after another one, some steps later. -/
abbrev Leads (manifest : Manifest) (registry : Registry) : Moment → Moment → Prop :=
  Relation.ReflTransGen fun earlier later => earlier.next? manifest registry = some later

/-- The outermost call is made. -/
def start (walker : Walker) (id : TypeId) : Moment :=
  ⟨walker, [], .begins id⟩

/-- The outermost call has returned. -/
def finished (outcome : Except CompileError TypeNode × Walker) : Moment :=
  ⟨outcome.2, [], .returns outcome.1⟩

/-- The types of the calls that are going through fields, outermost first. -/
def underWay (moment : Moment) : List TypeId :=
  (moment.waiting.map fun call => call.frame.definition.id).reverse ++
    match moment.point with
    | .builds frame => [frame.definition.id]
    | .begins _ | .returns _ => []

/-- How many calls have been made and have not returned. -/
def depth (moment : Moment) : Nat :=
  moment.waiting.length +
    match moment.point with
    | .begins _ | .builds _ => 1
    | .returns _ => 0

end Moment

section Walks

variable {manifest : Manifest} {registry : Registry}

/-! ## Single steps -/

namespace Moment

section Begin

variable {walker : Walker} {id : TypeId}

private theorem begin_of_remembered
    {node : TypeNode}
    (remembered : walker.nodes.find? (fun node => node.id == id) = some node) :
    begin manifest registry walker id = (walker, .returns (.ok node)) := by
  rw [begin, remembered]

variable (absent : walker.nodes.find? (fun node => node.id == id) = none)
include absent

private theorem begin_of_mem (inside : id ∈ walker.stack) :
    begin manifest registry walker id =
      (walker, .returns (.error (.unsupportedShape (.type id)
        (.nestsItself (cycleFrom walker.stack id))))) := by
  rw [begin, absent]
  exact if_pos inside

private theorem begin_of_undefined
    (outside : id ∉ walker.stack)
    (missing : manifest.get? id = none) :
    begin manifest registry walker id =
      (walker, .returns (.error (.unsupportedShape (.type id) .undefinedType))) := by
  rw [begin, absent, missing]
  exact if_neg outside

private theorem begin_of_defined
    {definition : TypeDef}
    (outside : id ∉ walker.stack)
    (found : manifest.get? id = some definition) :
    begin manifest registry walker id =
      (walker.push id, .builds ⟨definition, [], (definition.outline registry).fields⟩) := by
  rw [begin, absent, found]
  exact if_neg outside

end Begin

section Finish

variable {walker : Walker} (frame : Frame)

private theorem finish_of_fault
    {error : CompileError}
    (fault : (frame.definition.outline registry).fault? = some error) :
    finish registry walker frame = (walker.pop, .returns (.error error)) := by
  rw [finish, fault]

private theorem finish_of_faultless
    (faultless : (frame.definition.outline registry).fault? = none) :
    finish registry walker frame =
      (walker.pop.keep (frame.definition.node registry frame.resolved),
        .returns (.ok (frame.definition.node registry frame.resolved))) := by
  rw [finish, faultless]

end Finish

section Fields

variable
  {walker : Walker}
  {waiting : List Waiting}
  {definition : TypeDef}
  {resolved : List (FieldNode TypeNode)}
  {field : FieldNode TypeId}
  {remaining : List (FieldNode TypeId)}

private theorem next?_of_scalar {type : ScalarType} (target : field.shape.target = .scalar type) :
    next? manifest registry ⟨walker, waiting, .builds ⟨definition, resolved, field :: remaining⟩⟩ =
      some ⟨walker, waiting,
        .builds (Frame.resolve ⟨definition, resolved, remaining⟩ field (.scalar type))⟩ := by
  rw [next?, target]

private theorem next?_of_struct {id : TypeId} (target : field.shape.target = .struct id) :
    next? manifest registry ⟨walker, waiting, .builds ⟨definition, resolved, field :: remaining⟩⟩ =
      some ⟨walker, ⟨⟨definition, resolved, remaining⟩, field⟩ :: waiting, .begins id⟩ := by
  rw [next?, target]

end Fields

end Moment

/-! ## The stack at every moment -/

/-- The stack has the types that are under way, each defined and none twice. -/
structure Moment.Sound (manifest : Manifest) (moment : Moment) : Prop where
  stacked : moment.walker.stack = moment.underWay
  distinct : moment.walker.stack.Nodup
  defined : ∀ type ∈ moment.walker.stack, ∃ definition, manifest.get? type = some definition

namespace Moment.Sound

section Changes

variable {moment later : Moment}

private theorem same
    (sound : moment.Sound manifest)
    (sameStack : later.walker.stack = moment.walker.stack)
    (sameTypes : later.underWay = moment.underWay) :
    later.Sound manifest where
  stacked := by rw [sameStack, sameTypes, sound.stacked]
  distinct := by rw [sameStack]; exact sound.distinct
  defined := by rw [sameStack]; exact sound.defined

private theorem pushed
    {id : TypeId}
    {definition : TypeDef}
    (sound : moment.Sound manifest)
    (outside : id ∉ moment.walker.stack)
    (found : manifest.get? id = some definition)
    (onStack : later.walker.stack = moment.walker.stack ++ [id])
    (isUnderWay : later.underWay = moment.underWay ++ [id]) :
    later.Sound manifest where
  stacked := by rw [onStack, isUnderWay, sound.stacked]
  distinct := by
    rw [onStack, ← List.concat_eq_append]
    exact sound.distinct.concat outside
  defined := by
    rw [onStack]
    intro type member
    rcases List.mem_append.mp member with inside | isOwn
    · exact sound.defined type inside
    · exact List.mem_singleton.mp isOwn ▸ ⟨definition, found⟩

private theorem popped
    (sound : moment.Sound manifest)
    (id : TypeId)
    (offStack : later.walker.stack = moment.walker.stack.dropLast)
    (wasUnderWay : moment.underWay = later.underWay ++ [id]) :
    later.Sound manifest where
  stacked := by rw [offStack, sound.stacked, wasUnderWay, List.dropLast_concat]
  distinct := by
    rw [offStack]
    exact sound.distinct.sublist (List.dropLast_sublist _)
  defined := by
    rw [offStack]
    exact fun type member => sound.defined type (List.dropLast_subset _ member)

end Changes

section Steps

variable {walker : Walker} {waiting : List Waiting}

private theorem begin
    {id : TypeId}
    (sound : Sound manifest ⟨walker, waiting, .begins id⟩) :
    Sound manifest
      ⟨(Moment.begin manifest registry walker id).1, waiting,
        (Moment.begin manifest registry walker id).2⟩ := by
  cases known : walker.nodes.find? fun node => node.id == id with
  | some node =>
      rw [begin_of_remembered known]
      exact sound.same rfl rfl
  | none =>
      by_cases inside : id ∈ walker.stack
      · rw [begin_of_mem known inside]
        exact sound.same rfl rfl
      · cases found : manifest.get? id with
        | none =>
            rw [begin_of_undefined known inside found]
            exact sound.same rfl rfl
        | some definition =>
            have named : definition.id = id := Manifest.id_of_get? found
            rw [begin_of_defined known inside found]
            exact sound.pushed inside found rfl (by simp [underWay, named])

private theorem finish
    {frame : Frame}
    (sound : Sound manifest ⟨walker, waiting, .builds frame⟩) :
    Sound manifest
      ⟨(Moment.finish registry walker frame).1, waiting,
        (Moment.finish registry walker frame).2⟩ := by
  cases fault : (frame.definition.outline registry).fault? with
  | some error =>
      rw [finish_of_fault frame fault]
      exact sound.popped frame.definition.id rfl (by simp [underWay])
  | none =>
      rw [finish_of_faultless frame fault]
      exact sound.popped frame.definition.id rfl (by simp [underWay])

/-- What one step keeps. -/
theorem next
    {moment later : Moment}
    (sound : moment.Sound manifest)
    (steps : moment.next? manifest registry = some later) :
    later.Sound manifest := by
  obtain ⟨walker, waiting, point⟩ := moment
  cases point with
  | begins id =>
      obtain rfl := Option.some.inj steps
      exact sound.begin
  | builds frame =>
      obtain ⟨definition, resolved, remaining⟩ := frame
      cases remaining with
      | nil =>
          obtain rfl := Option.some.inj steps
          exact sound.finish
      | cons field remaining =>
          cases target : field.shape.target with
          | scalar type =>
              rw [next?_of_scalar target] at steps
              obtain rfl := Option.some.inj steps
              exact sound.same rfl rfl
          | struct id =>
              rw [next?_of_struct target] at steps
              obtain rfl := Option.some.inj steps
              exact sound.same rfl (by simp [underWay])
  | returns answer =>
      cases waiting with
      | nil => cases answer <;> cases steps
      | cons call waiting =>
          cases answer with
          | ok node =>
              obtain rfl := Option.some.inj steps
              exact sound.same rfl (by simp [underWay, Frame.resolve])
          | error error =>
              obtain rfl := Option.some.inj steps
              exact sound.popped call.frame.definition.id rfl (by simp [underWay])

end Steps

variable {moment later : Moment}

/-- What all steps keep. -/
theorem leads
    (sound : moment.Sound manifest)
    (path : Leads manifest registry moment later) :
    later.Sound manifest := by
  induction path with
  | refl => exact sound
  | tail _ steps inductionHypothesis => exact inductionHypothesis.next steps

/-- Types that are defined and none twice are no more than the manifest has. -/
theorem stack_length_le (sound : moment.Sound manifest) :
    moment.walker.stack.length ≤ manifest.types.length := by
  rw [← List.length_map TypeDef.id]
  refine List.Nodup.length_le_of_subset sound.distinct fun type onStack => ?_
  obtain ⟨definition, found⟩ := sound.defined type onStack
  exact List.mem_map.mpr
    ⟨definition, Manifest.mem_of_get? found, Manifest.id_of_get? found⟩

private theorem depth_le (sound : moment.Sound manifest) :
    moment.depth ≤ manifest.types.length + 1 := by
  have few := sound.stack_length_le
  rw [sound.stacked] at few
  obtain ⟨walker, waiting, point⟩ := moment
  cases point <;> simp [underWay, depth] at few ⊢ <;> omega

end Moment.Sound

/-! ## The end of a walk -/

namespace Moment

/-- The innermost call has returned, on a walker with the nodes that were left and the stack. -/
def returned
    (stack : List TypeId)
    (waiting : List Waiting)
    (outcome : Except CompileError TypeNode × List TypeNode) :
    Moment :=
  ⟨⟨outcome.2, stack⟩, waiting, .returns outcome.1⟩

/-- A call for a type returns what a computation over the walker's nodes gives, and leaves the
nodes that this leaves, whatever calls wait for it. -/
def Returns
    (manifest : Manifest)
    (registry : Registry)
    (stack : List TypeId)
    (id : TypeId)
    (computation : Walk TypeNode) :
    Prop :=
  ∀ nodes waiting, Leads manifest registry
    ⟨⟨nodes, stack⟩, waiting, .begins id⟩ (returned stack waiting (computation nodes))

section Runs

variable {stack : List TypeId} {waiting : List Waiting}

/-- The moment when a call has resolved its fields or has met one that it cannot resolve. -/
def afterFields
    (stack : List TypeId)
    (waiting : List Waiting)
    (definition : TypeDef)
    (resolved : List (FieldNode TypeNode)) :
    Except CompileError (List (FieldNode TypeNode)) × List TypeNode → Moment
  | (.ok values, nodes) => ⟨⟨nodes, stack⟩, waiting, .builds ⟨definition, resolved ++ values, []⟩⟩
  | (.error error, nodes) => ⟨pop ⟨nodes, stack⟩, waiting, .returns (.error error)⟩

/-- A field that is resolved counts as resolved for the fields after it. -/
theorem afterFields_of_resolved
    {make : FieldNode TypeId → Walk (FieldNode TypeNode)}
    {definition : TypeDef}
    {resolved : List (FieldNode TypeNode)}
    {field : FieldNode TypeId}
    {rest : List (FieldNode TypeId)}
    {value : FieldNode TypeNode}
    {nodes later : List TypeNode}
    (made : make field nodes = (.ok value, later)) :
    afterFields stack waiting definition resolved (Building.each make (field :: rest) nodes) =
      afterFields stack waiting definition (resolved ++ [value])
        (Building.each make rest later) := by
  simp only [Building.each, Building.bind, made]
  generalize Building.each make rest later = outcome
  obtain ⟨result, last⟩ := outcome
  cases result with
  | error error => rfl
  | ok values => simp [afterFields, Building.pure]

/-- Where calls for nested types return, a call gets through the fields of its type. -/
theorem leads_afterFields
    {visit : TypeId → Walk TypeNode}
    (visited : ∀ id, Returns manifest registry stack id (visit id))
    (definition : TypeDef)
    (fields : List (FieldNode TypeId))
    (resolved : List (FieldNode TypeNode))
    (nodes : List TypeNode) :
    Leads manifest registry
      ⟨⟨nodes, stack⟩, waiting, .builds ⟨definition, resolved, fields⟩⟩
      (afterFields stack waiting definition resolved
        (Building.each (FieldNode.resolve visit) fields nodes)) := by
  induction fields generalizing resolved nodes with
  | nil =>
      have nothing : afterFields stack waiting definition resolved
          (Building.each (FieldNode.resolve visit) [] nodes) =
          ⟨⟨nodes, stack⟩, waiting, .builds ⟨definition, resolved ++ [], []⟩⟩ := rfl
      rw [nothing, List.append_nil]
  | cons field rest inductionHypothesis =>
      cases target : field.shape.target with
      | scalar type =>
          have made : field.resolve visit nodes =
              (.ok (field.withShape ⟨field.shape.arity, .scalar type⟩), nodes) := by
            rw [FieldNode.resolve, target]
            rfl
          rw [afterFields_of_resolved made]
          exact .head (next?_of_scalar target) (inductionHypothesis _ nodes)
      | struct id =>
          refine .head (next?_of_struct target) ((visited id nodes _).trans ?_)
          have opened : field.resolve visit nodes =
              ((visit id).bind fun node =>
                Building.pure (field.withShape ⟨field.shape.arity, .struct node⟩)) nodes := by
            rw [FieldNode.resolve, target, Target.resolve, Building.bind_assoc]
            rfl
          rw [Building.bind] at opened
          generalize visit id nodes = outcome at opened
          obtain ⟨result, later⟩ := outcome
          cases result with
          | ok node =>
              rw [afterFields_of_resolved opened]
              exact .head rfl (inductionHypothesis _ later)
          | error error =>
              have stopped : Building.each (FieldNode.resolve visit) (field :: rest) nodes =
                  (.error error, later) := by
                simp only [Building.each, Building.bind, opened]
              rw [stopped]
              exact .single rfl

/-- Once the fields are resolved, or one cannot be, a call returns what resolving the type gives
and takes the type off the stack. -/
theorem leads_resolved
    {id : TypeId}
    {definition : TypeDef}
    {visit : TypeId → Walk TypeNode}
    {nodes : List TypeNode}
    (absent : nodes.find? (fun node => node.id == id) = none) :
    Leads manifest registry
      (afterFields (stack ++ [id]) waiting definition []
        (Building.each (FieldNode.resolve visit) (definition.outline registry).fields nodes))
      (returned stack waiting
        (Building.once (fun node => node.id == id) (definition.resolve registry visit) nodes)) := by
  rw [Building.once, absent, TypeDef.resolve, Building.bind]
  generalize Building.each (FieldNode.resolve visit) (definition.outline registry).fields nodes =
    outcome
  obtain ⟨result, later⟩ := outcome
  cases result with
  | error error =>
      simp only [afterFields, returned, pop, List.dropLast_concat]
      exact .refl
  | ok values =>
      have finished : next? manifest registry
          (afterFields (stack ++ [id]) waiting definition [] (.ok values, later)) =
          some ⟨(finish registry ⟨later, stack ++ [id]⟩ ⟨definition, values, []⟩).1, waiting,
            (finish registry ⟨later, stack ++ [id]⟩ ⟨definition, values, []⟩).2⟩ := rfl
      refine .single (finished.trans ?_)
      cases fault : (definition.outline registry).fault? with
      | some error =>
          rw [finish_of_fault ⟨definition, values, []⟩ fault]
          simp [returned, pop, Building.fail]
      | none =>
          rw [finish_of_faultless ⟨definition, values, []⟩ fault]
          simp [returned, pop, keep, Building.pure]

private theorem walk_of_remembered
    {id : TypeId}
    {nodes : List TypeNode}
    {node : TypeNode}
    (known : nodes.find? (fun node => node.id == id) = some node) :
    walk manifest registry stack id nodes = (.ok node, nodes) := by
  unfold walk
  simp only [Building.once, known]

/-- A call returns what the walk below the stack gives, and leaves what that leaves. -/
theorem returns_walk (stack : List TypeId) (id : TypeId) :
    Returns manifest registry stack id (walk manifest registry stack id) := by
  intro nodes waiting
  cases known : nodes.find? fun node => node.id == id with
  | some node =>
      rw [walk_of_remembered known]
      exact .single (by rw [next?, begin_of_remembered known]; rfl)
  | none =>
      by_cases inside : id ∈ stack
      · rw [walk_of_mem inside, Building.once, known]
        exact .single (by rw [next?, begin_of_mem known inside]; rfl)
      · cases found : manifest.get? id with
        | none =>
            rw [walk_of_undefined inside found, Building.once, known]
            exact .single (by rw [next?, begin_of_undefined known inside found]; rfl)
        | some definition =>
            have shorter := Manifest.free_length_lt inside found
            have begun : next? manifest registry ⟨⟨nodes, stack⟩, waiting, .begins id⟩ =
                some ⟨⟨nodes, stack ++ [id]⟩, waiting,
                  .builds ⟨definition, [], (definition.outline registry).fields⟩⟩ := by
              rw [next?, begin_of_defined known inside found]
              rfl
            have fields := @leads_afterFields manifest registry (stack ++ [id]) waiting
              (walk manifest registry (stack ++ [id]))
              (fun inner => returns_walk (stack ++ [id]) inner)
              definition (definition.outline registry).fields [] nodes
            rw [walk_of_defined inside found]
            exact .head begun (fields.trans (leads_resolved known))
termination_by (manifest.free stack).length

end Runs

section Advancing

variable {moment later : Moment}

private theorem next?_finished (outcome : Except CompileError TypeNode × Walker) :
    (finished outcome).next? manifest registry = none := by
  obtain ⟨answer, after⟩ := outcome
  cases answer <;> rfl

private theorem leads_advance (steps : Nat) :
    Leads manifest registry moment (moment.advance manifest registry steps) := by
  induction steps generalizing moment with
  | zero => exact .refl
  | succ steps inductionHypothesis =>
      rw [advance]
      cases next : moment.next? manifest registry with
      | none => exact .refl
      | some later => exact .head next inductionHypothesis

/-- From a moment that leads to a last one, enough steps come to that one and stay there. -/
theorem exists_advance_eq
    (path : Leads manifest registry moment later)
    (last : later.next? manifest registry = none) :
    ∃ enough, ∀ steps, enough ≤ steps → moment.advance manifest registry steps = later := by
  induction path using Relation.ReflTransGen.head_induction_on with
  | refl =>
      refine ⟨0, fun steps _ => ?_⟩
      cases steps with
      | zero => rfl
      | succ steps => rw [advance, last]
  | head next _ inductionHypothesis =>
      obtain ⟨enough, ends⟩ := inductionHypothesis
      refine ⟨enough + 1, fun steps many => ?_⟩
      obtain ⟨fewer, rfl⟩ := Nat.exists_eq_add_of_le' many
      rw [← Nat.add_assoc, advance, next]
      exact ends _ (Nat.le_add_left enough fewer)

end Advancing

end Moment

/-- Whatever a walker was asked before, its next call ends: from some step on the walk stands at
the moment when the call has returned, with the answer and the walker that `call` tells. However
many steps are done, no type is on the stack twice and every type on it is defined. So the stack
never has more types than the manifest, and of calls at most one more is open. -/
theorem call_ends (calls : List TypeId) (id : TypeId) :
    let walker := afterCalls manifest registry calls
    let finished := Moment.finished (walker.call manifest registry id)
    (∃ enough, ∀ steps, enough ≤ steps →
      (Moment.start walker id).advance manifest registry steps = finished) ∧
    finished.next? manifest registry = none ∧
    ∀ steps,
      let moment := (Moment.start walker id).advance manifest registry steps
      moment.walker.stack.Nodup ∧
      (∀ type ∈ moment.walker.stack, ∃ definition, manifest.get? type = some definition) ∧
      moment.walker.stack.length ≤ manifest.types.length ∧
      moment.depth ≤ manifest.types.length + 1 := by
  intro walker finished
  obtain ⟨idle, _⟩ := afterCalls_sound manifest registry calls
  have begun : Moment.start walker id = ⟨⟨walker.nodes, []⟩, [], .begins id⟩ := by
    rw [← idle]
    rfl
  have atEnd : finished.next? manifest registry = none := Moment.next?_finished _
  refine ⟨Moment.exists_advance_eq ?path atEnd, atEnd, fun steps => ?_⟩
  case path =>
    have isEnd : finished = Moment.returned [] [] (walk manifest registry [] id walker.nodes) := by
      simp only [finished, Moment.finished, Moment.returned, call_eq, walker, idle]
    rw [begun, isEnd]
    exact Moment.returns_walk [] id walker.nodes []
  have sound : (Moment.start walker id).Sound manifest := by
    rw [begun]
    exact ⟨rfl, .nil, by simp⟩
  have kept := sound.leads (@Moment.leads_advance manifest registry _ steps)
  exact ⟨kept.distinct, kept.defined, kept.stack_length_le, kept.depth_le⟩

end Walks

namespace Rings

/-- A ring knows the next one. -/
def ring : TypeDef :=
  ⟨"Ring", "shop", none, [⟨"Next", .pointer (.struct (.ofParts "shop" "Ring")), none, none⟩]⟩

def manifest : Manifest :=
  ⟨[ring], by decide, by decide⟩

end Rings

/-- The bounds are met: a ring is asked for again while it is on the stack. -/
example :
    let moment := (Moment.start fresh Rings.ring.id).advance Rings.manifest [] 2
    moment.walker.stack.length = Rings.manifest.types.length ∧
      moment.depth = Rings.manifest.types.length + 1 := by
  decide +kernel

end BlockSchema.Walker
