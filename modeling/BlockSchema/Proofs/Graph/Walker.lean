import BlockSchema.Proofs.Graph.Memory

/-!
Contract: the walk with the types under way kept in its memory.

A walker holds the nodes built so far and the types that are under way. A visit pushes
its type before it goes down and pops it afterwards, whether or not it fails, and every
decision is made on the walker as it is. `visit_tracks` says that this is the walk with
the stack as an argument.
-/

set_option autoImplicit false

namespace BlockSchema

/-- The nodes built so far, and the types that are under way, outermost first. -/
structure Walker where
  nodes : List TypeNode
  stack : List TypeId

namespace Walker

/-- The walker that has built nothing. -/
def fresh : Walker := ⟨[], []⟩

/-- The walkers on which the types of a stack are under way. -/
def At (stack : List TypeId) : Type :=
  { walker : Walker // walker.stack = stack }

namespace At

variable {stack : List TypeId} {id : TypeId}

/-- The nodes built so far. -/
def nodes (walker : At stack) : List TypeNode :=
  walker.val.nodes

/-- The walker on which one more type is under way. -/
def push (walker : At stack) (id : TypeId) : At (stack ++ [id]) :=
  ⟨⟨walker.val.nodes, walker.val.stack ++ [id]⟩, by rw [walker.property]⟩

/-- The walker on which the innermost type is under way no longer. -/
def pop (walker : At (stack ++ [id])) : At stack :=
  ⟨⟨walker.val.nodes, walker.val.stack.dropLast⟩, by
    rw [walker.property, List.dropLast_concat]⟩

/-- The walker that has built one more node. -/
def keep (walker : At stack) (node : TypeNode) : At stack :=
  ⟨⟨walker.val.nodes ++ [node], walker.val.stack⟩, walker.property⟩

end At

/-- The node of a type, when the walker has it; else the computation, whose node the
walker keeps. -/
def once {stack : List TypeId} (id : TypeId) (make : Building CompileError (At stack) TypeNode) :
    Building CompileError (At stack) TypeNode :=
  fun walker =>
    match walker.nodes.find? fun node => node.id == id with
    | some node => (.ok node, walker)
    | none =>
        match make walker with
        | (.ok node, after) => (.ok node, after.keep node)
        | (.error error, after) => (.error error, after)

/-- A computation while a type is under way; the type is popped however it ends. -/
def under
    {stack : List TypeId}
    {α : Type}
    (id : TypeId)
    (inner : Building CompileError (At (stack ++ [id])) α) :
    Building CompileError (At stack) α :=
  fun walker =>
    let (result, after) := inner (walker.push id)
    (result, after.pop)

/-- Builds the node of a type, or finds it again. -/
def visit (manifest : Manifest) (registry : Registry) (stack : List TypeId) (id : TypeId) :
    Building CompileError (At stack) TypeNode :=
  once id fun walker =>
    if inside : id ∈ walker.val.stack then
      Building.fail
        (.unsupportedShape (.type id) (.nestsItself (cycleFrom walker.val.stack id))) walker
    else
      match found : manifest.get? id with
      | none => Building.fail (.unsupportedShape (.type id) .undefinedType) walker
      | some definition =>
          have := Manifest.free_length_lt (walker.property ▸ inside) found
          under id
            (definition.resolve registry (visit manifest registry (stack ++ [id]))) walker
termination_by (manifest.free stack).length

/-- Asks a walker for the node of a type. -/
def call (manifest : Manifest) (registry : Registry) (walker : Walker) (id : TypeId) :
    Except CompileError TypeNode × Walker :=
  let (result, after) := visit manifest registry walker.stack id ⟨walker, rfl⟩
  (result, after.val)

/-- The walker after calls in order, whatever each of them gives. -/
def afterCalls (manifest : Manifest) (registry : Registry) (calls : List TypeId) : Walker :=
  calls.foldl (fun walker id => (walker.call manifest registry id).2) fresh

end Walker

/-! ## The same walk -/

section Tracking

variable
  {σ τ : Type}
  {view : σ → τ}
  {visit : TypeId → Building CompileError σ TypeNode}
  {visitOuter : TypeId → Building CompileError τ TypeNode}

private theorem Target.resolve_tracks
    (visited : ∀ id, Building.Tracks view (visit id) (visitOuter id))
    (target : Target TypeId) :
    Building.Tracks view (target.resolve visit) (target.resolve visitOuter) := by
  cases target with
  | scalar type => exact .pure _
  | struct id => exact .bind (visited id) fun node => .pure _

private theorem FieldNode.resolve_tracks
    (visited : ∀ id, Building.Tracks view (visit id) (visitOuter id))
    (field : FieldNode TypeId) :
    Building.Tracks view (field.resolve visit) (field.resolve visitOuter) :=
  .bind (field.shape.target.resolve_tracks visited) fun _ => .pure _

private theorem TypeDef.resolve_tracks
    (registry : Registry)
    (visited : ∀ id, Building.Tracks view (visit id) (visitOuter id))
    (definition : TypeDef) :
    Building.Tracks view
      (definition.resolve registry visit) (definition.resolve registry visitOuter) := by
  refine .bind (.each (FieldNode.resolve_tracks visited) _) fun fields => ?_
  cases (definition.outline registry).fault? with
  | some error => exact .fail error
  | none => exact .pure _

end Tracking

namespace Walker

variable {manifest : Manifest} {registry : Registry}

section Opening

variable {stack : List TypeId} {id : TypeId}

private theorem visit_of_mem (inside : id ∈ stack) :
    visit manifest registry stack id =
      once id
        (Building.fail (.unsupportedShape (.type id) (.nestsItself (cycleFrom stack id)))) := by
  rw [visit]
  congr
  funext walker
  obtain ⟨⟨nodes, onStack⟩, rfl⟩ := walker
  rw [dif_pos inside]

private theorem visit_of_undefined (outside : id ∉ stack) (missing : manifest.get? id = none) :
    visit manifest registry stack id =
      once id (Building.fail (.unsupportedShape (.type id) .undefinedType)) := by
  rw [visit]
  congr
  funext walker
  obtain ⟨⟨nodes, onStack⟩, rfl⟩ := walker
  rw [dif_neg outside]
  split
  next => rfl
  next other found => rw [missing] at found; cases found

private theorem visit_of_defined
    {definition : TypeDef}
    (outside : id ∉ stack)
    (found : manifest.get? id = some definition) :
    visit manifest registry stack id =
      once id
        (under id (definition.resolve registry (visit manifest registry (stack ++ [id])))) := by
  rw [visit]
  congr
  funext walker
  obtain ⟨⟨nodes, onStack⟩, rfl⟩ := walker
  rw [dif_neg outside]
  split
  next missing => rw [found] at missing; cases missing
  next other foundOther =>
    obtain rfl := Option.some.inj (found.symm.trans foundOther)
    rfl

end Opening

private theorem once_tracks
    {stack : List TypeId}
    {id : TypeId}
    {make : Building CompileError (At stack) TypeNode}
    {makeOuter : Walk TypeNode}
    (made : Building.Tracks At.nodes make makeOuter) :
    Building.Tracks At.nodes (once id make)
      (Building.once (fun node => node.id == id) makeOuter) := by
  intro walker
  unfold once Building.once
  cases walker.nodes.find? fun node => node.id == id with
  | some node => rfl
  | none =>
      rw [made walker]
      generalize make walker = outcome
      obtain ⟨result, after⟩ := outcome
      cases result <;> rfl

private theorem under_tracks
    {stack : List TypeId}
    {id : TypeId}
    {α : Type}
    {inner : Building CompileError (At (stack ++ [id])) α}
    {outer : Walk α}
    (tracks : Building.Tracks At.nodes inner outer) :
    Building.Tracks At.nodes (under id inner) outer :=
  fun walker => tracks (walker.push id)

/-- A visit is the walk below the walker's stack, over the walker's nodes. -/
theorem visit_tracks
    (manifest : Manifest)
    (registry : Registry)
    (stack : List TypeId)
    (id : TypeId) :
    Building.Tracks At.nodes
      (visit manifest registry stack id) (walk manifest registry stack id) := by
  by_cases inside : id ∈ stack
  · rw [visit_of_mem inside, walk_of_mem inside]
    exact once_tracks (.fail _)
  · cases found : manifest.get? id with
    | none =>
        rw [visit_of_undefined inside found, walk_of_undefined inside found]
        exact once_tracks (.fail _)
    | some definition =>
        have shorter := Manifest.free_length_lt inside found
        rw [visit_of_defined inside found, walk_of_defined inside found]
        have below := visit_tracks manifest registry (stack ++ [id])
        exact once_tracks (under_tracks (definition.resolve_tracks registry below))
termination_by (manifest.free stack).length

/-- A call gives what the walk below the walker's stack gives, keeps the nodes that the
walk keeps and leaves the stack as it was. -/
theorem call_eq (walker : Walker) (id : TypeId) :
    walker.call manifest registry id =
      let (result, nodes) := walk manifest registry walker.stack id walker.nodes
      (result, ⟨nodes, walker.stack⟩) := by
  have tracked := visit_tracks manifest registry walker.stack id ⟨walker, rfl⟩
  unfold call
  generalize visit manifest registry walker.stack id ⟨walker, rfl⟩ = outcome at tracked
  obtain ⟨result, ⟨after, restored⟩⟩ := outcome
  change walk manifest registry walker.stack id walker.nodes = (result, after.nodes) at tracked
  rw [tracked]
  change (result, after) = (result, Walker.mk after.nodes walker.stack)
  rw [← restored]

end Walker

end BlockSchema
