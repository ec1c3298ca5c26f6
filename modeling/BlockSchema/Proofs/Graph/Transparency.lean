import BlockSchema.Proofs.Graph.Walker
import Mathlib.Data.List.Induction
import Mathlib.Logic.Relation

/-!
Contract: what a walker remembers is not observable in what it answers.

After any calls, failed ones among them, the stack is empty, the nodes are well built and
every further call answers as on a walker that has built nothing. A type whose call fails,
at whatever depth, would fail by itself as well, and so would every type under way above
it; since a remembered type does not, none of them is ever remembered.
-/

set_option autoImplicit false

namespace BlockSchema

variable {manifest : Manifest} {registry : Registry}

/-! ## Nested types and stacks -/

/-- A field in the outline of one type nests another type. -/
def Nests (manifest : Manifest) (registry : Registry) (outer inner : TypeId) : Prop :=
  ∃ definition, manifest.get? outer = some definition ∧
    ∃ field ∈ (definition.outline registry).fields, field.shape.nested? = some inner

/-- A node nests a node of every type that its own type nests. -/
theorem TypeNode.Matches.nested_of_nests
    {node : TypeNode}
    (matching : node.Matches manifest registry)
    {inner : TypeId}
    (nests : Nests manifest registry node.id inner) :
    ∃ found ∈ node.nested, found.id = inner := by
  obtain ⟨definition, known, outlined, _⟩ := matching
  obtain ⟨other, knownOther, field, member, isInner⟩ := nests
  obtain rfl := Option.some.inj (known.symm.trans knownOther)
  rw [outlined] at member
  obtain ⟨resolved, resolvedMember, rfl⟩ := List.mem_map.mp member
  have forgotten : resolved.shape.nested?.map TypeNode.id = some inner := by
    rw [← FieldShape.nested?_map]
    exact isInner
  obtain ⟨found, isFound, named⟩ := Option.map_eq_some_iff.mp forgotten
  exact ⟨found, TypeNode.mem_nested.mpr ⟨resolved, resolvedMember, isFound⟩, named⟩

namespace WellBuilt

variable {nodes : List TypeNode}

/-- The nodes that were built before a node are well built, and hold what it nests. -/
theorem before_mem
    (built : WellBuilt manifest registry nodes)
    {node : TypeNode}
    (member : node ∈ nodes) :
    ∃ before, WellBuilt manifest registry before ∧ node.id ∉ before.map TypeNode.id ∧
      ∀ inner ∈ node.nested, inner ∈ before := by
  induction built with
  | nothing => cases member
  | @add before last earlier isNew _ nests inductionHypothesis =>
      rcases List.mem_append.mp member with inside | isLast
      · exact inductionHypothesis inside
      · obtain rfl := List.mem_singleton.mp isLast
        exact ⟨before, earlier, isNew, nests⟩

/-- What the types of a list and of one more node nest was built before that node. -/
theorem nests_before
    (built : WellBuilt manifest registry nodes)
    {node : TypeNode}
    (matching : node.Matches manifest registry)
    (nested : ∀ inner ∈ node.nested, inner ∈ nodes)
    {outer inner : TypeId}
    (member : outer ∈ (nodes ++ [node]).map TypeNode.id)
    (nests : Nests manifest registry outer inner) :
    inner ∈ nodes.map TypeNode.id := by
  obtain ⟨holder, holderMember, rfl⟩ := List.mem_map.mp member
  rcases List.mem_append.mp holderMember with before | isLast
  · obtain ⟨found, isNested, rfl⟩ := (built.matches_of_mem before).nested_of_nests nests
    exact List.mem_map_of_mem (built.nested_mem before isNested)
  · obtain rfl := List.mem_singleton.mp isLast
    obtain ⟨found, isNested, rfl⟩ := matching.nested_of_nests nests
    exact List.mem_map_of_mem (nested found isNested)

end WellBuilt

/-- A type that can be built by itself can be built below types that nest it: if one of
them were needed on the way, the type would nest itself. -/
theorem TypeNode.rebuild_below
    {id : TypeId}
    {node : TypeNode}
    (given : TypeNode.rebuild manifest registry [] id = .ok node)
    {stack : List TypeId}
    (nesting : ∀ type ∈ stack, Relation.TransGen (Nests manifest registry) type id) :
    TypeNode.rebuild manifest registry stack id = .ok node := by
  have start : Below manifest registry [] [] := ⟨.nothing, by simp⟩
  obtain ⟨below, _, result, remembered⟩ := walk_advances [] id start
  obtain ⟨member, rfl⟩ := remembered node (result.trans given)
  obtain ⟨before, earlier, isNew, nested⟩ := below.built.before_mem member
  have matching := below.built.matches_of_mem member
  have built := earlier.add isNew matching nested
  refine built.rebuild_remembered (fun type onStack inside => isNew ?_) (by simp)
  -- Going down from a remembered type on the stack stays among the nodes built earlier.
  have reached : ∀ {last}, Relation.TransGen (Nests manifest registry) type last →
      last ∈ before.map TypeNode.id := by
    intro last path
    induction path with
    | single nests => exact earlier.nests_before matching nested inside nests
    | tail _ nests inductionHypothesis =>
        refine earlier.nests_before matching nested ?_ nests
        rw [List.map_append]
        exact List.mem_append_left _ inductionHypothesis
  exact reached (nesting type onStack)

/-! ## Calls below calls -/

/-- A walk that is asked for a type while the types on a stack are under way. -/
structure Call where
  stack : List TypeId
  id : TypeId
  nodes : List TypeNode

namespace Call

/-- The answer of a call, and the nodes that it leaves. -/
def outcome (manifest : Manifest) (registry : Registry) (call : Call) :
    Except CompileError TypeNode × List TypeNode :=
  walk manifest registry call.stack call.id call.nodes

/-- The types that are under way while a call goes down, its own last. -/
def underWay (call : Call) : List TypeId :=
  call.stack ++ [call.id]

/-- A call for a type that is not remembered makes a call for every nested type, once the
fields before it are resolved. -/
inductive Makes (manifest : Manifest) (registry : Registry) (call : Call) : Call → Prop where
  | nested
      {definition : TypeDef}
      {earlier later : List (FieldNode TypeId)}
      {field : FieldNode TypeId}
      {id : TypeId}
      {resolved : List (FieldNode TypeNode)}
      {nodes : List TypeNode}
      (absent : ∀ node ∈ call.nodes, node.id ≠ call.id)
      (outside : call.id ∉ call.stack)
      (found : manifest.get? call.id = some definition)
      (fields : (definition.outline registry).fields = earlier ++ field :: later)
      (nests : field.shape.nested? = some id)
      (ran : Building.each (FieldNode.resolve (walk manifest registry call.underWay))
        earlier call.nodes = (.ok resolved, nodes)) :
      Makes manifest registry call ⟨call.underWay, id, nodes⟩

/-- What holds of every call below a call on well built nodes. -/
structure Sound (manifest : Manifest) (registry : Registry) (call : Call) : Prop where
  below : Below manifest registry call.stack call.nodes
  nesting : ∀ type ∈ call.stack, Relation.TransGen (Nests manifest registry) type call.id

variable {call inner : Call}

theorem Sound.of_makes
    (sound : call.Sound manifest registry)
    (makes : call.Makes manifest registry inner) :
    inner.Sound manifest registry := by
  obtain @⟨definition, earlier, later, field, id, resolved, nodes,
    absent, _, found, fields, nests, ran⟩ := makes
  have ownNests : Nests manifest registry call.id id :=
    ⟨definition, found, field, by simp [fields], nests⟩
  refine ⟨?_, fun type onStack => ?_⟩
  · have advanced := Building.Advances.eachAlone earlier
      (fun field _ before below =>
        (field.resolve_advances (fun other _ => walk_advances call.underWay other) below).weaken
          And.left)
      (sound.below.under absent)
    have kept := advanced.kept
    change Below manifest registry call.underWay
      (Building.each (FieldNode.resolve (walk manifest registry call.underWay))
        earlier call.nodes).2 at kept
    rw [ran] at kept
    exact kept
  · rcases List.mem_append.mp onStack with onOld | isOwn
    · exact (sound.nesting type onOld).tail ownNests
    · exact List.mem_singleton.mp isOwn ▸ .single ownNests

/-- A call fails with the error of a call that it makes. -/
theorem Makes.fails
    (makes : call.Makes manifest registry inner)
    {error : CompileError}
    (failed : (inner.outcome manifest registry).1 = .error error) :
    (call.outcome manifest registry).1 = .error error := by
  obtain @⟨definition, earlier, later, field, id, resolved, nodes,
    absent, outside, found, fields, nests, ran⟩ := makes
  have notFound : call.nodes.find? (fun node => node.id == call.id) = none := by
    simpa using absent
  have fieldFailed :
      (field.resolve (walk manifest registry call.underWay) nodes).1 = .error error := by
    obtain ⟨declared, external, ⟨arity, target⟩, effects, version, description⟩ := field
    cases target with
    | scalar type => cases nests
    | struct other =>
        obtain rfl := Option.some.inj nests
        exact Building.bind_fails (Building.bind_fails failed)
  have resolveFailed :
      (definition.resolve registry (walk manifest registry call.underWay) call.nodes).1 =
        .error error := by
    refine Building.bind_fails ?_
    rw [fields]
    exact Building.each_fails ran fieldFailed
  rw [outcome, walk_of_defined outside found]
  exact Building.once_fails notFound resolveFailed

theorem Sound.outcome_eq (sound : call.Sound manifest registry) :
    (call.outcome manifest registry).1 =
      TypeNode.rebuild manifest registry call.stack call.id :=
  (walk_advances call.stack call.id sound.below).ensured.1

/-- The type of a sound call that fails would fail by itself. -/
theorem Sound.fails_alone
    (sound : call.Sound manifest registry)
    {error : CompileError}
    (failed : (call.outcome manifest registry).1 = .error error) :
    ∀ node, TypeNode.rebuild manifest registry [] call.id ≠ .ok node := by
  intro node built
  have given := TypeNode.rebuild_below built sound.nesting
  rw [← sound.outcome_eq, failed] at given
  cases given

/-- When a call somewhere below a call without a stack fails, its type and every type
that is under way would fail by themselves. -/
theorem underWay_fails
    {top : Call}
    (sound : top.Sound manifest registry)
    (outermost : top.stack = [])
    (path : Relation.ReflTransGen (Makes manifest registry) top call)
    {error : CompileError}
    (failed : (call.outcome manifest registry).1 = .error error) :
    ∀ type ∈ call.underWay, ∀ node, TypeNode.rebuild manifest registry [] type ≠ .ok node := by
  suffices both : call.Sound manifest registry ∧
      (∀ error, (call.outcome manifest registry).1 = .error error → ∀ type ∈ call.underWay,
        ∀ node, TypeNode.rebuild manifest registry [] type ≠ .ok node) from both.2 error failed
  clear failed
  induction path with
  | refl =>
      refine ⟨sound, fun error failed type member => ?_⟩
      rw [underWay, outermost] at member
      exact List.mem_singleton.mp member ▸ sound.fails_alone failed
  | @tail middle last _ makes inductionHypothesis =>
      obtain ⟨soundMiddle, failsMiddle⟩ := inductionHypothesis
      have soundLast := soundMiddle.of_makes makes
      refine ⟨soundLast, fun error failed type member => ?_⟩
      have stacked : last.stack = middle.underWay := by
        cases makes
        rfl
      rcases List.mem_append.mp member with onStack | isOwn
      · exact failsMiddle error (makes.fails failed) type (stacked ▸ onStack)
      · exact List.mem_singleton.mp isOwn ▸ soundLast.fails_alone failed

end Call

/-! ## Whole runs -/

namespace Walker

variable (manifest : Manifest) (registry : Registry)

/-- Between calls no type is under way, and the nodes are well built. -/
theorem afterCalls_sound (calls : List TypeId) :
    (afterCalls manifest registry calls).stack = [] ∧
      WellBuilt manifest registry (afterCalls manifest registry calls).nodes := by
  induction calls using List.reverseRecOn with
  | nil => exact ⟨rfl, .nothing⟩
  | append_singleton calls id inductionHypothesis =>
      obtain ⟨idle, built⟩ := inductionHypothesis
      rw [afterCalls, List.foldl_concat, ← afterCalls, call_eq, idle]
      exact ⟨rfl, (walk_advances [] id ⟨built, by simp⟩).kept.built⟩

private theorem afterCalls_append (calls more : List TypeId) :
    afterCalls manifest registry (calls ++ more) =
      more.foldl (fun walker id => (walker.call manifest registry id).2)
        (afterCalls manifest registry calls) :=
  List.foldl_append

private theorem afterCalls_grows (calls more : List TypeId) :
    (afterCalls manifest registry calls).nodes <+:
      (afterCalls manifest registry (calls ++ more)).nodes := by
  induction more using List.reverseRecOn with
  | nil => exact (List.append_nil calls).symm ▸ List.prefix_refl _
  | append_singleton more id inductionHypothesis =>
      obtain ⟨idle, built⟩ := afterCalls_sound manifest registry (calls ++ more)
      rw [← List.append_assoc, afterCalls_append, List.foldl_cons, List.foldl_nil, call_eq, idle]
      exact inductionHypothesis.trans (walk_advances [] id ⟨built, by simp⟩).grown

/-- After any calls a walker answers as rebuilding does. -/
theorem call_afterCalls (calls : List TypeId) (id : TypeId) :
    ((afterCalls manifest registry calls).call manifest registry id).1 =
      TypeNode.rebuild manifest registry [] id := by
  obtain ⟨idle, built⟩ := afterCalls_sound manifest registry calls
  rw [call_eq, idle]
  exact (walk_advances [] id ⟨built, by simp⟩).ensured.1

/-- Whatever was asked before, no type is under way between calls, a walker keeps the nodes
it has where they are, and it answers as a walker that has built nothing. A type that
failed, and every type under way when it failed, is never kept. -/
theorem afterCalls_transparent (calls : List TypeId) :
    (afterCalls manifest registry calls).stack = [] ∧
    (∀ more, (afterCalls manifest registry calls).nodes <+:
      (afterCalls manifest registry (calls ++ more)).nodes) ∧
    (∀ id, ((afterCalls manifest registry calls).call manifest registry id).1 =
      (fresh.call manifest registry id).1) ∧
    (∀ id inner error more,
      Relation.ReflTransGen (Call.Makes manifest registry)
        ⟨[], id, (afterCalls manifest registry calls).nodes⟩ inner →
      (inner.outcome manifest registry).1 = .error error →
      ∀ type ∈ inner.underWay,
        type ∉ (afterCalls manifest registry (calls ++ id :: more)).nodes.map TypeNode.id) := by
  obtain ⟨idle, built⟩ := afterCalls_sound manifest registry calls
  refine ⟨idle, afterCalls_grows manifest registry calls, fun id => ?_, ?_⟩
  · exact (call_afterCalls manifest registry calls id).trans
      (call_afterCalls manifest registry [] id).symm
  · intro id inner error more path failed type member kept
    obtain ⟨node, remembered, rfl⟩ := List.mem_map.mp kept
    have later := (afterCalls_sound manifest registry (calls ++ id :: more)).2
    have given : TypeNode.rebuild manifest registry [] node.id = .ok node :=
      later.rebuild_remembered (by simp) remembered
    exact Call.underWay_fails ⟨⟨built, by simp⟩, by simp⟩ rfl path failed node.id member node given

end Walker

end BlockSchema
