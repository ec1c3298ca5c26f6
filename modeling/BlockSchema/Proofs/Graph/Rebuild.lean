import BlockSchema.Graph.Walk
import BlockSchema.Proofs.Building
import BlockSchema.Proofs.Graph.Nesting
import Mathlib.Data.List.Nodup

/-!
Contract: nodes built without a memory, and the memories that a walk may have.

`TypeNode.rebuild` goes down to every nested type anew, whenever it meets it. A walk
that remembers nodes is checked against it: `WellBuilt` says which lists of nodes a walk
may have built, and `rebuild_remembered` says that rebuilding such a node gives it back,
whatever types are under way, as long as none of them is in the list.
-/

set_option autoImplicit false

namespace BlockSchema

/-! ## Building without a memory -/

/-- The target of a field, with the node of its type given by `visit`. -/
def Target.rebuild (visit : TypeId → Except CompileError TypeNode) :
    Target TypeId → Except CompileError (Target TypeNode)
  | .scalar type => .ok (.scalar type)
  | .struct id => (visit id).map .struct

/-- A field with the node of its type. -/
def FieldNode.rebuild
    (visit : TypeId → Except CompileError TypeNode)
    (field : FieldNode TypeId) :
    Except CompileError (FieldNode TypeNode) :=
  (field.shape.target.rebuild visit).map fun target =>
    field.withShape ⟨field.shape.arity, target⟩

/-- The node of a type, once the nodes that it nests are given by `visit`. -/
def TypeDef.rebuild
    (definition : TypeDef)
    (registry : Registry)
    (visit : TypeId → Except CompileError TypeNode) :
    Except CompileError TypeNode := do
  let fields ← (definition.outline registry).fields.mapM (FieldNode.rebuild visit)
  match (definition.outline registry).fault? with
  | some error => .error error
  | none => .ok (definition.node registry fields)

/-- The node of a type below the types on a stack. -/
def TypeNode.rebuild
    (manifest : Manifest)
    (registry : Registry)
    (stack : List TypeId)
    (id : TypeId) :
    Except CompileError TypeNode :=
  if inside : id ∈ stack then
    .error (.unsupportedShape (.type id) (.nestsItself (cycleFrom stack id)))
  else
    match found : manifest.get? id with
    | none => .error (.unsupportedShape (.type id) .undefinedType)
    | some definition =>
        have := Manifest.free_length_lt inside found
        definition.rebuild registry (TypeNode.rebuild manifest registry (stack ++ [id]))
termination_by (manifest.free stack).length

theorem Manifest.mem_of_get?
    {manifest : Manifest}
    {id : TypeId}
    {definition : TypeDef}
    (found : manifest.get? id = some definition) :
    definition ∈ manifest.types :=
  List.mem_of_find?_eq_some found

theorem Manifest.id_of_get?
    {manifest : Manifest}
    {id : TypeId}
    {definition : TypeDef}
    (found : manifest.get? id = some definition) :
    definition.id = id := by
  simpa using List.find?_some found

/-- A manifest finds the types that it has: no two of them share an identity. -/
theorem Manifest.get?_of_mem
    {manifest : Manifest}
    {definition : TypeDef}
    (member : definition ∈ manifest.types) :
    manifest.get? definition.id = some definition := by
  cases found : manifest.get? definition.id with
  | none => simpa using List.find?_eq_none.mp found definition member
  | some other =>
      exact congrArg some (List.inj_on_of_nodup_map manifest.distinct
        (Manifest.mem_of_get? found) member (Manifest.id_of_get? found))

section Opening

variable {manifest : Manifest} {registry : Registry} {stack : List TypeId} {id : TypeId}

theorem TypeNode.rebuild_of_mem (inside : id ∈ stack) :
    TypeNode.rebuild manifest registry stack id =
      .error (.unsupportedShape (.type id) (.nestsItself (cycleFrom stack id))) := by
  rw [TypeNode.rebuild, dif_pos inside]

theorem TypeNode.rebuild_of_undefined
    (outside : id ∉ stack)
    (missing : manifest.get? id = none) :
    TypeNode.rebuild manifest registry stack id =
      .error (.unsupportedShape (.type id) .undefinedType) := by
  rw [TypeNode.rebuild, dif_neg outside]
  split
  next => rfl
  next other found => rw [missing] at found; cases found

theorem TypeNode.rebuild_of_defined
    {definition : TypeDef}
    (outside : id ∉ stack)
    (found : manifest.get? id = some definition) :
    TypeNode.rebuild manifest registry stack id =
      definition.rebuild registry (TypeNode.rebuild manifest registry (stack ++ [id])) := by
  rw [TypeNode.rebuild, dif_neg outside]
  split
  next missing => rw [found] at missing; cases missing
  next other foundOther =>
    obtain rfl := Option.some.inj (found.symm.trans foundOther)
    rfl

theorem walk_of_mem (inside : id ∈ stack) :
    walk manifest registry stack id =
      Building.once (fun node => node.id == id)
        (Building.fail (.unsupportedShape (.type id) (.nestsItself (cycleFrom stack id)))) := by
  rw [walk, dif_pos inside]

theorem walk_of_undefined (outside : id ∉ stack) (missing : manifest.get? id = none) :
    walk manifest registry stack id =
      Building.once (fun node => node.id == id)
        (Building.fail (.unsupportedShape (.type id) .undefinedType)) := by
  rw [walk, dif_neg outside]
  congr
  split
  next => rfl
  next other found => rw [missing] at found; cases found

theorem walk_of_defined
    {definition : TypeDef}
    (outside : id ∉ stack)
    (found : manifest.get? id = some definition) :
    walk manifest registry stack id =
      Building.once (fun node => node.id == id)
        (definition.resolve registry (walk manifest registry (stack ++ [id]))) := by
  rw [walk, dif_neg outside]
  congr
  split
  next missing => rw [found] at missing; cases missing
  next other foundOther =>
    obtain rfl := Option.some.inj (found.symm.trans foundOther)
    rfl

end Opening

/-! ## Lists of nodes that a walk may have built -/

/-- What a field says by itself, its nested type given by its identity. -/
def FieldNode.outline (field : FieldNode TypeNode) : FieldNode TypeId :=
  field.withShape (field.shape.map TypeNode.id)

/-- A node says what the manifest and the tables say of its type. -/
def TypeNode.Matches (manifest : Manifest) (registry : Registry) (node : TypeNode) : Prop :=
  ∃ definition,
    manifest.get? node.id = some definition ∧
    definition.outline registry = ⟨node.fields.map FieldNode.outline, none⟩ ∧
    node = definition.node registry node.fields

/-- Every type once, every node true to the manifest and the tables, and every node after
the nodes that it nests. -/
inductive WellBuilt (manifest : Manifest) (registry : Registry) : List TypeNode → Prop where
  | nothing : WellBuilt manifest registry []
  | add {nodes : List TypeNode} {node : TypeNode}
      (earlier : WellBuilt manifest registry nodes)
      (isNew : node.id ∉ nodes.map TypeNode.id)
      (matching : node.Matches manifest registry)
      (nests : ∀ inner ∈ node.nested, inner ∈ nodes) :
      WellBuilt manifest registry (nodes ++ [node])

variable {manifest : Manifest} {registry : Registry} {nodes : List TypeNode}

namespace WellBuilt

theorem distinct (built : WellBuilt manifest registry nodes) :
    (nodes.map TypeNode.id).Nodup := by
  induction built with
  | nothing => simp
  | add _ isNew _ _ inductionHypothesis =>
      rw [List.map_append, List.map_singleton]
      exact List.nodup_append.mpr ⟨inductionHypothesis, by simp, by
        intro id member other last equal
        rw [List.mem_singleton] at last
        exact isNew (last ▸ equal ▸ member)⟩

theorem matches_of_mem
    (built : WellBuilt manifest registry nodes)
    {node : TypeNode}
    (member : node ∈ nodes) :
    node.Matches manifest registry := by
  induction built with
  | nothing => cases member
  | add _ _ matching _ inductionHypothesis =>
      rcases List.mem_append.mp member with before | last
      · exact inductionHypothesis before
      · rw [List.mem_singleton] at last
        exact last ▸ matching

theorem nested_mem
    (built : WellBuilt manifest registry nodes)
    {node inner : TypeNode}
    (member : node ∈ nodes)
    (isNested : inner ∈ node.nested) :
    inner ∈ nodes := by
  induction built with
  | nothing => cases member
  | add _ _ _ nests inductionHypothesis =>
      rcases List.mem_append.mp member with before | last
      · exact List.mem_append_left _ (inductionHypothesis before)
      · rw [List.mem_singleton] at last
        exact List.mem_append_left _ (nests inner (last ▸ isNested))

/-- Two nodes of one type are the same node. -/
theorem eq_of_id_eq
    (built : WellBuilt manifest registry nodes)
    {left right : TypeNode}
    (leftMember : left ∈ nodes)
    (rightMember : right ∈ nodes)
    (sameId : left.id = right.id) :
    left = right :=
  List.inj_on_of_nodup_map built.distinct leftMember rightMember sameId

end WellBuilt

/-! ## Rebuilding what was built -/

private theorem FieldNode.rebuild_outline
    {visit : TypeId → Except CompileError TypeNode}
    (field : FieldNode TypeNode)
    (visited : ∀ inner, field.shape.nested? = some inner → visit inner.id = .ok inner) :
    field.outline.rebuild visit = .ok field := by
  obtain ⟨declared, external, ⟨arity, target⟩, effects, version, description⟩ := field
  cases target with
  | scalar type => rfl
  | struct inner =>
      have given : visit inner.id = .ok inner := visited inner rfl
      simp [FieldNode.outline, FieldNode.withShape, FieldNode.rebuild, Target.rebuild,
        FieldShape.map, Target.map, given, Except.map]

/-- A node is given back when the nodes that it nests are. -/
theorem TypeNode.Matches.rebuild_eq
    {node : TypeNode}
    {definition : TypeDef}
    {visit : TypeId → Except CompileError TypeNode}
    (outlined : definition.outline registry = ⟨node.fields.map FieldNode.outline, none⟩)
    (isNode : node = definition.node registry node.fields)
    (visited : ∀ inner ∈ node.nested, visit inner.id = .ok inner) :
    definition.rebuild registry visit = .ok node := by
  have fields :
      (node.fields.map FieldNode.outline).mapM (FieldNode.rebuild visit) =
        .ok node.fields := by
    rw [Results.mapM_eq_ok, List.forall₂_map_left_iff, List.forall₂_same]
    intro field member
    exact field.rebuild_outline fun inner found =>
      visited inner (mem_nested.mpr ⟨field, member, found⟩)
  rw [TypeDef.rebuild, outlined]
  simp only [fields]
  rw [isNode]
  rfl

/-- Rebuilding a node that a walk may have built gives it back below every stack that
shares no type with what was built: no built type nests one that is not built. -/
theorem WellBuilt.rebuild_remembered
    (built : WellBuilt manifest registry nodes)
    {stack : List TypeId}
    (apart : ∀ type ∈ stack, type ∉ nodes.map TypeNode.id)
    {node : TypeNode}
    (member : node ∈ nodes) :
    TypeNode.rebuild manifest registry stack node.id = .ok node := by
  induction built generalizing stack node with
  | nothing => cases member
  | @add nodes last earlier isNew matching nests inductionHypothesis =>
      have apartBefore : ∀ type ∈ stack, type ∉ nodes.map TypeNode.id := by
        intro type onStack inside
        exact apart type onStack (by simp [List.mem_map.mp inside])
      rcases List.mem_append.mp member with before | isLast
      · exact inductionHypothesis apartBefore before
      · obtain rfl := List.mem_singleton.mp isLast
        have offStack : node.id ∉ stack := fun onStack => apart node.id onStack (by simp)
        obtain ⟨definition, found, outlined, isNode⟩ := matching
        -- Below the node its own type is on the stack as well, and it is not built yet.
        have apartBelow : ∀ type ∈ stack ++ [node.id], type ∉ nodes.map TypeNode.id := by
          intro type onStack
          rcases List.mem_append.mp onStack with onOld | isOwn
          · exact apartBefore type onOld
          · exact List.mem_singleton.mp isOwn ▸ isNew
        rw [TypeNode.rebuild_of_defined offStack found]
        exact TypeNode.Matches.rebuild_eq outlined isNode fun inner isNested =>
          inductionHypothesis apartBelow (nests inner isNested)

end BlockSchema
