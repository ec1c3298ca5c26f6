import BlockSchema.Proofs.Graph.Rebuild

/-!
Contract: what is derived from nodes once a type is what is derived from them alone.

A derivation finds its results again by their type. Among nodes of which no two have one
type, and which hold what they nest, a result found is the result of the very node.
-/

set_option autoImplicit false

namespace BlockSchema

/-- No two nodes have one type, and what a node nests is among them. -/
structure Coherent (nodes : List TypeNode) : Prop where
  eq_of_id_eq : ∀ left ∈ nodes, ∀ right ∈ nodes, left.id = right.id → left = right
  nested_mem : ∀ node ∈ nodes, ∀ inner ∈ node.nested, inner ∈ nodes

theorem WellBuilt.coherent
    {manifest : Manifest}
    {registry : Registry}
    {nodes : List TypeNode}
    (built : WellBuilt manifest registry nodes) :
    Coherent nodes where
  eq_of_id_eq _ leftMember _ rightMember := built.eq_of_id_eq leftMember rightMember
  nested_mem _ member _ isNested := built.nested_mem member isNested

section Memory

variable {ε ρ : Type}

/-- Every remembered result is what one of the nodes gives alone. -/
def Remembers
    (alone : TypeNode → Except ε ρ)
    (nodes : List TypeNode)
    (built : List ρ) :
    Prop :=
  ∀ result ∈ built, ∃ node ∈ nodes, alone node = .ok result

theorem Remembers.nothing {alone : TypeNode → Except ε ρ} {nodes : List TypeNode} :
    Remembers alone nodes [] :=
  fun _ member => by cases member

/-- What deriving a node gives: its result alone, which is remembered from then on. -/
def Derived
    (alone : TypeNode → Except ε ρ)
    (node : TypeNode)
    (result : Except ε ρ)
    (built : List ρ) :
    Prop :=
  result = alone node ∧ ∀ value, result = .ok value → value ∈ built

/-- A derivation gives for a node what the node gives alone, whatever of some nodes was
derived before. -/
def DerivesAlone
    (alone : TypeNode → Except ε ρ)
    (nodes : List TypeNode)
    (derive : TypeNode → Building ε (List ρ) ρ)
    (node : TypeNode) :
    Prop :=
  ∀ built, Remembers alone nodes built →
    Building.Advances (Remembers alone nodes) built (derive node built) (Derived alone node)

/-- A result that is looked up by its type may be taken from the memory. -/
theorem Coherent.once_advances
    {nodes : List TypeNode}
    (coherent : Coherent nodes)
    {alone : TypeNode → Except ε ρ}
    {typeOf : ρ → TypeId}
    (typed : ∀ node result, alone node = .ok result → typeOf result = node.id)
    {node : TypeNode}
    (member : node ∈ nodes)
    {make : Building ε (List ρ) ρ}
    {built : List ρ}
    (remembers : Remembers alone nodes built)
    (made : Building.Advances (Remembers alone nodes) built (make built) fun result _ =>
      result = alone node) :
    Building.Advances (Remembers alone nodes) built
      (Building.once (fun result => typeOf result == node.id) make built)
      (Derived alone node) := by
  refine .once remembers ?found (fun _ => made) ?failed ?added
  case found =>
    intro result remembered named
    obtain ⟨other, otherMember, given⟩ := remembers result remembered
    have sameType : other.id = node.id :=
      (typed other result given).symm.trans (beq_iff_eq.mp named)
    obtain rfl := coherent.eq_of_id_eq other otherMember node member sameType
    exact ⟨given.symm, fun value equal => Except.ok.inj equal ▸ remembered⟩
  case failed =>
    intro error later kept given
    exact ⟨kept, given, fun value impossible => by cases impossible⟩
  case added =>
    intro result later kept given
    refine ⟨fun other inside => ?_, given, fun value equal => ?_⟩
    · rcases List.mem_append.mp inside with earlier | isNew
      · exact kept other earlier
      · exact ⟨node, member, List.mem_singleton.mp isNew ▸ given.symm⟩
    · exact List.mem_append_right _ (List.mem_singleton.mpr (Except.ok.inj equal).symm)

/-- Nodes derived in order give what they give alone, and all of it is remembered. -/
theorem DerivesAlone.each
    {nodes : List TypeNode}
    {alone : TypeNode → Except ε ρ}
    {derive : TypeNode → Building ε (List ρ) ρ}
    (derived : ∀ node ∈ nodes, DerivesAlone alone nodes derive node)
    (selected : List TypeNode)
    (among : ∀ node ∈ selected, node ∈ nodes)
    {built : List ρ}
    (remembers : Remembers alone nodes built) :
    Building.Advances (Remembers alone nodes) built (Building.each derive selected built)
      fun result later =>
        result = selected.mapM alone ∧
          ∀ values, result = .ok values → ∀ value ∈ values, value ∈ later := by
  have advanced := Building.Advances.each
    (fun (_ : TypeNode) (value : ρ) later => value ∈ later)
    (fun _ _ _ _ grown inside => grown.subset inside)
    selected
    (fun node member before => derived node (among node member) before)
    remembers
  refine advanced.weaken fun given => ⟨given.1, fun values equal value inside => ?_⟩
  obtain ⟨_, _, held⟩ := Results.exists_of_mem_right (given.2 values equal) inside
  exact held

end Memory

end BlockSchema
