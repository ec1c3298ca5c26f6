import BlockSchema.Proofs.Conversion.Nesting
import BlockSchema.Proofs.Graph.Reach

/-!
Contract: the order in which the conversions of a graph are derived.

A node comes after what it nests. So when its turn comes the conversions that it needs are
at hand, deriving it adds its own conversion and nothing else, and the conversions come out
in the order of the nodes.
-/

set_option autoImplicit false

namespace BlockSchema

namespace Conversion

section Derivations

variable {memory : List Conversion}

/-- A conversion at hand is taken from the memory, which stays as it is. -/
theorem derive_of_found
    {node : TypeNode}
    {conversion : Conversion}
    (found : memory.find? (fun conversion => conversion.typeId == node.id) = some conversion) :
    Conversion.derive node memory = (.ok conversion, memory) := by
  rw [Conversion.derive_eq, Building.once, found]

/-- An entry leaves the memory as it is when the conversion below it is at hand. -/
theorem deriveField_keeps
    (owner : TypeId)
    (field : FieldNode TypeNode)
    (known : ∀ inner, field.shape.nested? = some inner →
      ∃ conversion, Conversion.derive inner memory = (.ok conversion, memory)) :
    Building.Keeps (· = memory) memory (Conversion.deriveField owner field memory) := by
  have target : Building.Keeps (· = memory) memory
      (Conversion.deriveTarget field.shape.target memory) := by
    cases held : field.shape.target with
    | scalar type => exact .pure rfl
    | struct inner =>
        have isNested : field.shape.nested? = some inner := by
          rw [FieldShape.nested?, held]
          rfl
        obtain ⟨conversion, given⟩ := known inner isNested
        have below : Building.Keeps (· = memory) memory (Conversion.derive inner memory) := by
          rw [given]
          exact .pure rfl
        exact .bind below fun _ _ same => .pure same
  rw [Conversion.deriveField_eq]
  refine .bind (.ofExcept rfl) fun _ later same => ?_
  subst same
  exact .bind target fun _ _ same => .pure same

/-- A conversion that is not at hand is added to the memory, and nothing else is, when the
conversions below it are at hand. -/
theorem derive_adds
    (node : TypeNode)
    (isNew : ∀ conversion ∈ memory, conversion.typeId ≠ node.id)
    (known : ∀ inner ∈ node.nested,
      ∃ conversion, Conversion.derive inner memory = (.ok conversion, memory))
    {conversion : Conversion}
    {later : List Conversion}
    (derived : Conversion.derive node memory = (.ok conversion, later)) :
    later = memory ++ [conversion] := by
  have fields : Building.Keeps (· = memory) memory
      (Building.each (Conversion.deriveField node.id) node.fields memory) := by
    refine .each node.fields (fun field member before same => ?_) rfl
    subst same
    exact Conversion.deriveField_keeps node.id field fun inner isNested =>
      known inner (TypeNode.mem_nested.mpr ⟨field, member, isNested⟩)
  have notFound : memory.find? (fun conversion => conversion.typeId == node.id) = none := by
    simpa using isNew
  rw [Conversion.derive_eq] at derived
  exact Building.Keeps.once_adds notFound (.bind fields fun _ _ same => .pure same) derived

end Derivations

end Conversion

namespace WellBuilt

variable {manifest : Manifest} {registry : Registry} {nodes : List TypeNode}

/-- What was derived of the nodes is found again. -/
theorem derive_eq
    (built : WellBuilt manifest registry nodes)
    {node : TypeNode}
    (member : node ∈ nodes) :
    Conversion.derive node (nodes.map TypeNode.conversion) =
      (.ok node.conversion, nodes.map TypeNode.conversion) :=
  Conversion.derive_of_found (built.coherent.find?_conversion
    (fun _ => List.mem_map_of_mem) (fun _ => List.mem_map.mp) member)

/-- Deriving a node when the nodes before it are derived adds its conversion. -/
theorem derive_next
    {earlier later : List TypeNode}
    {node : TypeNode}
    (built : WellBuilt manifest registry (earlier ++ node :: later))
    (remembers : Remembers TypeNode.converted (earlier ++ node :: later)
      (earlier.map TypeNode.conversion))
    {conversion : Conversion}
    {memory : List Conversion}
    (derived : Conversion.derive node (earlier.map TypeNode.conversion) =
      (.ok conversion, memory)) :
    memory = (earlier ++ [node]).map TypeNode.conversion ∧
      Remembers TypeNode.converted (earlier ++ node :: later) memory := by
  have member : node ∈ earlier ++ node :: later := by simp
  have advanced := Conversion.derive_alone built.coherent node member
    (earlier.map TypeNode.conversion) remembers
  rw [derived] at advanced
  have isOwn : node.conversion = conversion :=
    (TypeNode.converted_eq_ok.mp advanced.ensured.1.symm).2
  -- What the node nests stands before it, so all that it needs is in the memory.
  obtain ⟨before, isNew, nests⟩ := built.before_place rfl
  have added := Conversion.derive_adds node ?_ ?_ derived
  case refine_1 =>
    intro other isListed named
    obtain ⟨found, isFound, rfl⟩ := List.mem_map.mp isListed
    rw [TypeNode.conversion_typeId] at named
    exact isNew (named ▸ List.mem_map_of_mem isFound)
  case refine_2 => exact fun inner isNested => ⟨_, before.derive_eq (nests inner isNested)⟩
  refine ⟨?_, advanced.kept⟩
  rw [added, List.map_append, List.map_singleton, isOwn]

/-- Derived in order, the nodes leave their conversions in that order. -/
theorem derive_each
    {earlier rest : List TypeNode}
    (built : WellBuilt manifest registry (earlier ++ rest))
    (remembers : Remembers TypeNode.converted (earlier ++ rest)
      (earlier.map TypeNode.conversion))
    {values memory : List Conversion}
    (derived : Building.each Conversion.derive rest (earlier.map TypeNode.conversion) =
      (.ok values, memory)) :
    memory = (earlier ++ rest).map TypeNode.conversion := by
  induction rest generalizing earlier values with
  | nil =>
      rw [List.append_nil]
      exact (Prod.mk.inj derived).2.symm
  | cons node rest inductionHypothesis =>
      obtain ⟨conversion, between, first, others⟩ := Building.bind_eq_ok.mp derived
      obtain ⟨conversions, last, ofRest, ended⟩ := Building.bind_eq_ok.mp others
      obtain ⟨-, rfl⟩ := Prod.mk.inj ended
      obtain ⟨rfl, remembersNext⟩ := built.derive_next remembers first
      rw [List.append_cons] at built remembersNext ⊢
      exact inductionHypothesis built remembersNext ofRest

/-- Deriving some of the nodes again gives their conversions and adds nothing. -/
theorem derive_again
    (built : WellBuilt manifest registry nodes)
    (selected : List TypeNode)
    (among : ∀ node ∈ selected, node ∈ nodes) :
    Building.each Conversion.derive selected (nodes.map TypeNode.conversion) =
      (.ok (selected.map TypeNode.conversion), nodes.map TypeNode.conversion) := by
  induction selected with
  | nil => rfl
  | cons node rest inductionHypothesis =>
      have first := built.derive_eq (among node List.mem_cons_self)
      have others := inductionHypothesis fun other member =>
        among other (List.mem_cons_of_mem node member)
      refine Building.bind_eq_ok.mpr ⟨_, _, first, ?_⟩
      exact Building.bind_eq_ok.mpr ⟨_, _, others, rfl⟩

end WellBuilt

end BlockSchema
