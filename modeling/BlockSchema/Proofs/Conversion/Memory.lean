import BlockSchema.Proofs.Conversion.Nesting
import Mathlib.Data.List.Induction

/-!
Contract: the order in which conversions are remembered.

A conversion is remembered when it is complete, and by then all that it nests is. Nothing has
to be known of the nodes for that: a conversion that is found in the memory came into it in
the same way.
-/

set_option autoImplicit false

namespace BlockSchema.Conversion

/-- Each of some conversions stands after those that it nests. -/
inductive InOrder : List Conversion → Prop where
  | nothing : InOrder []
  | add {before : List Conversion} {conversion : Conversion}
      (earlier : InOrder before)
      (nests : ∀ inner ∈ conversion.nested, inner ∈ before) :
      InOrder (before ++ [conversion])

namespace InOrder

variable {built earlier later : List Conversion} {conversion : Conversion}

private theorem before_place
    (ordered : InOrder built)
    (place : built = earlier ++ conversion :: later) :
    InOrder earlier ∧ ∀ inner ∈ conversion.nested, inner ∈ earlier := by
  induction ordered generalizing later with
  | nothing => simp at place
  | add before nests inductionHypothesis =>
      -- The place is the last one, or it lies among those before.
      cases later using List.reverseRecOn with
      | nil =>
          obtain ⟨rfl, same⟩ := List.append_inj' place rfl
          obtain rfl := List.singleton_injective same
          exact ⟨before, nests⟩
      | append_singleton between last =>
          rw [← List.cons_append, ← List.append_assoc] at place
          exact inductionHypothesis (List.append_inj' place rfl).1

theorem closed (ordered : InOrder built) : Closed built := by
  intro conversion member inner isNested
  obtain ⟨earlier, later, place⟩ := List.append_of_mem member
  rw [place]
  exact List.mem_append_left _ ((ordered.before_place place).2 inner isNested)

/-- What stands inside a conversion, at any depth, stands before it. -/
theorem inside_before
    (ordered : InOrder built)
    (place : built = earlier ++ conversion :: later)
    {inner : Conversion}
    (inside : Relation.TransGen (fun nested outer => nested ∈ outer.nested) inner conversion) :
    inner ∈ earlier := by
  obtain ⟨orderedEarlier, nests⟩ := ordered.before_place place
  induction inside using Relation.TransGen.head_induction_on with
  | single isNested => exact nests _ isNested
  | head isNested _ inductionHypothesis =>
      obtain ⟨first, second, split⟩ := List.append_of_mem inductionHypothesis
      rw [split]
      exact List.mem_append_left _ ((orderedEarlier.before_place split).2 _ isNested)

end InOrder

/-! ## Derivations -/

section Derivations

variable {built : List Conversion}

private theorem deriveTarget_inOrder
    (target : Target TypeNode)
    (below : ∀ inner, target.nested? = some inner → ∀ before, InOrder before →
      Building.Advances InOrder before (Conversion.derive inner before) fun result later =>
        ∀ conversion, result = .ok conversion → conversion ∈ later)
    (ordered : InOrder built) :
    Building.Advances InOrder built (Conversion.deriveTarget target built) fun result later =>
      ∀ found, result = .ok found → ∀ inner, found.nested? = some inner → inner ∈ later := by
  cases target with
  | scalar type =>
      refine .pure ordered fun found equal inner isNested => ?_
      obtain rfl := Except.ok.inj equal
      cases isNested
  | struct node =>
      refine .bind (below node rfl built ordered)
        (fun error later _ found impossible => by cases impossible) ?_
      intro conversion later orderedLater remembered
      refine .pure orderedLater fun found equal inner isNested => ?_
      obtain rfl := Except.ok.inj equal
      obtain rfl := Option.some.inj isNested
      exact remembered _ rfl

private theorem deriveField_inOrder
    (owner : TypeId)
    (field : FieldNode TypeNode)
    (below : ∀ inner, field.shape.nested? = some inner → ∀ before, InOrder before →
      Building.Advances InOrder before (Conversion.derive inner before) fun result later =>
        ∀ conversion, result = .ok conversion → conversion ∈ later)
    (ordered : InOrder built) :
    Building.Advances InOrder built (Conversion.deriveField owner field built)
      fun result later =>
        ∀ entry, result = .ok entry →
          ∀ inner, entry.shape.nested? = some inner → inner ∈ later := by
  rw [Conversion.deriveField_eq]
  refine .bind (Building.Keeps.ofExcept ordered)
    (fun error later _ entry impossible => by cases impossible) ?_
  intro _ between orderedBetween _
  refine .bind (deriveTarget_inOrder field.shape.target below orderedBetween)
    (fun error later _ entry impossible => by cases impossible) ?_
  intro nested later orderedLater remembered
  refine .pure orderedLater fun entry equal inner isNested => ?_
  obtain rfl := Except.ok.inj equal
  exact remembered nested rfl inner isNested

/-- A derivation leaves the memory in order, with its conversion in it. -/
theorem derive_inOrder (node : TypeNode) (ordered : InOrder built) :
    Building.Advances InOrder built (Conversion.derive node built) fun result later =>
      ∀ conversion, result = .ok conversion → conversion ∈ later := by
  induction node using TypeNode.induction generalizing built with
  | step node inductionHypothesis =>
      have fields := Building.Advances.eachHolds
        (fun (_ : FieldNode TypeNode) (entry : FieldConversion Conversion) later =>
          ∀ inner, entry.shape.nested? = some inner → inner ∈ later)
        (fun _ _ _ _ grown held inner isNested => grown.subset (held inner isNested))
        node.fields
        (fun field member _ orderedBefore => deriveField_inOrder node.id field
          (fun inner isNested _ orderedInner => inductionHypothesis inner
            (TypeNode.mem_nested.mpr ⟨field, member, isNested⟩) orderedInner)
          orderedBefore)
        ordered
      have made : Building.Advances InOrder built
          ((Building.each (Conversion.deriveField node.id) node.fields).bind
            (fun entries => Building.pure (Conversion.mk node.id entries node.excluded)) built)
          fun result later => ∀ conversion, result = .ok conversion →
            ∀ inner ∈ conversion.nested, inner ∈ later := by
        refine .bind fields (fun error later _ conversion impossible => by cases impossible) ?_
        intro entries later orderedLater held
        refine .pure orderedLater fun conversion equal inner isNested => ?_
        obtain rfl := Except.ok.inj equal
        obtain ⟨entry, member, isInner⟩ := Conversion.mem_nested.mp isNested
        obtain ⟨_, _, remembered⟩ := Results.exists_of_mem_right (held entries rfl) member
        exact remembered inner isInner
      rw [Conversion.derive_eq]
      refine .once ordered ?found (fun _ => made) ?failed ?added
      case found =>
        intro conversion remembered _ given equal
        exact Except.ok.inj equal ▸ remembered
      case failed =>
        exact fun error later orderedLater _ => ⟨orderedLater, fun _ impossible => by
          cases impossible⟩
      case added =>
        intro conversion later orderedLater nests
        refine ⟨orderedLater.add (nests conversion rfl), fun given equal => ?_⟩
        obtain rfl := Except.ok.inj equal
        exact List.mem_append_right _ (List.mem_singleton_self conversion)

end Derivations

end BlockSchema.Conversion
