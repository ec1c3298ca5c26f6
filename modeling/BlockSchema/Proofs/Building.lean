import BlockSchema.Building
import BlockSchema.Proofs.Results

/-!
Contract: what a computation guarantees about its value and about the list of results
that it leaves.

`Advances` says that a run keeps an invariant of the list, that what was built before
stays where it was, and what holds of the value or error together with the list. Every
way to put computations together has a rule, so a derivation that builds results once is
checked step by step, in the order in which it runs.
-/

set_option autoImplicit false

namespace BlockSchema.Building

variable {ε ρ α β : Type}

/-- What a run that found the list `built` guarantees. -/
structure Advances
    (invariant : List ρ → Prop)
    (built : List ρ)
    (outcome : Except ε α × List ρ)
    (ensures : Except ε α → List ρ → Prop) :
    Prop where
  kept : invariant outcome.2
  grown : built <+: outcome.2
  ensured : ensures outcome.1 outcome.2

namespace Advances

variable {invariant : List ρ → Prop} {built : List ρ}

theorem weaken
    {outcome : Except ε α × List ρ}
    {strong weak : Except ε α → List ρ → Prop}
    (advances : Advances invariant built outcome strong)
    (implied : strong outcome.1 outcome.2 → weak outcome.1 outcome.2) :
    Advances invariant built outcome weak :=
  ⟨advances.kept, advances.grown, implied advances.ensured⟩

/-- What a run guarantees may speak of the list that it found. -/
theorem withGrowth
    {outcome : Except ε α × List ρ}
    {ensures : Except ε α → List ρ → Prop}
    (advances : Advances invariant built outcome ensures) :
    Advances invariant built outcome fun result later =>
      built <+: later ∧ ensures result later :=
  ⟨advances.kept, advances.grown, advances.grown, advances.ensured⟩

theorem pure
    {ensures : Except ε α → List ρ → Prop}
    {value : α}
    (holds : invariant built)
    (ensured : ensures (.ok value) built) :
    Advances invariant built (Building.pure value built) ensures :=
  ⟨holds, List.prefix_refl built, ensured⟩

theorem fail
    {ensures : Except ε α → List ρ → Prop}
    {error : ε}
    (holds : invariant built)
    (ensured : ensures (.error error) built) :
    Advances invariant built (Building.fail error built) ensures :=
  ⟨holds, List.prefix_refl built, ensured⟩

theorem ofExcept
    {ensures : Except ε α → List ρ → Prop}
    {result : Except ε α}
    (holds : invariant built)
    (ensured : ensures result built) :
    Advances invariant built (Building.ofExcept result built) ensures := by
  cases result with
  | ok value => exact pure holds ensured
  | error error => exact fail holds ensured

/-- A chain stops at the error of its first link; else the second link goes on from the
list that the first one left. -/
theorem bind
    {first : Building ε (List ρ) α}
    {next : α → Building ε (List ρ) β}
    {middle : Except ε α → List ρ → Prop}
    {ensures : Except ε β → List ρ → Prop}
    (head : Advances invariant built (first built) middle)
    (onError : ∀ error later, middle (.error error) later → ensures (.error error) later)
    (onValue : ∀ value later, invariant later → middle (.ok value) later →
      Advances invariant later (next value later) ensures) :
    Advances invariant built (first.bind next built) ensures := by
  obtain ⟨kept, grown, ensured⟩ := head
  unfold Building.bind
  generalize first built = outcome at kept grown ensured
  obtain ⟨result, later⟩ := outcome
  cases result with
  | error error => exact ⟨kept, grown, onError error later ensured⟩
  | ok value =>
      have tail := onValue value later kept ensured
      exact ⟨tail.kept, grown.trans tail.grown, tail.ensured⟩

/-- A chain of computations that give what they give alone does so as well. -/
theorem bindAlone
    {first : Building ε (List ρ) α}
    {next : α → Building ε (List ρ) β}
    {alone : Except ε α}
    {aloneNext : α → Except ε β}
    (head : Advances invariant built (first built) fun result _ => result = alone)
    (tail : ∀ value later, invariant later →
      Advances invariant later (next value later) fun result _ => result = aloneNext value) :
    Advances invariant built (first.bind next built) fun result _ =>
      result = alone.bind aloneNext := by
  refine head.bind ?_ ?_
  · intro error later given
    rw [← given]
    rfl
  · intro value later holdsLater given
    rw [← given]
    exact tail value later holdsLater

/-- What is built already is found again; else it is made, perhaps under a stronger
invariant, and put at the end. -/
theorem once
    {isSought : ρ → Bool}
    {make : Building ε (List ρ) ρ}
    {inner : List ρ → Prop}
    {middle ensures : Except ε ρ → List ρ → Prop}
    (holds : invariant built)
    (found : ∀ result ∈ built, isSought result = true → ensures (.ok result) built)
    (made : (∀ result ∈ built, isSought result = false) →
      Advances inner built (make built) middle)
    (failed : ∀ error later, inner later → middle (.error error) later →
      invariant later ∧ ensures (.error error) later)
    (added : ∀ result later, inner later → middle (.ok result) later →
      invariant (later ++ [result]) ∧ ensures (.ok result) (later ++ [result])) :
    Advances invariant built (Building.once isSought make built) ensures := by
  unfold Building.once
  split
  next result isFound =>
    exact ⟨holds, List.prefix_refl built,
      found result (List.mem_of_find?_eq_some isFound) (List.find?_some isFound)⟩
  next notFound =>
    have absent : ∀ result ∈ built, isSought result = false := by
      simpa using notFound
    obtain ⟨kept, grown, ensured⟩ := made absent
    generalize make built = outcome at kept grown ensured
    obtain ⟨result, later⟩ := outcome
    cases result with
    | error error =>
        obtain ⟨keptAfter, ensuredAfter⟩ := failed error later kept ensured
        exact ⟨keptAfter, grown, ensuredAfter⟩
    | ok result =>
        obtain ⟨keptAfter, ensuredAfter⟩ := added result later kept ensured
        exact ⟨keptAfter, grown.trans (List.prefix_append later [result]), ensuredAfter⟩

/-- What two runs guarantee of one outcome, either of them guarantees with the other. -/
theorem both
    {outcome : Except ε α × List ρ}
    {first second : Except ε α → List ρ → Prop}
    (left : Advances invariant built outcome first)
    (right : Advances invariant built outcome second) :
    Advances invariant built outcome fun result later =>
      first result later ∧ second result later :=
  ⟨left.kept, left.grown, left.ensured, right.ensured⟩

/-- A list of computations that give what they give alone does so as well. -/
theorem eachAlone
    {make : α → Building ε (List ρ) β}
    {alone : α → Except ε β}
    (elements : List α)
    (step : ∀ element ∈ elements, ∀ before, invariant before →
      Advances invariant before (make element before) fun result _ => result = alone element)
    (holds : invariant built) :
    Advances invariant built (Building.each make elements built) fun result _ =>
      result = elements.mapM alone := by
  induction elements generalizing built with
  | nil => exact pure holds rfl
  | cons element rest inductionHypothesis =>
      rw [List.mapM_cons]
      refine bindAlone (step element List.mem_cons_self built holds) fun value later keeps => ?_
      have tail := inductionHypothesis
        (fun other member => step other (List.mem_cons_of_mem element member)) keeps
      exact bindAlone tail fun values last keepsLast => pure keepsLast rfl

/-- What holds of every element's value when it is made, and of every longer list as well,
holds of all the values in the end. -/
theorem eachHolds
    {make : α → Building ε (List ρ) β}
    (holdsOf : α → β → List ρ → Prop)
    (stays : ∀ element value earlier later, earlier <+: later →
      holdsOf element value earlier → holdsOf element value later)
    (elements : List α)
    (step : ∀ element ∈ elements, ∀ before, invariant before →
      Advances invariant before (make element before) fun result later =>
        ∀ value, result = .ok value → holdsOf element value later)
    (holds : invariant built) :
    Advances invariant built (Building.each make elements built) fun result later =>
      ∀ values, result = .ok values →
        List.Forall₂ (fun element value => holdsOf element value later) elements values := by
  induction elements generalizing built with
  | nil =>
      refine pure holds fun values equal => ?_
      obtain rfl := Except.ok.inj equal
      exact .nil
  | cons element rest inductionHypothesis =>
      refine bind (step element List.mem_cons_self built holds)
        (fun error later _ values impossible => by cases impossible) ?_
      intro value later keeps held
      have tail := inductionHypothesis
        (fun other member => step other (List.mem_cons_of_mem element member)) keeps
      refine bind tail.withGrowth
        (fun error last _ values impossible => by cases impossible) ?_
      intro values last keepsLast ⟨grown, heldRest⟩
      refine pure keepsLast fun all equal => ?_
      obtain rfl := Except.ok.inj equal
      exact .cons (stays element value later last grown (held value rfl)) (heldRest values rfl)

/-- A list of computations gives what the elements give by themselves, together with what
holds of their values. -/
theorem each
    {make : α → Building ε (List ρ) β}
    {alone : α → Except ε β}
    (holdsOf : α → β → List ρ → Prop)
    (stays : ∀ element value earlier later, earlier <+: later →
      holdsOf element value earlier → holdsOf element value later)
    (elements : List α)
    (step : ∀ element ∈ elements, ∀ before, invariant before →
      Advances invariant before (make element before) fun result later =>
        result = alone element ∧ ∀ value, result = .ok value → holdsOf element value later)
    (holds : invariant built) :
    Advances invariant built (Building.each make elements built) fun result later =>
      result = elements.mapM alone ∧
        ∀ values, result = .ok values →
          List.Forall₂ (fun element value => holdsOf element value later) elements values :=
  both
    (eachAlone elements
      (fun element member before keeps => (step element member before keeps).weaken And.left)
      holds)
    (eachHolds holdsOf stays elements
      (fun element member before keeps => (step element member before keeps).weaken And.right)
      holds)

end Advances

/-- A run keeps an invariant of the list, whatever it gives. -/
abbrev Keeps (invariant : List ρ → Prop) (built : List ρ) (outcome : Except ε α × List ρ) : Prop :=
  Advances invariant built outcome fun _ _ => True

namespace Keeps

variable {invariant : List ρ → Prop} {built : List ρ}

theorem of_advances
    {outcome : Except ε α × List ρ}
    {ensures : Except ε α → List ρ → Prop}
    (advances : Advances invariant built outcome ensures) :
    Keeps invariant built outcome :=
  advances.weaken fun _ => trivial

theorem pure {value : α} (holds : invariant built) :
    Keeps invariant built (Building.pure value built : Except ε α × List ρ) :=
  Advances.pure holds trivial

theorem ofExcept {result : Except ε α} (holds : invariant built) :
    Keeps invariant built (Building.ofExcept result built) :=
  Advances.ofExcept holds trivial

/-- A chain keeps what both of its links keep. -/
theorem bind
    {first : Building ε (List ρ) α}
    {next : α → Building ε (List ρ) β}
    (head : Keeps invariant built (first built))
    (tail : ∀ value later, invariant later → Keeps invariant later (next value later)) :
    Keeps invariant built (first.bind next built) :=
  Advances.bind head (fun _ _ _ => trivial) fun value later holdsLater _ =>
    tail value later holdsLater

/-- A list of computations keeps what each of them keeps. -/
theorem each
    {make : α → Building ε (List ρ) β}
    (elements : List α)
    (step : ∀ element ∈ elements, ∀ before, invariant before →
      Keeps invariant before (make element before))
    (holds : invariant built) :
    Keeps invariant built (Building.each make elements built) := by
  induction elements generalizing built with
  | nil => exact pure holds
  | cons element rest inductionHypothesis =>
      refine bind (step element List.mem_cons_self built holds) fun value later holdsLater => ?_
      have tail := inductionHypothesis
        (fun other member => step other (List.mem_cons_of_mem element member)) holdsLater
      exact bind tail fun values last holdsLast => pure holdsLast

/-- A result that is not found is added, and nothing else when making it keeps the list. -/
theorem once_adds
    {isSought : ρ → Bool}
    {make : Building ε (List ρ) ρ}
    {later : List ρ}
    {result : ρ}
    (notFound : built.find? isSought = none)
    (made : Keeps (· = built) built (make built))
    (ran : Building.once isSought make built = (.ok result, later)) :
    later = built ++ [result] := by
  have kept : (make built).2 = built := made.kept
  unfold Building.once at ran
  rw [notFound] at ran
  generalize make built = outcome at kept ran
  obtain ⟨value, between⟩ := outcome
  cases value with
  | error error => cases ran
  | ok value =>
      obtain ⟨same, rfl⟩ := Prod.mk.inj ran
      obtain rfl := Except.ok.inj same
      exact congrArg (· ++ [value]) kept

end Keeps

/-! ## Chains -/

theorem bind_assoc
    {σ γ : Type}
    (first : Building ε σ α)
    (second : α → Building ε σ β)
    (third : β → Building ε σ γ) :
    (first.bind second).bind third = first.bind fun value => (second value).bind third := by
  funext memory
  unfold Building.bind
  generalize first memory = outcome
  obtain ⟨result, later⟩ := outcome
  cases result <;> rfl

/-- A chain has a value when both of its links have one. -/
theorem bind_eq_ok
    {σ : Type}
    {first : Building ε σ α}
    {next : α → Building ε σ β}
    {memory later : σ}
    {value : β} :
    first.bind next memory = (.ok value, later) ↔
      ∃ middle between, first memory = (.ok middle, between) ∧
        next middle between = (.ok value, later) := by
  unfold Building.bind
  generalize first memory = outcome
  obtain ⟨result, between⟩ := outcome
  cases result with
  | error error => simp
  | ok middle => simp

/-! ## Failures -/

section Failures

variable {σ : Type} {error : ε}

theorem bind_fails
    {first : Building ε σ α}
    {next : α → Building ε σ β}
    {memory : σ}
    (failed : (first memory).1 = .error error) :
    (first.bind next memory).1 = .error error := by
  unfold Building.bind
  generalize first memory = outcome at failed
  obtain ⟨result, later⟩ := outcome
  obtain rfl : result = .error error := failed
  rfl

theorem each_fails
    {make : α → Building ε σ β}
    {earlier rest : List α}
    {element : α}
    {values : List β}
    {memory later : σ}
    (ran : Building.each make earlier memory = (.ok values, later))
    (failed : (make element later).1 = .error error) :
    (Building.each make (earlier ++ element :: rest) memory).1 = .error error := by
  induction earlier generalizing memory values with
  | nil =>
      obtain ⟨-, rfl⟩ := Prod.mk.inj ran
      exact bind_fails failed
  | cons head tail inductionHypothesis =>
      simp only [Building.each, Building.bind, List.cons_append] at ran ⊢
      generalize make head memory = outcome at ran
      obtain ⟨result, between⟩ := outcome
      cases result with
      | error other => cases ran
      | ok value =>
          simp only at ran ⊢
          refine bind_fails ?_
          cases tailRan : Building.each make tail between with
          | mk tailResult last =>
              rw [tailRan] at ran
              cases tailResult with
              | error other => cases ran
              | ok tailValues =>
                  obtain ⟨-, rfl⟩ := Prod.mk.inj ran
                  exact inductionHypothesis tailRan

theorem once_fails
    {isSought : ρ → Bool}
    {make : Building ε (List ρ) ρ}
    {built : List ρ}
    (notFound : built.find? isSought = none)
    (failed : (make built).1 = .error error) :
    (Building.once isSought make built).1 = .error error := by
  unfold Building.once
  rw [notFound]
  generalize make built = outcome at failed
  obtain ⟨result, later⟩ := outcome
  obtain rfl : result = .error error := failed
  rfl

end Failures

/-! ## Errors -/

/-- A computation fails with errors of some kind only, whatever is in its memory. -/
def FailsOnly {σ : Type} (allowed : ε → Prop) (computation : Building ε σ α) : Prop :=
  ∀ memory error, (computation memory).1 = .error error → allowed error

namespace FailsOnly

variable {σ : Type} {allowed : ε → Prop}

theorem weaken
    {wider : ε → Prop}
    {computation : Building ε σ α}
    (only : FailsOnly allowed computation)
    (implied : ∀ error, allowed error → wider error) :
    FailsOnly wider computation :=
  fun memory error failed => implied error (only memory error failed)

theorem pure (value : α) : FailsOnly allowed (Building.pure value : Building ε σ α) :=
  fun _ _ impossible => by cases impossible

theorem fail {error : ε} (isAllowed : allowed error) :
    FailsOnly allowed (Building.fail error : Building ε σ α) :=
  fun _ _ failed => Except.error.inj failed ▸ isAllowed

theorem ofExcept
    {result : Except ε α}
    (only : ∀ error, result = .error error → allowed error) :
    FailsOnly allowed (Building.ofExcept result : Building ε σ α) := by
  cases result with
  | ok value => exact .pure value
  | error error => exact .fail (only error rfl)

theorem bind
    {first : Building ε σ α}
    {next : α → Building ε σ β}
    (onlyFirst : FailsOnly allowed first)
    (onlyNext : ∀ value, FailsOnly allowed (next value)) :
    FailsOnly allowed (first.bind next) := by
  intro memory error failed
  unfold Building.bind at failed
  have ofFirst := onlyFirst memory
  generalize first memory = outcome at failed ofFirst
  obtain ⟨result, later⟩ := outcome
  cases result with
  | ok value => exact onlyNext value later error failed
  | error other => exact Except.error.inj failed ▸ ofFirst other rfl

theorem each
    {make : α → Building ε σ β}
    {elements : List α}
    (only : ∀ element ∈ elements, FailsOnly allowed (make element)) :
    FailsOnly allowed (Building.each make elements) := by
  induction elements with
  | nil => exact .pure []
  | cons element rest inductionHypothesis =>
      obtain ⟨onlyElement, onlyRest⟩ := List.forall_mem_cons.mp only
      exact .bind onlyElement fun value =>
        .bind (inductionHypothesis onlyRest) fun values => .pure (value :: values)

theorem once
    {isSought : ρ → Bool}
    {make : Building ε (List ρ) ρ}
    (only : FailsOnly allowed make) :
    FailsOnly allowed (Building.once isSought make) := by
  intro built error failed
  unfold Building.once at failed
  split at failed
  next => cases failed
  next =>
    have ofMake := only built
    generalize make built = outcome at failed ofMake
    obtain ⟨result, later⟩ := outcome
    cases result with
    | ok value => cases failed
    | error other => exact Except.error.inj failed ▸ ofMake other rfl

end FailsOnly

/-! ## One computation over two memories -/

section Tracking

variable {σ τ : Type} {view : σ → τ}

/-- A computation does over one memory what another one does over what `view` shows of
that memory. -/
def Tracks (view : σ → τ) (inner : Building ε σ α) (outer : Building ε τ α) : Prop :=
  ∀ memory, outer (view memory) = ((inner memory).1, view (inner memory).2)

namespace Tracks

theorem pure (value : α) :
    Tracks view (Building.pure value : Building ε σ α) (Building.pure value) :=
  fun _ => rfl

theorem fail (error : ε) :
    Tracks view (Building.fail error : Building ε σ α) (Building.fail error) :=
  fun _ => rfl

theorem bind
    {first : Building ε σ α}
    {firstOuter : Building ε τ α}
    {next : α → Building ε σ β}
    {nextOuter : α → Building ε τ β}
    (head : Tracks view first firstOuter)
    (tail : ∀ value, Tracks view (next value) (nextOuter value)) :
    Tracks view (first.bind next) (firstOuter.bind nextOuter) := by
  intro memory
  unfold Building.bind
  rw [head memory]
  generalize first memory = outcome
  obtain ⟨result, later⟩ := outcome
  cases result with
  | error error => rfl
  | ok value => exact tail value later

theorem each
    {make : α → Building ε σ β}
    {makeOuter : α → Building ε τ β}
    (step : ∀ element, Tracks view (make element) (makeOuter element))
    (elements : List α) :
    Tracks view (Building.each make elements) (Building.each makeOuter elements) := by
  induction elements with
  | nil => exact pure []
  | cons element rest inductionHypothesis =>
      exact bind (step element) fun value =>
        bind inductionHypothesis fun values => pure (value :: values)

end Tracks

end Tracking

/-! ## Two computations in step -/

section Stepping

variable {σ τ γ δ : Type}

/-- Begun on related memories, two computations leave related memories, and they have
related values or one error. -/
def InStep
    (memories : σ → τ → Prop)
    (values : α → β → Prop)
    (left : Building ε σ α)
    (right : Building ε τ β) :
    Prop :=
  ∀ leftMemory rightMemory, memories leftMemory rightMemory →
    Results.Agree values (left leftMemory).1 (right rightMemory).1 ∧
      memories (left leftMemory).2 (right rightMemory).2

namespace InStep

variable {memories : σ → τ → Prop} {values : α → β → Prop}

theorem pure {left : α} {right : β} (holds : values left right) :
    InStep memories values (Building.pure left : Building ε σ α) (Building.pure right) :=
  fun _ _ related => ⟨.ok holds, related⟩

theorem fail (error : ε) :
    InStep memories values (Building.fail error : Building ε σ α) (Building.fail error) :=
  fun _ _ related => ⟨.error error, related⟩

/-- Chains are in step when their first links are, and their second links for related
values. -/
theorem bind
    {nextValues : γ → δ → Prop}
    {left : Building ε σ α}
    {right : Building ε τ β}
    {leftNext : α → Building ε σ γ}
    {rightNext : β → Building ε τ δ}
    (head : InStep memories values left right)
    (tail : ∀ leftValue rightValue, values leftValue rightValue →
      InStep memories nextValues (leftNext leftValue) (rightNext rightValue)) :
    InStep memories nextValues (left.bind leftNext) (right.bind rightNext) := by
  intro leftMemory rightMemory related
  obtain ⟨agree, relatedLater⟩ := head leftMemory rightMemory related
  unfold Building.bind
  generalize left leftMemory = leftOutcome at agree relatedLater
  generalize right rightMemory = rightOutcome at agree relatedLater
  obtain ⟨leftResult, leftLater⟩ := leftOutcome
  obtain ⟨rightResult, rightLater⟩ := rightOutcome
  cases agree with
  | error error => exact ⟨.error error, relatedLater⟩
  | ok holds => exact tail _ _ holds leftLater rightLater relatedLater

/-- Lists of computations are in step when they are pair by pair. -/
theorem each
    {related : γ → δ → Prop}
    {leftMake : γ → Building ε σ α}
    {rightMake : δ → Building ε τ β}
    (step : ∀ left right, related left right →
      InStep memories values (leftMake left) (rightMake right))
    {lefts : List γ}
    {rights : List δ}
    (pairwise : List.Forall₂ related lefts rights) :
    InStep memories (List.Forall₂ values)
      (Building.each leftMake lefts) (Building.each rightMake rights) := by
  induction pairwise with
  | nil => exact pure .nil
  | cons head _ inductionHypothesis =>
      exact bind (step _ _ head) fun _ _ first =>
        bind inductionHypothesis fun _ _ rest => pure (.cons first rest)

/-- Results that pair by pair pass the same test are looked up in step, and built in step
when there are none. -/
theorem once
    {leftSought : α → Bool}
    {rightSought : β → Bool}
    (sameTest : ∀ left right, values left right → leftSought left = rightSought right)
    {leftMake : Building ε (List α) α}
    {rightMake : Building ε (List β) β}
    (made : InStep (List.Forall₂ values) values leftMake rightMake) :
    InStep (List.Forall₂ values) values
      (Building.once leftSought leftMake) (Building.once rightSought rightMake) := by
  have found : ∀ lefts rights, List.Forall₂ values lefts rights →
      (lefts.find? leftSought = none ∧ rights.find? rightSought = none) ∨
        ∃ left right, lefts.find? leftSought = some left ∧
          rights.find? rightSought = some right ∧ values left right := by
    intro lefts rights related
    induction related with
    | nil => exact .inl ⟨rfl, rfl⟩
    | @cons left right _ _ holds _ inductionHypothesis =>
        rw [List.find?_cons, List.find?_cons, sameTest left right holds]
        cases rightSought right with
        | true => exact .inr ⟨left, right, rfl, rfl, holds⟩
        | false => exact inductionHypothesis
  intro lefts rights related
  unfold Building.once
  rcases found lefts rights related with
    ⟨leftNone, rightNone⟩ | ⟨left, right, isLeft, isRight, holds⟩
  · obtain ⟨agree, relatedLater⟩ := made lefts rights related
    rw [leftNone, rightNone]
    generalize leftMake lefts = leftOutcome at agree relatedLater
    generalize rightMake rights = rightOutcome at agree relatedLater
    obtain ⟨leftResult, leftLater⟩ := leftOutcome
    obtain ⟨rightResult, rightLater⟩ := rightOutcome
    cases agree with
    | error error => exact ⟨.error error, relatedLater⟩
    | ok holds => exact ⟨.ok holds, List.rel_append relatedLater (.cons holds .nil)⟩
  · rw [isLeft, isRight]
    exact ⟨.ok holds, related⟩

end InStep

end Stepping

end BlockSchema.Building
