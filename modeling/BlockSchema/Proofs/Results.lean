import Mathlib.Data.List.Perm.Basic

/-!
Contract: results that may be errors, and lists of them.

A chain of computations has a value exactly when every link has one. A list of
computations has values exactly when every element has one, position by position.
-/

set_option autoImplicit false

namespace BlockSchema.Results

variable {ε α β γ : Type}

theorem exists_of_mem_right
    {related : α → β → Prop}
    {elements : List α}
    {values : List β}
    (pairwise : List.Forall₂ related elements values)
    {value : β}
    (member : value ∈ values) :
    ∃ element ∈ elements, related element value := by
  induction pairwise with
  | nil => cases member
  | @cons element head rest _ holds _ inductionHypothesis =>
      rcases List.mem_cons.mp member with rfl | later
      · exact ⟨element, by simp, holds⟩
      · obtain ⟨other, otherMember, otherHolds⟩ := inductionHypothesis later
        exact ⟨other, by simp [otherMember], otherHolds⟩

theorem exists_of_mem_left
    {related : α → β → Prop}
    {elements : List α}
    {values : List β}
    (pairwise : List.Forall₂ related elements values)
    {element : α}
    (member : element ∈ elements) :
    ∃ value ∈ values, related element value :=
  exists_of_mem_right pairwise.flip member

theorem bind_eq_ok {result : Except ε α} {next : α → Except ε β} {value : β} :
    (result >>= next) = .ok value ↔
      ∃ middle, result = .ok middle ∧ next middle = .ok value := by
  cases result with
  | error error => simp [bind, Except.bind]
  | ok middle => simp [bind, Except.bind]

theorem map_eq_ok {result : Except ε α} {change : α → β} {value : β} :
    result.map change = .ok value ↔ ∃ middle, result = .ok middle ∧ change middle = value := by
  cases result with
  | error error => simp [Except.map]
  | ok middle => simp [Except.map]

theorem map_eq_error {result : Except ε α} {change : α → β} {error : ε} :
    result.map change = .error error ↔ result = .error error := by
  cases result with
  | error other => simp [Except.map]
  | ok value => simp [Except.map]

/-- A result of which some value passes a test has that value. -/
theorem exists_of_any
    {result : Except ε α}
    {test : α → Bool}
    (passes : result.toOption.any test = true) :
    ∃ value, result = .ok value ∧ test value = true := by
  cases result with
  | error error => cases passes
  | ok value => exact ⟨value, rfl, passes⟩

theorem toOption_eq_some_iff {result : Except ε α} {value : α} :
    result.toOption = some value ↔ result = .ok value := by
  cases result <;> simp [Except.toOption]

/-- Whether a result is an error. -/
def failsWith [DecidableEq ε] (error : ε) : Except ε α → Bool
  | .error other => other = error
  | .ok _ => false

theorem failsWith_iff [DecidableEq ε] {error : ε} {result : Except ε α} :
    failsWith error result = true ↔ result = .error error := by
  cases result <;> simp [failsWith]

/-- A list of computations has values exactly when every element has its own. -/
theorem mapM_eq_ok {make : α → Except ε β} {elements : List α} {values : List β} :
    elements.mapM make = .ok values ↔
      List.Forall₂ (fun element value => make element = .ok value) elements values := by
  induction elements generalizing values with
  | nil =>
      rw [List.mapM_nil, List.forall₂_nil_left_iff]
      exact ⟨fun equal => (Except.ok.inj equal).symm, fun equal => congrArg Except.ok equal.symm⟩
  | cons element rest inductionHypothesis =>
      rw [List.mapM_cons, List.forall₂_cons_left_iff, bind_eq_ok]
      constructor
      · rintro ⟨value, made, chained⟩
        obtain ⟨others, madeOthers, equal⟩ := bind_eq_ok.mp chained
        exact ⟨value, others, made, inductionHypothesis.mp madeOthers,
          (Except.ok.inj equal).symm⟩
      · rintro ⟨value, others, made, madeOthers, rfl⟩
        exact ⟨value, made, bind_eq_ok.mpr ⟨others, inductionHypothesis.mpr madeOthers, rfl⟩⟩

theorem mapM_congr
    {first second : α → Except ε β}
    {elements : List α}
    (same : ∀ element ∈ elements, first element = second element) :
    elements.mapM first = elements.mapM second := by
  induction elements with
  | nil => rfl
  | cons element rest inductionHypothesis =>
      rw [List.mapM_cons, List.mapM_cons, same element List.mem_cons_self,
        inductionHypothesis fun other member => same other (List.mem_cons_of_mem element member)]

theorem mapM_map (make : β → Except ε γ) (change : α → β) (elements : List α) :
    (elements.map change).mapM make = elements.mapM fun element => make (change element) := by
  induction elements with
  | nil => rfl
  | cons element rest inductionHypothesis =>
      rw [List.map_cons, List.mapM_cons, List.mapM_cons, inductionHypothesis]

theorem map_mapM (make : α → Except ε β) (change : β → γ) (elements : List α) :
    (elements.mapM make).map (List.map change) =
      elements.mapM fun element => (make element).map change := by
  induction elements with
  | nil => rfl
  | cons element rest inductionHypothesis =>
      rw [List.mapM_cons, List.mapM_cons, ← inductionHypothesis]
      cases make element with
      | error error => rfl
      | ok value => cases rest.mapM make <;> rfl

theorem mapM_eq_map
    {make : α → Except ε β}
    {change : α → β}
    {elements : List α}
    (made : ∀ element ∈ elements, make element = .ok (change element)) :
    elements.mapM make = .ok (elements.map change) := by
  rw [mapM_eq_ok, List.forall₂_map_right_iff, List.forall₂_same]
  exact made

theorem exists_mapM_eq_ok
    {make : α → Except ε β}
    {elements : List α}
    (each : ∀ element ∈ elements, ∃ value, make element = .ok value) :
    ∃ values, elements.mapM make = .ok values := by
  induction elements with
  | nil => exact ⟨[], rfl⟩
  | cons element rest inductionHypothesis =>
      obtain ⟨value, made⟩ := each element List.mem_cons_self
      obtain ⟨values, madeRest⟩ := inductionHypothesis fun other member =>
        each other (List.mem_cons_of_mem element member)
      rw [List.mapM_cons, made, madeRest]
      exact ⟨value :: values, rfl⟩

/-- What one list has become can be taken further, element by element. -/
theorem forall₂_map_of_forall₂
    {related : α → β → Prop}
    {next : β → γ → Prop}
    {whole : α → γ}
    {elements : List α}
    {values : List β}
    (pairwise : List.Forall₂ related elements values)
    (holds : ∀ element ∈ elements, ∀ value, related element value → next value (whole element)) :
    List.Forall₂ next values (elements.map whole) := by
  rw [List.forall₂_map_right_iff]
  induction pairwise with
  | nil => exact .nil
  | cons head _ inductionHypothesis =>
      refine .cons (holds _ List.mem_cons_self _ head) (inductionHypothesis ?_)
      intro element member
      exact holds element (List.mem_cons_of_mem _ member)

/-- What a list with an element in some place has become has what the element has become in
that place. -/
theorem exists_split_of_forall₂
    {related : α → β → Prop}
    {front back : List α}
    {element : α}
    {values : List β}
    (pairwise : List.Forall₂ related (front ++ element :: back) values) :
    ∃ first value last, first ++ value :: last = values ∧ List.Forall₂ related front first ∧
      related element value ∧ List.Forall₂ related back last := by
  induction front generalizing values with
  | nil =>
      cases pairwise with
      | cons head tail => exact ⟨[], _, _, rfl, .nil, head, tail⟩
  | cons other rest inductionHypothesis =>
      cases pairwise with
      | cons head tail =>
          obtain ⟨first, value, last, rfl, fronts, held, backs⟩ := inductionHypothesis tail
          exact ⟨_ :: first, value, last, rfl, .cons head fronts, held, backs⟩

/-- Two lists that come of one list have the same images when what comes of one element
has. -/
theorem map_eq_map_of_forall₂
    {δ : Type}
    {left : α → β → Prop}
    {right : α → γ → Prop}
    {leftImage : β → δ}
    {rightImage : γ → δ}
    {elements : List α}
    {lefts : List β}
    {rights : List γ}
    (leftPairs : List.Forall₂ left elements lefts)
    (rightPairs : List.Forall₂ right elements rights)
    (same : ∀ element ∈ elements, ∀ first, left element first → ∀ second,
      right element second → leftImage first = rightImage second) :
    lefts.map leftImage = rights.map rightImage := by
  induction leftPairs generalizing rights with
  | nil =>
      cases rightPairs
      rfl
  | cons head _ inductionHypothesis =>
      cases rightPairs with
      | cons rightHead rightTail =>
          rw [List.map_cons, List.map_cons, same _ List.mem_cons_self _ head _ rightHead,
            inductionHypothesis rightTail fun element member =>
              same element (List.mem_cons_of_mem _ member)]

/-- What one list of computations made, another one can take further, element by
element. -/
theorem mapM_mapM
    {first : α → Except ε β}
    {elements : List α}
    {values : List β}
    {δ : Type}
    {second : β → Except δ γ}
    {whole : α → γ}
    (made : elements.mapM first = .ok values)
    (next : ∀ element ∈ elements, ∀ value, first element = .ok value →
      second value = .ok (whole element)) :
    values.mapM second = .ok (elements.map whole) := by
  rw [mapM_eq_ok] at made ⊢
  exact forall₂_map_of_forall₂ made next

/-- Where related elements have related values, one list of computations has values when the
other has. -/
theorem exists_mapM_of_forall₂
    {δ ε' : Type}
    {related : α → β → Prop}
    {next : γ → δ → Prop}
    {first : α → Except ε γ}
    {second : β → Except ε' δ}
    {elements : List α}
    {others : List β}
    {values : List δ}
    (pairwise : List.Forall₂ related elements others)
    (made : others.mapM second = .ok values)
    (each : ∀ element other, related element other → ∀ value, second other = .ok value →
      ∃ result, first element = .ok result ∧ next result value) :
    ∃ results, elements.mapM first = .ok results ∧ List.Forall₂ next results values := by
  rw [mapM_eq_ok] at made
  induction pairwise generalizing values with
  | nil =>
      cases made
      exact ⟨[], rfl, .nil⟩
  | @cons element other _ _ head _ inductionHypothesis =>
      cases made with
      | cons isValue madeRest =>
          obtain ⟨result, isResult, holds⟩ := each element other head _ isValue
          obtain ⟨results, madeResults, holdsRest⟩ := inductionHypothesis madeRest
          rw [List.mapM_cons, isResult, madeResults]
          exact ⟨result :: results, rfl, .cons holds holdsRest⟩

/-- Computations in another order have their values in another order. -/
theorem exists_mapM_of_perm
    {make : α → Except ε β}
    {elements others : List α}
    {values : List β}
    (permuted : elements.Perm others)
    (made : others.mapM make = .ok values) :
    ∃ results, elements.mapM make = .ok results ∧ results.Perm values := by
  obtain ⟨results, pairwise, reordered⟩ := List.perm_comp_forall₂ permuted (mapM_eq_ok.mp made)
  exact ⟨results, mapM_eq_ok.mpr pairwise, reordered⟩

theorem findSome?_zip_map (test : α × β → Option γ) (change : α → β) (elements : List α) :
    (elements.zip (elements.map change)).findSome? test =
      elements.findSome? fun element => test (element, change element) := by
  induction elements with
  | nil => rfl
  | cons element rest inductionHypothesis =>
      rw [List.map_cons, List.zip_cons_cons, List.findSome?_cons, List.findSome?_cons,
        inductionHypothesis]

/-! ## Values that are refused for a fault -/

/-- A value, unless there is a fault. -/
def refuseFor (fault : Option ε) (value : α) : Except ε α :=
  match fault with
  | some error => .error error
  | none => .ok value

theorem refuseFor_eq_ok {fault : Option ε} {value given : α} :
    refuseFor fault value = .ok given ↔ fault = none ∧ value = given := by
  cases fault <;> simp [refuseFor]

theorem refuseFor_eq_error {fault : Option ε} {value : α} {error : ε} :
    refuseFor fault value = .error error ↔ fault = some error := by
  cases fault <;> simp [refuseFor]

theorem map_refuseFor (change : α → β) (fault : Option ε) (value : α) :
    (refuseFor fault value).map change = refuseFor fault (change value) := by
  cases fault <;> rfl

/-- What is refused for either fault is refused for the first of them. -/
theorem bind_refuseFor (first second : Option ε) (value : α) (next : β) :
    ((refuseFor first value).bind fun _ => refuseFor second next) =
      refuseFor (first.or second) next := by
  cases first <;> rfl

/-- A list of values is refused for the first fault of an element. -/
theorem mapM_refuseFor (fault : α → Option ε) (value : α → β) (elements : List α) :
    elements.mapM (fun element => refuseFor (fault element) (value element)) =
      refuseFor (elements.findSome? fault) (elements.map value) := by
  induction elements with
  | nil => rfl
  | cons element rest inductionHypothesis =>
      rw [List.mapM_cons, inductionHypothesis, List.findSome?_cons]
      cases fault element with
      | some error => rfl
      | none =>
          cases rest.findSome? fault with
          | some error => rfl
          | none => rfl

/-! ## Two computations of one result -/

/-- Both computations have a value, and the values are related, or both have one error. -/
inductive Agree (related : α → β → Prop) : Except ε α → Except ε β → Prop where
  | ok {left : α} {right : β} (holds : related left right) :
      Agree related (.ok left) (.ok right)
  | error (error : ε) : Agree related (.error error) (.error error)

namespace Agree

variable {related : α → β → Prop} {left : Except ε α} {right : Except ε β}

theorem imp
    {weak : α → β → Prop}
    (agree : Agree related left right)
    (implied : ∀ leftValue rightValue, related leftValue rightValue →
      weak leftValue rightValue) :
    Agree weak left right := by
  cases agree with
  | ok holds => exact .ok (implied _ _ holds)
  | error error => exact .error error

/-- Results that are the same after a change agree in that the change makes them the same. -/
theorem of_map_eq
    {γ : Type}
    {leftChange : α → γ}
    {rightChange : β → γ}
    (same : left.map leftChange = right.map rightChange) :
    Agree (fun leftValue rightValue => leftChange leftValue = rightChange rightValue)
      left right := by
  cases left with
  | ok leftValue =>
      cases right with
      | ok rightValue => exact .ok (Except.ok.inj same)
      | error error => cases same
  | error error =>
      cases right with
      | ok rightValue => cases same
      | error other => exact Except.error.inj same ▸ .error error

theorem exists_of_ok {rightValue : β} (agree : Agree related left (.ok rightValue)) :
    ∃ leftValue, left = .ok leftValue ∧ related leftValue rightValue := by
  cases agree with
  | ok holds => exact ⟨_, rfl, holds⟩

theorem eq_error {error : ε} (agree : @Agree ε α β related left (.error error)) :
    left = .error error := by
  cases agree with
  | error => rfl

theorem holds_of_ok
    {leftValue : α}
    {rightValue : β}
    (agree : @Agree ε α β related (.ok leftValue) (.ok rightValue)) :
    related leftValue rightValue := by
  cases agree with
  | ok holds => exact holds

/-- What agreeing computations relate are their own values. -/
theorem withValues (agree : Agree related left right) :
    Agree (fun leftValue rightValue =>
      related leftValue rightValue ∧ left = .ok leftValue ∧ right = .ok rightValue)
      left right := by
  cases agree with
  | ok holds => exact .ok ⟨holds, rfl, rfl⟩
  | error error => exact .error error

theorem mapLeft
    {γ : Type}
    {next : γ → β → Prop}
    {change : α → γ}
    (agree : Agree (fun leftValue rightValue => next (change leftValue) rightValue) left right) :
    Agree next (left.map change) right := by
  cases agree with
  | ok holds => exact .ok holds
  | error error => exact .error error

theorem mapRight
    {γ : Type}
    {next : α → γ → Prop}
    {change : β → γ}
    (agree : Agree (fun leftValue rightValue => next leftValue (change rightValue)) left right) :
    Agree next left (right.map change) := by
  cases agree with
  | ok holds => exact .ok holds
  | error error => exact .error error

/-- Computations agree that begin with the same one. -/
theorem bind
    {γ : Type}
    {result : Except ε γ}
    {first : γ → Except ε α}
    {second : γ → Except ε β}
    (next : ∀ value, Agree related (first value) (second value)) :
    Agree related (result >>= first) (result >>= second) := by
  cases result with
  | error error => exact .error error
  | ok value => exact next value

/-- Lists of computations that agree one by one agree. -/
theorem mapM
    {γ : Type}
    {elements : List γ}
    {first : γ → Except ε α}
    {second : γ → Except ε β}
    (each : ∀ element ∈ elements, Agree related (first element) (second element)) :
    Agree (List.Forall₂ related) (elements.mapM first) (elements.mapM second) := by
  induction elements with
  | nil => exact .ok .nil
  | cons element rest inductionHypothesis =>
      have head := each element List.mem_cons_self
      have tail := inductionHypothesis fun other member =>
        each other (List.mem_cons_of_mem element member)
      rw [List.mapM_cons, List.mapM_cons]
      generalize first element = made, second element = otherMade at head
      generalize rest.mapM first = values, rest.mapM second = otherValues at tail
      cases head with
      | error error => exact .error error
      | ok holds =>
          cases tail with
          | error error => exact .error error
          | ok holdsRest => exact .ok (.cons holds holdsRest)

end Agree

/-! ## What is accepted, and the errors for what is not -/

/-- A computation has a value exactly when its input is accepted, and an error exactly when
its input is rejected for that error. -/
structure Decides (accepted : Prop) (rejected : ε → Prop) (result : Except ε α) : Prop where
  accepts : (∃ value, result = .ok value) ↔ accepted
  rejects : ∀ error, result = .error error ↔ rejected error

/-- The first element that is not accepted is rejected for an error. -/
def FirstRejected
    (accepted : α → Prop)
    (rejected : α → ε → Prop)
    (elements : List α)
    (error : ε) :
    Prop :=
  ∃ earlier element later, elements = earlier ++ element :: later ∧
    (∀ other ∈ earlier, accepted other) ∧ rejected element error

theorem firstRejected_nil
    {accepted : α → Prop}
    {rejected : α → ε → Prop}
    {error : ε} :
    ¬ FirstRejected accepted rejected [] error := by
  rintro ⟨earlier, element, later, impossible, _⟩
  simp at impossible

theorem firstRejected_cons
    {accepted : α → Prop}
    {rejected : α → ε → Prop}
    {element : α}
    {rest : List α}
    {error : ε} :
    FirstRejected accepted rejected (element :: rest) error ↔
      rejected element error ∨ accepted element ∧ FirstRejected accepted rejected rest error := by
  constructor
  · rintro ⟨_ | ⟨first, earlier⟩, found, later, place, before, isRejected⟩
    · obtain ⟨rfl, -⟩ := List.cons.inj place
      exact .inl isRejected
    · obtain ⟨rfl, rfl⟩ := List.cons.inj place
      obtain ⟨isAccepted, beforeRest⟩ := List.forall_mem_cons.mp before
      exact .inr ⟨isAccepted, earlier, found, later, rfl, beforeRest, isRejected⟩
  · rintro (isRejected | ⟨isAccepted, earlier, found, later, rfl, before, isRejected⟩)
    · exact ⟨[], element, rest, rfl, by simp, isRejected⟩
    · exact ⟨element :: earlier, found, later, rfl,
        List.forall_mem_cons.mpr ⟨isAccepted, before⟩, isRejected⟩

theorem firstRejected_congr
    {accepted otherAccepted : α → Prop}
    {rejected otherRejected : α → ε → Prop}
    {elements : List α}
    {error : ε}
    (sameAccepted : ∀ element, accepted element ↔ otherAccepted element)
    (sameRejected : ∀ element, rejected element error ↔ otherRejected element error) :
    FirstRejected accepted rejected elements error ↔
      FirstRejected otherAccepted otherRejected elements error := by
  simp only [FirstRejected, sameAccepted, sameRejected]

/-- What is found first in a list is found for an element after others for which nothing is. -/
theorem findSome?_eq_some {find? : α → Option β} {elements : List α} {found : β} :
    elements.findSome? find? = some found ↔
      FirstRejected (fun element => find? element = none)
        (fun element found => find? element = some found) elements found := by
  rw [List.findSome?_eq_some_iff]
  exact exists_congr fun _ => exists_congr fun _ => exists_congr fun _ =>
    and_congr_right fun _ => and_comm

namespace Decides

variable {accepted : Prop} {rejected : ε → Prop} {result : Except ε α}

theorem ok {value : α} (isAccepted : accepted) (unrejected : ∀ error, ¬ rejected error) :
    Decides accepted rejected (.ok value : Except ε α) where
  accepts := iff_of_true ⟨value, rfl⟩ isAccepted
  rejects error := iff_of_false (by simp) (unrejected error)

theorem error
    {error : ε}
    (isRefused : ¬ accepted)
    (only : ∀ other, rejected other ↔ error = other) :
    Decides accepted rejected (.error error : Except ε α) where
  accepts := iff_of_false (by simp) isRefused
  rejects other := by rw [only, Except.error.injEq]

theorem map {change : α → β} (decides : Decides accepted rejected result) :
    Decides accepted rejected (result.map change) := by
  obtain ⟨accepts, rejects⟩ := decides
  cases result with
  | ok value => exact ⟨by simpa [Except.map] using accepts, by simpa [Except.map] using rejects⟩
  | error error => exact ⟨by simpa [Except.map] using accepts, by simpa [Except.map] using rejects⟩

theorem congr
    {otherAccepted : Prop}
    {otherRejected : ε → Prop}
    (decides : Decides accepted rejected result)
    (sameAccepted : accepted ↔ otherAccepted)
    (sameRejected : ∀ error, rejected error ↔ otherRejected error) :
    Decides otherAccepted otherRejected result where
  accepts := decides.accepts.trans sameAccepted
  rejects error := (decides.rejects error).trans (sameRejected error)

/-- A list of computations has values when every element is accepted; its error is that of
the first element that is not. -/
theorem mapM
    {accepted : α → Prop}
    {rejected : α → ε → Prop}
    {make : α → Except ε β}
    {elements : List α}
    (each : ∀ element ∈ elements, Decides (accepted element) (rejected element) (make element)) :
    Decides (∀ element ∈ elements, accepted element)
      (FirstRejected accepted rejected elements) (elements.mapM make) := by
  induction elements with
  | nil => exact ok (by simp) fun error => firstRejected_nil
  | cons element rest inductionHypothesis =>
      have head := each element List.mem_cons_self
      have tail := inductionHypothesis fun other member =>
        each other (List.mem_cons_of_mem element member)
      rw [List.mapM_cons]
      cases made : make element with
      | error error =>
          rw [made] at head
          have refused : ¬ accepted element := fun isAccepted => by
            obtain ⟨value, impossible⟩ := head.accepts.mpr isAccepted
            cases impossible
          refine .error (fun all => refused (all element List.mem_cons_self)) fun other => ?_
          rw [firstRejected_cons, ← head.rejects, Except.error.injEq]
          simp [refused]
      | ok value =>
          rw [made] at head
          have isAccepted : accepted element := head.accepts.mp ⟨value, rfl⟩
          have unrejected : ∀ error, ¬ rejected element error := fun error isRejected => by
            cases (head.rejects error).mpr isRejected
          have same : Decides (∀ other ∈ element :: rest, accepted other)
              (FirstRejected accepted rejected (element :: rest)) (rest.mapM make) := by
            refine tail.congr ?_ fun error => ?_
            · rw [List.forall_mem_cons]
              simp [isAccepted]
            · rw [firstRejected_cons]
              simp [isAccepted, unrejected]
          exact @map _ _ _ _ _ _ (List.cons value) same

end Decides

end BlockSchema.Results
