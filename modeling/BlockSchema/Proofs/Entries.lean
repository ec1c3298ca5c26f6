import BlockSchema.Entries
import BlockSchema.Proofs.Results
import Mathlib.Data.List.Induction
import Mathlib.Data.List.Nodup
import Mathlib.Data.String.Basic

/-!
Contract: the laws of sorted maps, and look-ups in entries made one by one.

A sorted map is determined by its look-up. Putting entries into a sorted map treats the
values alike, so what relates the values of two lists of puts relates the values of their
maps.
-/

set_option autoImplicit false

namespace BlockSchema.Entries

variable {α β : Type}

/-- Every key is smaller than those after it. -/
def Sorted (entries : Entries α) : Prop :=
  entries.Pairwise fun first second => first.1 < second.1

instance (entries : Entries α) : Decidable entries.Sorted := by
  unfold Sorted
  infer_instance

theorem Sorted.nodup {entries : Entries α} (sorted : entries.Sorted) : entries.keys.Nodup :=
  List.pairwise_map.mpr (sorted.imp ne_of_lt)

theorem Sorted.map_value
    {entries : Entries α}
    (sorted : entries.Sorted)
    (change : α → β) :
    Sorted (entries.map fun entry => (entry.1, change entry.2)) :=
  List.pairwise_map.mpr sorted

/-! ## Looking up -/

theorem get?_cons (key : String) (entry : String × α) (rest : Entries α) :
    get? key (entry :: rest) = if entry.1 = key then some entry.2 else get? key rest :=
  rfl

theorem get?_eq_none {key : String} {entries : Entries α} :
    entries.get? key = none ↔ key ∉ entries.keys := by
  induction entries with
  | nil => simp [keys]
  | cons entry rest inductionHypothesis =>
      rw [get?_cons, keys, List.map_cons, List.mem_cons, not_or, ← keys]
      by_cases same : entry.1 = key
      · simp [same]
      · simp [same, Ne.symm same, inductionHypothesis]

theorem get?_append (key : String) (first second : Entries α) :
    get? key (first ++ second) = (get? key first).or (get? key second) := by
  induction first with
  | nil => rfl
  | cons entry rest inductionHypothesis =>
      rw [List.cons_append, get?_cons, get?_cons, inductionHypothesis]
      split <;> rfl

theorem mem_of_get? {key : String} {value : α} {entries : Entries α}
    (found : entries.get? key = some value) :
    (key, value) ∈ entries := by
  induction entries with
  | nil => cases found
  | cons entry rest inductionHypothesis =>
      rw [get?_cons] at found
      split at found
      next same =>
        obtain rfl := same
        obtain rfl := Option.some.inj found
        exact List.mem_cons_self
      next other => exact List.mem_cons_of_mem entry (inductionHypothesis found)

theorem get?_of_mem {key : String} {value : α} {entries : Entries α}
    (distinct : entries.keys.Nodup)
    (member : (key, value) ∈ entries) :
    entries.get? key = some value := by
  induction entries with
  | nil => cases member
  | cons entry rest inductionHypothesis =>
      obtain ⟨isNew, distinctRest⟩ := List.nodup_cons.mp distinct
      rw [get?_cons]
      rcases List.mem_cons.mp member with rfl | later
      · rw [if_pos rfl]
      · have apart : entry.1 ≠ key := fun same =>
          isNew (same ▸ List.mem_map_of_mem later)
        rw [if_neg apart]
        exact inductionHypothesis distinctRest later

theorem get?_map_value (change : α → β) (key : String) (entries : Entries α) :
    get? key (entries.map fun entry => (entry.1, change entry.2)) =
      (entries.get? key).map change := by
  induction entries with
  | nil => rfl
  | cons entry rest inductionHypothesis =>
      rw [List.map_cons, get?_cons, get?_cons, inductionHypothesis]
      split <;> rfl

/-- The entry of a name among entries with distinct names. -/
theorem get?_map_of_mem
    {φ : Type}
    {name : φ → String}
    {elements : List φ}
    (distinct : (elements.map name).Nodup)
    (value : φ → α)
    {element : φ}
    (member : element ∈ elements) :
    get? (name element) (elements.map fun other => (name other, value other)) =
      some (value element) := by
  refine get?_of_mem ?_ (List.mem_map.mpr ⟨element, member, rfl⟩)
  rw [keys, List.map_map]
  exact distinct

/-- The entry of a name, if there is one, among entries with distinct names. -/
theorem get?_filterMap_of_mem
    {φ : Type}
    {name : φ → String}
    {elements : List φ}
    (distinct : (elements.map name).Nodup)
    (value : φ → Option α)
    {element : φ}
    (member : element ∈ elements) :
    get? (name element)
      (elements.filterMap fun other => (value other).map (Prod.mk (name other))) =
        value element := by
  induction elements with
  | nil => cases member
  | cons head rest inductionHypothesis =>
      obtain ⟨isNew, distinctRest⟩ := List.nodup_cons.mp distinct
      rw [List.filterMap_cons]
      rcases List.mem_cons.mp member with rfl | later
      · cases given : value element with
        | some found => simp [get?_cons]
        | none =>
            rw [Option.map_none, get?_eq_none]
            intro inside
            obtain ⟨entry, isEntry, sameName⟩ := List.mem_map.mp inside
            obtain ⟨other, isOther, made⟩ := List.mem_filterMap.mp isEntry
            obtain ⟨_, _, rfl⟩ := Option.map_eq_some_iff.mp made
            exact isNew (sameName ▸ List.mem_map_of_mem isOther)
      · have apart : name head ≠ name element := fun same =>
          isNew (same ▸ List.mem_map_of_mem later)
        cases value head with
        | some found =>
            rw [Option.map_some, get?_cons, if_neg apart]
            exact inductionHypothesis distinctRest later
        | none => exact inductionHypothesis distinctRest later

/-- Entries made for distinct names are found under their names. -/
theorem get?_of_mapM
    {ε φ : Type}
    {name : φ → String}
    {make : φ → Except ε α}
    {elements : List φ}
    {entries : Entries α}
    (distinct : (elements.map name).Nodup)
    (made : elements.mapM (fun element => (make element).map (Prod.mk (name element))) =
      .ok entries)
    {element : φ}
    (member : element ∈ elements) :
    ∃ value, make element = .ok value ∧ entries.get? (name element) = some value := by
  rw [Results.mapM_eq_ok] at made
  induction made with
  | nil => cases member
  | @cons head entry rest others isMade _ inductionHypothesis =>
      obtain ⟨isNew, distinctRest⟩ := List.nodup_cons.mp distinct
      obtain ⟨value, isValue, rfl⟩ := Results.map_eq_ok.mp isMade
      rw [get?_cons]
      rcases List.mem_cons.mp member with rfl | later
      · exact ⟨value, isValue, if_pos rfl⟩
      · have apart : name head ≠ name element := fun same =>
          isNew (same ▸ List.mem_map_of_mem later)
        rw [if_neg apart]
        exact inductionHypothesis distinctRest later

/-- The keys of entries made for names are the names. -/
theorem keys_of_mapM
    {ε φ : Type}
    {name : φ → String}
    {make : φ → Except ε α}
    {elements : List φ}
    {entries : Entries α}
    (made : elements.mapM (fun element => (make element).map (Prod.mk (name element))) =
      .ok entries) :
    entries.keys = elements.map name := by
  rw [Results.mapM_eq_ok] at made
  induction made with
  | nil => rfl
  | cons isMade _ inductionHypothesis =>
      obtain ⟨value, _, rfl⟩ := Results.map_eq_ok.mp isMade
      exact congrArg _ inductionHypothesis

/-- Computations that agree make related entries, or stop at the same one of them. -/
theorem mapM_agree
    {ε φ : Type}
    {leftName rightName : φ → String}
    {leftMake : φ → Except ε α}
    {rightMake : φ → Except ε β}
    {related : φ → α → β → Prop}
    {elements : List φ}
    (leftDistinct : (elements.map leftName).Nodup)
    (rightDistinct : (elements.map rightName).Nodup)
    (each : ∀ element ∈ elements,
      Results.Agree (related element) (leftMake element) (rightMake element)) :
    Results.Agree
      (fun lefts rights => ∀ element ∈ elements, ∃ left right,
        get? (leftName element) lefts = some left ∧
          get? (rightName element) rights = some right ∧ related element left right)
      (elements.mapM fun element => (leftMake element).map (Prod.mk (leftName element)))
      (elements.mapM fun element => (rightMake element).map (Prod.mk (rightName element))) := by
  have entryAgrees : ∀ element ∈ elements, Results.Agree (fun _ _ => True)
      ((leftMake element).map (Prod.mk (leftName element)))
      ((rightMake element).map (Prod.mk (rightName element))) := fun element member =>
    .mapLeft (.mapRight ((each element member).imp fun _ _ _ => trivial))
  refine (Results.Agree.mapM entryAgrees).withValues.imp fun lefts rights made element member => ?_
  obtain ⟨_, leftMade, rightMade⟩ := made
  obtain ⟨left, isLeft, leftFound⟩ := get?_of_mapM leftDistinct leftMade member
  obtain ⟨right, isRight, rightFound⟩ := get?_of_mapM rightDistinct rightMade member
  have agree := each element member
  rw [isLeft, isRight] at agree
  exact ⟨left, right, leftFound, rightFound, agree.holds_of_ok⟩

/-! ## Insertion -/

theorem mem_of_mem_insert {key : String} {value : α} {entries : Entries α} {entry : String × α}
    (member : entry ∈ entries.insert key value) :
    entry = (key, value) ∨ entry ∈ entries := by
  induction entries with
  | nil => exact .inl (List.mem_singleton.mp member)
  | cons first rest inductionHypothesis =>
      rw [insert] at member
      split at member
      next => exact (List.mem_cons.mp member).imp id (List.mem_cons_of_mem first)
      next =>
        rcases List.mem_cons.mp member with rfl | later
        · exact .inr List.mem_cons_self
        · exact (inductionHypothesis later).imp id (List.mem_cons_of_mem first)

/-- An insertion keeps every key at its place; a new key comes last. -/
theorem keys_insert (key : String) (value : α) (entries : Entries α) :
    (entries.insert key value).keys =
      if key ∈ entries.keys then entries.keys else entries.keys ++ [key] := by
  induction entries with
  | nil => rfl
  | cons first rest inductionHypothesis =>
      obtain ⟨other, old⟩ := first
      have keysCons : keys ((other, old) :: rest) = other :: keys rest := rfl
      by_cases same : other = key
      · simp [insert, same, keys]
      · have keysInsert : (insert key value ((other, old) :: rest)).keys =
            other :: (insert key value rest).keys := by
          rw [insert, if_neg same]
          rfl
        rw [keysInsert, inductionHypothesis, keysCons]
        by_cases inside : key ∈ keys rest
        · simp [inside]
        · simp [inside, Ne.symm same]

theorem nodup_keys_insert {entries : Entries α} (distinct : entries.keys.Nodup)
    (key : String)
    (value : α) :
    (entries.insert key value).keys.Nodup := by
  rw [keys_insert]
  by_cases inside : key ∈ entries.keys
  · simpa [inside] using distinct
  · have apart : ∀ other ∈ entries.keys, other ≠ key := fun other member same =>
      inside (same ▸ member)
    simpa [inside, List.nodup_append, distinct] using apart

theorem insert_of_not_mem {key : String} {entries : Entries α} (isNew : key ∉ entries.keys)
    (value : α) :
    entries.insert key value = entries ++ [(key, value)] := by
  induction entries with
  | nil => rfl
  | cons entry rest inductionHypothesis =>
      obtain ⟨apart, newInRest⟩ := not_or.mp (mt List.mem_cons.mpr isNew)
      rw [insert, if_neg (Ne.symm apart), inductionHypothesis newInRest, List.cons_append]

/-- Puts with distinct keys are the entries of their map. -/
theorem ofList_of_nodup {puts : List (String × α)} (distinct : (keys puts).Nodup) :
    ofList puts = puts := by
  induction puts using List.reverseRecOn with
  | nil => rfl
  | append_singleton puts put inductionHypothesis =>
      rw [keys, List.map_append, List.nodup_append] at distinct
      obtain ⟨distinctPuts, _, apart⟩ := distinct
      have isNew : put.1 ∉ keys puts := fun inside =>
        apart put.1 inside put.1 (List.mem_singleton_self _) rfl
      rw [ofList, List.foldl_concat, ← ofList, inductionHypothesis distinctPuts,
        insert_of_not_mem isNew]

/-! ## Sorted maps -/

theorem get?_insertSorted (key other : String) (value : α) (entries : Entries α) :
    (entries.insertSorted key value).get? other =
      if key = other then some value else entries.get? other := by
  induction entries with
  | nil => rfl
  | cons entry rest inductionHypothesis =>
      obtain ⟨first, old⟩ := entry
      rw [insertSorted]
      split
      next same =>
        rw [get?_cons, get?_cons, same]
        split <;> rfl
      next differs =>
        split
        next => exact get?_cons ..
        next =>
          rw [get?_cons, get?_cons, inductionHypothesis]
          by_cases found : first = other
          · have apart : key ≠ other := fun equal => differs (found.trans equal.symm)
            rw [if_pos found, if_neg apart, if_pos found]
          · rw [if_neg found, if_neg found]

theorem mem_insertSorted {key : String} {value : α} {entries : Entries α} {entry : String × α}
    (member : entry ∈ entries.insertSorted key value) :
    entry = (key, value) ∨ entry ∈ entries := by
  induction entries with
  | nil => exact .inl (List.mem_singleton.mp member)
  | cons first rest inductionHypothesis =>
      rw [insertSorted] at member
      split at member
      next => exact (List.mem_cons.mp member).imp id (List.mem_cons_of_mem first)
      next =>
        split at member
        next => exact List.mem_cons.mp member
        next =>
          rcases List.mem_cons.mp member with rfl | later
          · exact .inr List.mem_cons_self
          · exact (inductionHypothesis later).imp id (List.mem_cons_of_mem first)

theorem Sorted.insertSorted
    {entries : Entries α}
    (sorted : entries.Sorted)
    (key : String)
    (value : α) :
    (entries.insertSorted key value).Sorted := by
  induction entries with
  | nil => exact List.pairwise_singleton _ _
  | cons entry rest inductionHypothesis =>
      obtain ⟨first, old⟩ := entry
      obtain ⟨least, sortedRest⟩ := List.pairwise_cons.mp sorted
      rw [Entries.insertSorted]
      split
      next same =>
        exact List.pairwise_cons.mpr
          ⟨fun later member => same ▸ least later member, sortedRest⟩
      next differs =>
        split
        next smaller =>
          refine List.pairwise_cons.mpr ⟨fun later member => ?_, sorted⟩
          rcases List.mem_cons.mp member with rfl | inside
          · exact smaller
          · exact lt_trans smaller (least later inside)
        next notSmaller =>
          refine List.pairwise_cons.mpr ⟨fun later member => ?_, inductionHypothesis sortedRest⟩
          rcases mem_insertSorted member with rfl | inside
          · exact lt_of_le_of_ne (not_lt.mp notSmaller) differs
          · exact least later inside

theorem sortedOfList_concat (puts : List (String × α)) (put : String × α) :
    sortedOfList (puts ++ [put]) = (sortedOfList puts).insertSorted put.1 put.2 :=
  List.foldl_concat _ _ _ _

theorem sortedOfList_sorted (puts : List (String × α)) : (sortedOfList puts).Sorted := by
  induction puts using List.reverseRecOn with
  | nil => exact .nil
  | append_singleton puts put inductionHypothesis =>
      rw [sortedOfList_concat]
      exact inductionHypothesis.insertSorted put.1 put.2

/-- The value of a key in a sorted map is the one put last. -/
theorem get?_sortedOfList (puts : List (String × α)) (key : String) :
    (sortedOfList puts).get? key = get? key puts.reverse := by
  induction puts using List.reverseRecOn with
  | nil => rfl
  | append_singleton puts put inductionHypothesis =>
      rw [sortedOfList_concat, get?_insertSorted, inductionHypothesis, List.reverse_concat,
        get?_cons]

/-- Two sorted maps with equal values under every key are equal. -/
theorem Sorted.eq_of_get? {left right : Entries α}
    (sortedLeft : left.Sorted)
    (sortedRight : right.Sorted)
    (same : ∀ key, left.get? key = right.get? key) :
    left = right := by
  have members : ∀ entry, entry ∈ left ↔ entry ∈ right := by
    intro entry
    constructor
    · intro member
      have found := get?_of_mem sortedLeft.nodup member
      exact mem_of_get? ((same entry.1).symm.trans found)
    · intro member
      have found := get?_of_mem sortedRight.nodup member
      exact mem_of_get? ((same entry.1).trans found)
  have permuted : left.Perm right :=
    (List.perm_ext_iff_of_nodup sortedLeft.nodup.of_map sortedRight.nodup.of_map).mpr members
  exact permuted.eq_of_pairwise
    (fun _ _ _ _ smaller greater => absurd smaller (not_lt_of_gt greater))
    sortedLeft sortedRight

theorem get?_reverse {entries : Entries α} (distinct : entries.keys.Nodup) (key : String) :
    get? key entries.reverse = entries.get? key := by
  have distinctReverse : (keys entries.reverse).Nodup := by
    rw [keys, List.map_reverse]
    exact List.nodup_reverse.mpr distinct
  cases found : entries.get? key with
  | some value =>
      exact get?_of_mem distinctReverse (List.mem_reverse.mpr (mem_of_get? found))
  | none =>
      rw [get?_eq_none] at found ⊢
      rw [keys, List.map_reverse, List.mem_reverse]
      exact found

/-- Sorting entries with distinct keys keeps what is found under every key. -/
theorem get?_sortedOfList_of_nodup
    {entries : Entries α}
    (distinct : entries.keys.Nodup)
    (key : String) :
    (sortedOfList entries).get? key = entries.get? key := by
  rw [get?_sortedOfList, get?_reverse distinct]

/-- Puts with distinct keys and the same look-up make the same sorted map. -/
theorem sortedOfList_eq_of_get? {left right : Entries α}
    (distinctLeft : left.keys.Nodup)
    (distinctRight : right.keys.Nodup)
    (same : ∀ key, left.get? key = right.get? key) :
    sortedOfList left = sortedOfList right := by
  refine (sortedOfList_sorted left).eq_of_get? (sortedOfList_sorted right) fun key => ?_
  rw [get?_sortedOfList_of_nodup distinctLeft, get?_sortedOfList_of_nodup distinctRight]
  exact same key

/-- Sorting what is sorted changes nothing. -/
theorem Sorted.sortedOfList_eq {entries : Entries α} (sorted : entries.Sorted) :
    sortedOfList entries = entries :=
  (sortedOfList_sorted entries).eq_of_get? sorted (get?_sortedOfList_of_nodup sorted.nodup)

/-! ## Values that are related key by key -/

/-- Entries with the same keys in the same order and related values. -/
def Alike (related : α → β → Prop) : Entries α → Entries β → Prop :=
  List.Forall₂ fun left right => left.1 = right.1 ∧ related left.2 right.2

theorem Alike.keys
    {related : α → β → Prop}
    {left : Entries α}
    {right : Entries β}
    (alike : Alike related left right) :
    left.keys = right.keys := by
  rw [← List.forall₂_eq_eq_eq, Entries.keys, Entries.keys, List.forall₂_map_left_iff,
    List.forall₂_map_right_iff]
  exact alike.imp fun _ _ both => both.1

theorem Alike.of_keys
    {related : α → β → Prop}
    {left : Entries α}
    {right : Entries β}
    (sameKeys : left.keys = right.keys)
    (values : List.Forall₂ related (left.map Prod.snd) (right.map Prod.snd)) :
    Alike related left right := by
  induction left generalizing right with
  | nil =>
      cases right with
      | nil => exact .nil
      | cons entry rest => cases sameKeys
  | cons entry rest inductionHypothesis =>
      cases right with
      | nil => cases sameKeys
      | cons other others =>
          obtain ⟨sameKey, sameRest⟩ := List.cons.inj sameKeys
          cases values with
          | cons holds held => exact .cons ⟨sameKey, holds⟩ (inductionHypothesis sameRest held)

/-- Where elements with one name have related values, one list of entries is made when the
other is. -/
theorem exists_mapM_alike
    {ε ε' φ ψ : Type}
    {leftName : φ → String}
    {rightName : ψ → String}
    {leftMake : φ → Except ε α}
    {rightMake : ψ → Except ε' β}
    {related : φ → ψ → Prop}
    {next : α → β → Prop}
    {elements : List φ}
    {others : List ψ}
    {rights : Entries β}
    (pairwise : List.Forall₂
      (fun element other => leftName element = rightName other ∧ related element other)
      elements others)
    (made : (others.mapM fun other => (rightMake other).map (Prod.mk (rightName other))) =
      .ok rights)
    (each : ∀ element other, related element other → ∀ right, rightMake other = .ok right →
      ∃ left, leftMake element = .ok left ∧ next left right) :
    ∃ lefts : Entries α,
      (elements.mapM fun element => (leftMake element).map (Prod.mk (leftName element))) =
          .ok lefts ∧
        Alike next lefts rights := by
  refine Results.exists_mapM_of_forall₂ pairwise made ?_
  rintro element other ⟨sameName, holds⟩ _ isEntry
  obtain ⟨right, isRight, rfl⟩ := Results.map_eq_ok.mp isEntry
  obtain ⟨left, isLeft, relates⟩ := each element other holds right isRight
  exact ⟨_, Results.map_eq_ok.mpr ⟨left, isLeft, rfl⟩, sameName, relates⟩

theorem Alike.insertSorted
    {related : α → β → Prop}
    {left : Entries α}
    {right : Entries β}
    (alike : Alike related left right)
    (key : String)
    {leftValue : α}
    {rightValue : β}
    (holds : related leftValue rightValue) :
    Alike related (left.insertSorted key leftValue) (right.insertSorted key rightValue) := by
  induction alike with
  | nil => exact .cons ⟨rfl, holds⟩ .nil
  | @cons first second lefts rights heads tails inductionHypothesis =>
      obtain ⟨name, value⟩ := first
      obtain ⟨_, other⟩ := second
      obtain ⟨rfl, headHolds⟩ := heads
      rw [Entries.insertSorted, Entries.insertSorted]
      split
      next => exact .cons ⟨rfl, holds⟩ tails
      next =>
        split
        next => exact .cons ⟨rfl, holds⟩ (.cons ⟨rfl, headHolds⟩ tails)
        next => exact .cons ⟨rfl, headHolds⟩ inductionHypothesis

/-- Puts that are alike make sorted maps that are alike. -/
theorem Alike.sortedOfList
    {related : α → β → Prop}
    {left : Entries α}
    {right : Entries β}
    (alike : Alike related left right) :
    Alike related (sortedOfList left) (sortedOfList right) := by
  suffices grows : ∀ {earlierLeft earlierRight},
      Alike related earlierLeft earlierRight →
        Alike related
          (left.foldl (fun entries put => entries.insertSorted put.1 put.2) earlierLeft)
          (right.foldl (fun entries put => entries.insertSorted put.1 put.2) earlierRight) from
    grows .nil
  induction alike with
  | nil => exact id
  | @cons first second _ _ heads _ inductionHypothesis =>
      intro earlierLeft earlierRight earlier
      obtain ⟨sameKey, holds⟩ := heads
      rw [List.foldl_cons, List.foldl_cons, ← sameKey]
      exact inductionHypothesis (earlier.insertSorted first.1 holds)

end BlockSchema.Entries
