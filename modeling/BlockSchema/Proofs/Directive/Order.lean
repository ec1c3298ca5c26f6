import BlockSchema.Proofs.Directive.Resolution
import Mathlib.Data.Prod.Lex

/-!
Contract: what the error of resolving owes to the order of directives.

Most errors owe it nothing: the least unknown name, the labels of a type without a schema and
the first conflict in the order of declared fields are the same for the same facts. Only
putting facts stops at the first dispute that it meets, so of several disputes any one may be
reported. `resolve_error_of_perm` says that this is all, and exactly when it shows.
-/

set_option autoImplicit false

namespace BlockSchema

namespace DirectiveTable

/-! ## The least pair -/

private theorem pairBefore_iff (first second : String × String) :
    pairBefore first second = true ↔ toLex first < toLex second := by
  simp [pairBefore, Prod.Lex.toLex_lt_toLex]

private theorem leastPair_cons (pair : String × String) (rest : List (String × String)) :
    leastPair (pair :: rest) =
      match leastPair rest with
      | none => some pair
      | some least => if pairBefore least pair then some least else some pair :=
  rfl

/-- The least pair is listed, and no listed pair comes before it. -/
theorem leastPair_eq_some {pairs : List (String × String)} {least : String × String}
    (found : leastPair pairs = some least) :
    least ∈ pairs ∧ ∀ pair ∈ pairs, toLex least ≤ toLex pair := by
  induction pairs generalizing least with
  | nil => cases found
  | cons pair rest inductionHypothesis =>
      rw [leastPair_cons] at found
      cases ofRest : leastPair rest with
      | none =>
          have isEmpty := leastPair_eq_none.mp ofRest
          simp only [ofRest, Option.some.injEq] at found
          simp [← found, isEmpty]
      | some other =>
          obtain ⟨otherMember, otherLeast⟩ := inductionHypothesis ofRest
          by_cases before : pairBefore other pair = true
          · simp only [ofRest, before, if_true, Option.some.injEq] at found
            subst found
            have less := (pairBefore_iff other pair).mp before
            refine ⟨List.mem_cons_of_mem pair otherMember, fun any member => ?_⟩
            rcases List.mem_cons.mp member with rfl | later
            · exact le_of_lt less
            · exact otherLeast any later
          · simp only [ofRest, before, Bool.false_eq_true, if_false, Option.some.injEq] at found
            subst found
            have atMost : toLex pair ≤ toLex other :=
              not_lt.mp fun less => before ((pairBefore_iff other pair).mpr less)
            refine ⟨List.mem_cons_self, fun any member => ?_⟩
            rcases List.mem_cons.mp member with rfl | later
            · exact le_refl _
            · exact le_trans atMost (otherLeast any later)

private theorem leastPair_congr {left right : List (String × String)}
    (same : ∀ pair, pair ∈ left ↔ pair ∈ right) :
    leastPair left = leastPair right := by
  cases leftLeast : leastPair left with
  | none =>
      have isEmpty := leastPair_eq_none.mp leftLeast
      have rightEmpty : right = [] := by
        rw [List.eq_nil_iff_forall_not_mem]
        intro pair member
        simpa [isEmpty] using (same pair).mpr member
      exact (leastPair_eq_none.mpr rightEmpty).symm
  | some least =>
      obtain ⟨leastMember, isLeast⟩ := leastPair_eq_some leftLeast
      cases rightLeast : leastPair right with
      | none =>
          have isEmpty := leastPair_eq_none.mp rightLeast
          simpa [isEmpty] using (same least).mp leastMember
      | some other =>
          obtain ⟨otherMember, isOtherLeast⟩ := leastPair_eq_some rightLeast
          have below := isLeast other ((same other).mpr otherMember)
          have above := isOtherLeast least ((same least).mp leastMember)
          exact congrArg some (toLex.injective (le_antisymm below above))

/-! ## Labels without repeats -/

private theorem mem_insertLabel {label other : String} {labels : List String} :
    other ∈ insertLabel label labels ↔ other = label ∨ other ∈ labels := by
  induction labels with
  | nil => simp [insertLabel]
  | cons first rest inductionHypothesis =>
      simp only [insertLabel]
      by_cases same : label = first
      · simp [same]
      · by_cases before : label < first
        · simp [same, before]
        · simp only [same, before, if_false, List.mem_cons, inductionHypothesis]
          exact or_left_comm

private theorem insertLabel_sorted (label : String) {labels : List String}
    (sorted : labels.Pairwise (· < ·)) :
    (insertLabel label labels).Pairwise (· < ·) := by
  induction labels with
  | nil => exact List.pairwise_singleton _ _
  | cons first rest inductionHypothesis =>
      obtain ⟨least, sortedRest⟩ := List.pairwise_cons.mp sorted
      simp only [insertLabel]
      by_cases same : label = first
      · simpa [same] using sorted
      · by_cases before : label < first
        · simp only [same, before, if_true, if_false]
          refine List.pairwise_cons.mpr ⟨fun other member => ?_, sorted⟩
          rcases List.mem_cons.mp member with rfl | later
          · exact before
          · exact lt_trans before (least other later)
        · simp only [same, before, if_false]
          have after : first < label := lt_of_le_of_ne (not_lt.mp before) (Ne.symm same)
          refine List.pairwise_cons.mpr ⟨fun other member => ?_, inductionHypothesis sortedRest⟩
          rcases mem_insertLabel.mp member with rfl | later
          · exact after
          · exact least other later

private theorem effectLabels_sorted (table : DirectiveTable) :
    table.effectLabels.Pairwise (· < ·) := by
  unfold effectLabels
  induction table.effects.flatMap fun entry => entry.2.labels with
  | nil => exact .nil
  | cons label rest inductionHypothesis => exact insertLabel_sorted label inductionHypothesis

private theorem Collects.mem_effectLabels {table : DirectiveTable} {facts : List Fact}
    (collects : table.Collects facts)
    {label : String} :
    label ∈ table.effectLabels ↔
      ∃ name effect, .field name effect ∈ facts ∧ effect.label = label := by
  have unsorted : ∀ labels : List String,
      label ∈ labels.foldr insertLabel [] ↔ label ∈ labels := by
    intro labels
    induction labels with
    | nil => simp
    | cons first rest inductionHypothesis =>
        rw [List.foldr_cons, mem_insertLabel, inductionHypothesis, List.mem_cons]
  rw [effectLabels, unsorted, List.mem_flatMap]
  constructor
  · rintro ⟨⟨name, effects⟩, member, labelled⟩
    obtain ⟨effect, holds, isLabel⟩ := FieldEffects.mem_labels.mp labelled
    have found : table.field? name = some effects :=
      Entries.get?_of_mem collects.distinct member
    exact ⟨name, effect, (collects.holds_of_field? found effect).mp holds, isLabel⟩
  · rintro ⟨name, effect, member, isLabel⟩
    cases found : table.field? name with
    | none => exact absurd member ((collects.field?_eq_none name).mp found effect)
    | some effects =>
        have holds := (collects.holds_of_field? found effect).mpr member
        exact ⟨(name, effects), Entries.mem_of_get? found,
          FieldEffects.mem_labels.mpr ⟨effect, holds, isLabel⟩⟩

/-- What is wrong with a finished table depends on the set of its facts alone. -/
theorem Collects.fault?_congr {left right : DirectiveTable} {facts others : List Fact}
    (collectsLeft : left.Collects facts)
    (collectsRight : right.Collects others)
    (same : ∀ fact, fact ∈ facts ↔ fact ∈ others)
    (definition : TypeDef) :
    left.fault? definition = right.fault? definition := by
  have alike := collectsLeft.alike collectsRight same
  have sameEmpty : left.effects.isEmpty = right.effects.isEmpty := by
    rw [Bool.eq_iff_iff, collectsLeft.effects_isEmpty, collectsRight.effects_isEmpty]
    simp only [same]
  have sameLabels : left.effectLabels = right.effectLabels := by
    have members : ∀ label, label ∈ left.effectLabels ↔ label ∈ right.effectLabels := by
      intro label
      rw [collectsLeft.mem_effectLabels, collectsRight.mem_effectLabels]
      simp only [same]
    have sortedLeft := left.effectLabels_sorted
    have sortedRight := right.effectLabels_sorted
    have permuted : left.effectLabels.Perm right.effectLabels :=
      (List.perm_ext_iff_of_nodup (sortedLeft.imp ne_of_lt) (sortedRight.imp ne_of_lt)).mpr members
    exact permuted.eq_of_pairwise
      (fun _ _ _ _ smaller greater => absurd smaller (not_lt_of_gt greater))
      sortedLeft sortedRight
  have sameConflict : left.firstConflict? definition = right.firstConflict? definition := by
    simp only [firstConflict?, alike.field?]
  rw [fault?, fault?, alike.noSchema, sameEmpty, sameLabels, sameConflict]

/-! ## Errors of directives that say the same -/

section Errors

variable {definition : TypeDef} {directives : List Directive} {issue : ConfigurationIssue}

private theorem unknownNames_congr (definition : TypeDef) {left right : List Directive}
    (same : SameFacts left right) :
    leastPair (unknownNames definition left) = leastPair (unknownNames definition right) := by
  refine leastPair_congr fun pair => ?_
  rw [mem_unknownNames, mem_unknownNames]
  simp only [same _]

/-- When some facts dispute each other, a dispute is what is reported. -/
theorem disputed_of_resolve
    (known : unknownNames definition directives = [])
    {any : ConfigurationIssue}
    (disputed : Disputed (Fact.ofDirectives directives) any)
    (fails : resolve definition directives = .error issue) :
    Disputed (Fact.ofDirectives directives) issue := by
  rw [resolve_of_known known] at fails
  cases outcome : empty.putAll (Fact.ofDirectives directives) with
  | ok table => exact absurd disputed ((collects_of_putAll outcome).undisputed any)
  | error found =>
      rw [outcome] at fails
      obtain rfl := Except.error.inj fails
      exact disputed_of_putAll outcome

/-- When no facts dispute each other, the fault of their table is what is reported. -/
theorem fault?_of_resolve
    (known : unknownNames definition directives = [])
    {table : DirectiveTable}
    (collected : empty.putAll (Fact.ofDirectives directives) = .ok table)
    (fails : resolve definition directives = .error issue) :
    table.fault? definition = some issue := by
  rw [resolve_of_known known, collected] at fails
  exact Results.refuseFor_eq_error.mp fails

/-- Two errors of directives that say the same are one error, unless all names are known and
both are disputes of the facts. -/
theorem resolve_error_of_sameFacts {left right : List Directive}
    (same : SameFacts left right)
    {other : ConfigurationIssue}
    (leftFails : resolve definition left = .error issue)
    (rightFails : resolve definition right = .error other) :
    issue = other ∨
      (unknownNames definition left = [] ∧ Disputed (Fact.ofDirectives left) issue ∧
        Disputed (Fact.ofDirectives left) other) := by
  have sameLeast := unknownNames_congr definition same
  cases least : leastPair (unknownNames definition left) with
  | some pair =>
      rw [resolve_of_unknown least] at leftFails
      rw [resolve_of_unknown (sameLeast.symm.trans least), leftFails] at rightFails
      exact .inl (Except.error.inj rightFails)
  | none =>
      have leftKnown := leastPair_eq_none.mp least
      have rightKnown := leastPair_eq_none.mp (sameLeast.symm.trans least)
      by_cases disputed : ∃ any, Disputed (Fact.ofDirectives left) any
      · obtain ⟨any, isDisputed⟩ := disputed
        have leftDisputed := disputed_of_resolve leftKnown isDisputed leftFails
        have rightDisputed := disputed_of_resolve rightKnown (isDisputed.congr same) rightFails
        exact .inr ⟨leftKnown, leftDisputed, rightDisputed.congr fun fact => (same fact).symm⟩
      · have undisputed := not_exists.mp disputed
        obtain ⟨leftTable, leftPut⟩ := exists_putAll_iff.mpr undisputed
        obtain ⟨rightTable, rightPut⟩ := exists_putAll_iff.mpr fun any found =>
          undisputed any (found.congr fun fact => (same fact).symm)
        have leftFault := fault?_of_resolve leftKnown leftPut leftFails
        have rightFault := fault?_of_resolve rightKnown rightPut rightFails
        have sameFault := (collects_of_putAll leftPut).fault?_congr
          (collects_of_putAll rightPut) same definition
        rw [sameFault, rightFault] at leftFault
        exact .inl (Option.some.inj leftFault).symm

/-- Directives that give no slot two values have one error, however they are said. -/
theorem resolve_error_of_singleValued {left right : List Directive}
    (single : SingleValued (Fact.ofDirectives left))
    (same : SameFacts left right)
    (fails : resolve definition left = .error issue) :
    resolve definition right = .error issue := by
  have agree := agree_of_sameFacts definition same
  rw [fails] at agree
  cases otherOutcome : resolve definition right with
  | ok table =>
      rw [otherOutcome] at agree
      exact agree.elim
  | error other =>
      rcases resolve_error_of_sameFacts same fails otherOutcome with rfl | ⟨_, disputed, _⟩
      · rfl
      · exact absurd disputed (singleValued_iff.mp single issue)

private theorem fault?_ne_conflictingValues
    (table : DirectiveTable)
    (definition : TypeDef)
    (directive first second : String) :
    table.fault? definition ≠ some (.conflictingValues directive first second) := by
  intro found
  unfold fault? at found
  split at found
  next => cases Option.some.inj found
  next =>
    obtain ⟨field, _, ofField⟩ := List.exists_of_findSome?_eq_some found
    obtain ⟨pair, _, impossible⟩ := Option.map_eq_some_iff.mp ofField
    cases impossible

/-- Directives that give no slot two values are not refused for conflicting values. -/
theorem resolve_ne_conflictingValues
    (single : SingleValued (Fact.ofDirectives directives))
    (directive first second : String) :
    resolve definition directives ≠ .error (.conflictingValues directive first second) := by
  intro fails
  cases least : leastPair (unknownNames definition directives) with
  | some pair =>
      rw [resolve_of_unknown least] at fails
      cases fails
  | none =>
      have known := leastPair_eq_none.mp least
      obtain ⟨table, collected⟩ := exists_putAll_iff.mpr (singleValued_iff.mp single)
      exact fault?_ne_conflictingValues table definition directive first second
        (fault?_of_resolve known collected fails)

end Errors

end DirectiveTable

/-! ## Disputes brought to the front -/

/-- A fact without the name of the field that it is about. -/
def Fact.unplaced : Fact → Fact
  | .field _ effect => .field "" effect
  | other => other

/-- An issue with two facts does not name the field. -/
theorem Fact.dispute?_unplaced {first second : Fact} {issue : ConfigurationIssue}
    (disputed : first.dispute? second = some issue) :
    first.unplaced.dispute? second.unplaced = some issue := by
  cases first <;> cases second <;> try exact disputed
  case field.field name effect other otherEffect =>
    by_cases same : name = other
    · rw [dispute?, if_pos same] at disputed
      exact disputed
    · rw [dispute?, if_neg same] at disputed
      cases disputed

/-- The facts of one directive differ in their fields alone. -/
theorem Directive.unplaced_eq {directive : Directive} {first second : Fact}
    (firstMember : first ∈ directive.facts)
    (secondMember : second ∈ directive.facts) :
    first.unplaced = second.unplaced := by
  cases directive <;> simp only [facts, List.mem_map, List.mem_singleton] at *
  case mark kind names =>
    obtain ⟨_, _, rfl⟩ := firstMember
    obtain ⟨_, _, rfl⟩ := secondMember
    rfl
  case fieldVersion revision names =>
    obtain ⟨_, _, rfl⟩ := firstMember
    obtain ⟨_, _, rfl⟩ := secondMember
    rfl
  all_goals rw [firstMember, secondMember]

private theorem Directive.undisputed {directive : Directive} {first second : Fact}
    (firstMember : first ∈ directive.facts)
    (secondMember : second ∈ directive.facts) :
    first.dispute? second = none := by
  cases disputed : first.dispute? second with
  | none => rfl
  | some issue =>
      have unplaced := Fact.dispute?_unplaced disputed
      rw [Directive.unplaced_eq firstMember secondMember, Fact.dispute?_self] at unplaced
      cases unplaced

/-- Two directives dispute each other with one issue, whichever of their facts are taken. -/
theorem Directive.dispute_unique {left right : Directive} {first second : Fact}
    {issue other : ConfigurationIssue}
    (firstMember : first ∈ left.facts)
    (secondMember : second ∈ right.facts)
    (disputed : first.dispute? second = some issue)
    (otherDisputed : Disputed (left.facts ++ right.facts) other) :
    other = issue := by
  have unplaced := Fact.dispute?_unplaced disputed
  have across : ∀ {fact fact' : Fact}, fact ∈ left.facts → fact' ∈ right.facts →
      fact.dispute? fact' = some other → other = issue := by
    intro fact fact' member member' found
    have unplacedFound := Fact.dispute?_unplaced found
    rw [Directive.unplaced_eq member firstMember, Directive.unplaced_eq member' secondMember,
      unplaced] at unplacedFound
    exact (Option.some.inj unplacedFound).symm
  obtain ⟨fact, member, fact', member', found⟩ := otherDisputed
  rcases List.mem_append.mp member with inLeft | inRight
  · rcases List.mem_append.mp member' with inLeft' | inRight'
    · rw [Directive.undisputed inLeft inLeft'] at found
      cases found
    · exact across inLeft inRight' found
  · rcases List.mem_append.mp member' with inLeft' | inRight'
    · exact across inLeft' inRight (Fact.dispute?_comm fact fact' ▸ found)
    · rw [Directive.undisputed inRight inRight'] at found
      cases found

namespace DirectiveTable

section Order

variable {definition : TypeDef} {directives : List Directive} {issue : ConfigurationIssue}

/-- Two directives in front that dispute each other are what is reported. -/
theorem resolve_of_disputed_front {left right : Directive} {rest : List Directive}
    (known : unknownNames definition (left :: right :: rest) = [])
    {first second : Fact}
    (firstMember : first ∈ left.facts)
    (secondMember : second ∈ right.facts)
    (disputed : first.dispute? second = some issue) :
    resolve definition (left :: right :: rest) = .error issue := by
  have inFront : Disputed (left.facts ++ right.facts) issue :=
    ⟨first, List.mem_append_left _ firstMember, second, List.mem_append_right _ secondMember,
      disputed⟩
  have split : Fact.ofDirectives (left :: right :: rest) =
      (left.facts ++ right.facts) ++ Fact.ofDirectives rest := by
    simp [Fact.ofDirectives]
  rw [resolve_of_known known, split, putAll_append]
  cases outcome : empty.putAll (left.facts ++ right.facts) with
  | ok table => exact absurd inFront ((collects_of_putAll outcome).undisputed issue)
  | error found =>
      have isIssue := Directive.dispute_unique firstMember secondMember disputed
        (disputed_of_putAll outcome)
      rw [isIssue]
      rfl

/-- Every dispute among the facts is reported in some order of the directives. -/
theorem exists_perm_resolve
    (known : unknownNames definition directives = [])
    (disputed : Disputed (Fact.ofDirectives directives) issue) :
    ∃ others, directives.Perm others ∧ resolve definition others = .error issue := by
  obtain ⟨first, firstSaid, second, secondSaid, isDispute⟩ := disputed
  obtain ⟨left, leftMember, firstMember⟩ := List.mem_flatMap.mp firstSaid
  obtain ⟨right, rightMember, secondMember⟩ := List.mem_flatMap.mp secondSaid
  have apart : right ≠ left := by
    rintro rfl
    rw [Directive.undisputed firstMember secondMember] at isDispute
    cases isDispute
  have rightLater : right ∈ directives.erase left := (List.mem_erase_of_ne apart).mpr rightMember
  have reordered : directives.Perm (left :: right :: (directives.erase left).erase right) :=
    (List.perm_cons_erase leftMember).trans ((List.perm_cons_erase rightLater).cons left)
  refine ⟨_, reordered, resolve_of_disputed_front ?_ firstMember secondMember isDispute⟩
  have sameLeast := unknownNames_congr definition (SameFacts.of_perm reordered)
  exact leastPair_eq_none.mp (sameLeast.symm.trans (leastPair_eq_none.mpr known))

/-- When the error is the same for all orders, all disputes of the facts read the same. -/
theorem disputes_agree
    (known : unknownNames definition directives = [])
    (unordered : ∀ others, directives.Perm others → ∀ issue other,
      resolve definition directives = .error issue → resolve definition others = .error other →
      issue = other)
    {other : ConfigurationIssue}
    (disputed : Disputed (Fact.ofDirectives directives) issue)
    (otherDisputed : Disputed (Fact.ofDirectives directives) other) :
    issue = other := by
  obtain ⟨someOrder, permutation, reported⟩ := exists_perm_resolve known disputed
  obtain ⟨otherOrder, otherPermutation, otherReported⟩ := exists_perm_resolve known otherDisputed
  cases outcome : resolve definition directives with
  | ok table => exact absurd disputed ((resolve_collects outcome).undisputed issue)
  | error found =>
      have isIssue := unordered someOrder permutation found issue outcome reported
      have isOther := unordered otherOrder otherPermutation found other outcome otherReported
      exact isIssue.symm.trans isOther

/-- Two orders of the same directives fail with one error, or with two disputes of their
facts. The error depends on the order exactly when all names are known and the facts have
disputes with different issues. -/
theorem resolve_error_of_perm (definition : TypeDef) (directives : List Directive) :
    (∀ others, directives.Perm others → ∀ issue other,
      resolve definition directives = .error issue → resolve definition others = .error other →
      issue = other ∨
        (Disputed (Fact.ofDirectives directives) issue ∧
          Disputed (Fact.ofDirectives directives) other)) ∧
    ((∀ others, directives.Perm others → ∀ issue other,
      resolve definition directives = .error issue → resolve definition others = .error other →
      issue = other) ↔
        (∃ name effect, .field name effect ∈ Fact.ofDirectives directives ∧
          name ∉ definition.fieldNames) ∨
        ∀ issue other, Disputed (Fact.ofDirectives directives) issue →
          Disputed (Fact.ofDirectives directives) other → issue = other) := by
  refine ⟨?_, ?_, ?_⟩
  · intro others permutation issue other fails otherFails
    have either := resolve_error_of_sameFacts (.of_perm permutation) fails otherFails
    exact either.imp id And.right
  · intro unordered
    by_cases known : unknownNames definition directives = []
    · exact .inr fun issue other => disputes_agree known unordered
    · left
      simpa [unknownNames_eq_nil] using known
  · intro cause others permutation issue other fails otherFails
    rcases resolve_error_of_sameFacts (.of_perm permutation) fails otherFails with
      same | ⟨known, disputed, otherDisputed⟩
    · exact same
    · rcases cause with ⟨name, effect, said, unknown⟩ | oneIssue
      · exact absurd (unknownNames_eq_nil.mp known name effect said) unknown
      · exact oneIssue issue other disputed otherDisputed

end Order

end DirectiveTable

namespace Clusters

/-- Three revisions of one type, each at odds with the others. -/
def revisions : List Directive :=
  [.version 3, .version 2, .version 1]

end Clusters

/-- Three revisions, read from either end, are reported as two different disputes. -/
theorem DirectiveTable.resolve_error_of_perm_revisions :
    resolve Clusters.cluster Clusters.revisions =
        .error (.conflictingValues "version" "2" "3") ∧
      resolve Clusters.cluster Clusters.revisions.reverse =
        .error (.conflictingValues "version" "1" "2") ∧
      Disputed (Fact.ofDirectives Clusters.revisions) (.conflictingValues "version" "2" "3") ∧
      Disputed (Fact.ofDirectives Clusters.revisions)
        (.conflictingValues "version" "1" "2") := by
  have fails : resolve Clusters.cluster Clusters.revisions =
      .error (.conflictingValues "version" "2" "3") := by decide +kernel
  have otherFails : resolve Clusters.cluster Clusters.revisions.reverse =
      .error (.conflictingValues "version" "1" "2") := by decide +kernel
  have reversed : Clusters.revisions.Perm Clusters.revisions.reverse :=
    (List.reverse_perm Clusters.revisions).symm
  have either := (resolve_error_of_perm Clusters.cluster Clusters.revisions).1
    Clusters.revisions.reverse reversed _ _ fails otherFails
  have differ : ConfigurationIssue.conflictingValues "version" "2" "3" ≠
      .conflictingValues "version" "1" "2" := by decide
  exact ⟨fails, otherFails, either.resolve_left differ⟩

/-- So the error is not the same for all orders of the directives. -/
theorem DirectiveTable.resolve_error_ordered :
    ¬ ∀ (definition : TypeDef) (left right : List Directive), left.Perm right →
      ∀ issue other, resolve definition left = .error issue →
        resolve definition right = .error other → issue = other := by
  intro unordered
  have same := unordered Clusters.cluster Clusters.revisions Clusters.revisions.reverse
    (List.reverse_perm Clusters.revisions).symm
    (.conflictingValues "version" "2" "3") (.conflictingValues "version" "1" "2")
    (by decide +kernel) (by decide +kernel)
  exact absurd same (by decide)

end BlockSchema
