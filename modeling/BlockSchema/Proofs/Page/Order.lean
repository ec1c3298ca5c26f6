import BlockSchema.Proofs.Page.Sections
import Mathlib.Data.List.Induction

/-!
Contract: the order of the nested sections of a doc page.

A page goes down from its root's schema. Whatever it has met before it leaves out, with
everything below that. Nothing is missed by this: what was met before, and is not being gone
through, has all that stands below it on the page by then. So a page has the first occurrences
of a traversal that leaves out nothing.
-/

set_option autoImplicit false

namespace BlockSchema

/-! ## Everything inside a schema -/

namespace Schema

mutual

/-- A schema and, in the order of its elements, the traversals of the schemas that it embeds.
A type has as many places in it as it has inside the schema. -/
def traversal : Schema → List Schema
  | ⟨typeId, version, elements⟩ => ⟨typeId, version, elements⟩ :: traversalOfElements elements

/-- The traversals of the schemas that elements embed. -/
def traversalOfElements : List (SchemaElement Schema) → List Schema
  | [] => []
  | ⟨_, kind, _, _, _, _, _, _, _⟩ :: rest => traversalOfKind kind ++ traversalOfElements rest

/-- The traversal of the schema that an element embeds. -/
def traversalOfKind : ElementKind Schema → List Schema
  | .scalar _ _ | .list _ | .map _ => []
  | .block _ schema | .blockList schema | .blockMap schema => schema.traversal

end

/-- The traversals of the schemas that a schema embeds, one after the other. -/
def descendants (schema : Schema) : List Schema :=
  schema.nested.flatMap traversal

private theorem traversal_eq (schema : Schema) :
    schema.traversal = schema :: schema.descendants := by
  have ofElements : ∀ elements, traversalOfElements elements =
      (elements.filterMap fun element : SchemaElement Schema =>
        element.kind.nested?).flatMap traversal := by
    intro elements
    induction elements with
    | nil => rfl
    | cons element rest inductionHypothesis =>
        obtain ⟨name, kind, optionality, nullable, sensitive, forceNew, default, version,
          description⟩ := element
        rw [traversalOfElements, inductionHypothesis]
        cases kind <;> rfl
  cases schema with
  | mk typeId version elements =>
      rw [traversal, ofElements]
      rfl

private theorem self_mem_traversal (schema : Schema) : schema ∈ schema.traversal := by
  rw [traversal_eq]
  exact List.mem_cons_self

/-- A traversal has what stands inside the schema. -/
theorem mem_traversal {schema inner : Schema} :
    inner ∈ schema.traversal ↔ inner.Within schema := by
  induction schema using Schema.induction with
  | step schema inductionHypothesis =>
      rw [traversal_eq, List.mem_cons, descendants, List.mem_flatMap, Within,
        Relation.ReflTransGen.cases_tail_iff]
      refine or_congr eq_comm (exists_congr fun nested => ?_)
      rw [and_comm]
      exact and_congr_left fun isNested => inductionHypothesis nested isNested

theorem mem_descendants {schema inner : Schema} :
    inner ∈ schema.descendants ↔ ∃ nested ∈ schema.nested, inner.Within nested := by
  simp only [descendants, List.mem_flatMap, mem_traversal]

private theorem mem_descendants_of_nested
    {schema outer inner : Schema}
    (within : outer.Within schema)
    (isNested : inner ∈ outer.nested) :
    inner ∈ schema.descendants := by
  rw [mem_descendants]
  rcases Relation.ReflTransGen.cases_tail within with rfl | ⟨nested, inside, nests⟩
  · exact ⟨inner, isNested, .refl⟩
  · exact ⟨nested, nests, inside.head isNested⟩

private theorem traversal_subset {schema inner : Schema} (within : inner.Within schema) :
    inner.traversal ⊆ schema.traversal := by
  intro deeper isDeeper
  rw [mem_traversal] at isDeeper ⊢
  exact isDeeper.trans within

/-- Inside a schema no type has two schemas, and none stands inside its own. -/
structure Consistent (schema : Schema) : Prop where
  eq_of_typeId_eq : ∀ left right : Schema, left.Within schema → right.Within schema →
    left.typeId = right.typeId → left = right
  typeId_ne : ∀ outer : Schema, outer.Within schema → ∀ inner ∈ outer.descendants,
    inner.typeId ≠ outer.typeId

private theorem Consistent.nested
    {schema inner : Schema}
    (consistent : schema.Consistent)
    (isNested : inner ∈ schema.nested) :
    inner.Consistent where
  eq_of_typeId_eq left right isLeft isRight :=
    consistent.eq_of_typeId_eq left right (isLeft.tail isNested) (isRight.tail isNested)
  typeId_ne outer within := consistent.typeId_ne outer (within.tail isNested)

private theorem Consistent.descendants_eq
    {schema : Schema}
    (consistent : schema.Consistent) :
    ∀ left ∈ schema.descendants, ∀ right ∈ schema.descendants,
      left.typeId = right.typeId → left = right := by
  intro left isLeft right isRight
  obtain ⟨ofLeft, nestsLeft, withinLeft⟩ := mem_descendants.mp isLeft
  obtain ⟨ofRight, nestsRight, withinRight⟩ := mem_descendants.mp isRight
  exact consistent.eq_of_typeId_eq left right (withinLeft.tail nestsLeft)
    (withinRight.tail nestsRight)

private theorem traversal_subset_descendants
    {schema inner : Schema}
    (isNested : inner ∈ schema.nested) :
    inner.traversal ⊆ schema.descendants := by
  intro deeper isDeeper
  exact List.mem_flatMap.mpr ⟨inner, isNested, isDeeper⟩

end Schema

/-! ## What is left out -/

namespace DocSection

variable {root : TypeId} {found : List DocSection}

/-- Whether a page leaves out a type by now: it is the root's, or has a section. -/
def leavesOut (root : TypeId) (found : List DocSection) (id : TypeId) : Bool :=
  id = root || covers found id

/-- Adds the section of a schema, without what the schema embeds, unless it is left out. -/
def note (root : TypeId) (found : List DocSection) (schema : Schema) : List DocSection :=
  if leavesOut root found schema.typeId then found else found ++ [ofSchema schema]

private theorem leavesOut_append (schema : Schema) (id : TypeId) :
    leavesOut root (found ++ [ofSchema schema]) id = true ↔
      leavesOut root found id = true ∨ schema.typeId = id := by
  simp [leavesOut, covers, ofSchema, or_assoc]

private theorem leavesOut_note (schema : Schema) (id : TypeId) :
    leavesOut root (note root found schema) id = true ↔
      leavesOut root found id = true ∨ schema.typeId = id := by
  unfold note
  by_cases known : leavesOut root found schema.typeId
  · rw [if_pos known]
    refine ⟨.inl, ?_⟩
    rintro (earlier | rfl)
    · exact earlier
    · exact known
  · rw [if_neg known]
    exact leavesOut_append schema id

private theorem leavesOut_foldl_note (schemas : List Schema) (id : TypeId) :
    leavesOut root (schemas.foldl (note root) found) id = true ↔
      leavesOut root found id = true ∨ ∃ schema ∈ schemas, schema.typeId = id := by
  induction schemas generalizing found with
  | nil => simp
  | cons schema rest inductionHypothesis =>
      rw [List.foldl_cons, inductionHypothesis, leavesOut_note, List.exists_mem_cons_iff, or_assoc]

private theorem foldl_note_of_leavesOut
    {schemas : List Schema}
    (known : ∀ schema ∈ schemas, leavesOut root found schema.typeId = true) :
    schemas.foldl (note root) found = found := by
  induction schemas with
  | nil => rfl
  | cons schema rest inductionHypothesis =>
      obtain ⟨ofSchema, ofRest⟩ := List.forall_mem_cons.mp known
      rw [List.foldl_cons, note, if_pos ofSchema]
      exact inductionHypothesis ofRest

/-- Of some schemas, those that are left out can be left out with all that they embed. -/
def Settled (root : TypeId) (found : List DocSection) (schemas : List Schema) : Prop :=
  ∀ outer ∈ schemas, leavesOut root found outer.typeId = true →
    ∀ inner ∈ outer.traversal, leavesOut root found inner.typeId = true

/-- Noting a whole traversal leaves nothing half noted. -/
theorem Settled.foldl_note
    {schemas : List Schema}
    (settled : Settled root found schemas)
    (distinct : ∀ left ∈ schemas, ∀ right ∈ schemas, left.typeId = right.typeId → left = right)
    {schema : Schema}
    (among : schema.traversal ⊆ schemas) :
    Settled root (schema.traversal.foldl (note root) found) schemas := by
  intro outer isOuter known inner isInner
  rw [leavesOut_foldl_note] at known ⊢
  rcases known with earlier | ⟨noted, isNoted, named⟩
  · exact .inl (settled outer isOuter earlier inner isInner)
  · obtain rfl := distinct noted (among isNoted) outer isOuter named
    exact .inr ⟨inner, Schema.traversal_subset (Schema.mem_traversal.mp isNoted) isInner, rfl⟩

/-- Where each of some schemas is collected by its traversal, so are all of them. -/
theorem foldl_collect_eq
    {inners schemas : List Schema}
    (settled : Settled root found schemas)
    (distinct : ∀ left ∈ schemas, ∀ right ∈ schemas, left.typeId = right.typeId → left = right)
    (among : ∀ inner ∈ inners, inner.traversal ⊆ schemas)
    (collected : ∀ inner ∈ inners, ∀ found, Settled root found inner.traversal →
      collect root inner found = inner.traversal.foldl (note root) found) :
    inners.foldl (fun found inner => collect root inner found) found =
      (inners.flatMap Schema.traversal).foldl (note root) found := by
  induction inners generalizing found with
  | nil => rfl
  | cons inner rest inductionHypothesis =>
      obtain ⟨amongInner, amongRest⟩ := List.forall_mem_cons.mp among
      obtain ⟨ofInner, ofRest⟩ := List.forall_mem_cons.mp collected
      rw [List.foldl_cons, ofInner found fun outer isOuter => settled outer (amongInner isOuter),
        List.flatMap_cons, List.foldl_append]
      exact inductionHypothesis (settled.foldl_note distinct amongInner) amongRest ofRest

/-- The descendants of a schema that has no section yet are settled once it has one: none of
them is of its type. -/
theorem Settled.descendants
    {schema : Schema}
    (consistent : schema.Consistent)
    (settled : Settled root found schema.traversal) :
    Settled root (found ++ [ofSchema schema]) schema.descendants := by
  intro outer isOuter known inner isInner
  have isInside : outer ∈ schema.traversal := by
    rw [Schema.traversal_eq]
    exact List.mem_cons_of_mem schema isOuter
  rw [leavesOut_append] at known ⊢
  rcases known with earlier | same
  · exact .inl (settled outer isInside earlier inner isInner)
  · exact absurd same.symm (consistent.typeId_ne schema .refl outer isOuter)


/-- Collecting the sections of a schema notes its traversal. -/
theorem collect_eq_foldl_note
    {schema : Schema}
    (consistent : schema.Consistent)
    (settled : Settled root found schema.traversal) :
    collect root schema found = schema.traversal.foldl (note root) found := by
  induction schema using Schema.induction generalizing found with
  | step schema inductionHypothesis =>
      by_cases known : leavesOut root found schema.typeId
      · have allKnown := settled schema schema.self_mem_traversal known
        rw [foldl_note_of_leavesOut allKnown, collect_eq]
        exact if_pos known
      · rw [collect_eq, Schema.traversal_eq, List.foldl_cons, note, if_neg known]
        refine (if_neg known).trans ?_
        rw [collectElements_eq_foldl]
        apply foldl_collect_eq (settled.descendants consistent) consistent.descendants_eq
        · exact fun inner isNested => Schema.traversal_subset_descendants isNested
        · exact fun inner isNested found settledInner =>
            inductionHypothesis inner isNested (consistent.nested isNested) settledInner

/-! ## The types of noted sections -/

private theorem leavesOut_iff {id : TypeId} :
    leavesOut root found id = true ↔ id = root ∨ id ∈ found.map typeId := by
  simp [leavesOut, covers]

/-- Noting schemas of other types than the root's notes the first of each type. -/
theorem typeIds_foldl_note
    {schemas : List Schema}
    (noRoot : ∀ schema ∈ schemas, schema.typeId ≠ root) :
    (schemas.foldl (note root) []).map typeId = (schemas.map Schema.typeId).eraseDups := by
  induction schemas using List.reverseRecOn with
  | nil => rfl
  | append_singleton schemas schema inductionHypothesis =>
      have noted := inductionHypothesis fun other isOther =>
        noRoot other (List.mem_append_left _ isOther)
      have apart := noRoot schema (List.mem_append_right _ (List.mem_singleton_self schema))
      rw [List.foldl_concat, List.map_append, List.eraseDups_append, ← noted, note,
        List.map_singleton, List.removeAll, List.filter_singleton]
      by_cases known : schema.typeId ∈ schemas.map Schema.typeId
      · have leftOut : leavesOut root (schemas.foldl (note root) []) schema.typeId = true := by
          rw [leavesOut_foldl_note]
          exact .inr (List.mem_map.mp known)
        rw [if_pos leftOut]
        simp only [List.elem_eq_contains, List.contains_iff_mem.mpr known]
        simp
      · have isNew : ¬ leavesOut root (schemas.foldl (note root) []) schema.typeId = true := by
          rw [leavesOut_iff, noted, List.mem_eraseDups]
          exact not_or.mpr ⟨apart, known⟩
        rw [if_neg isNew]
        simp only [List.elem_eq_contains, Bool.eq_false_iff.mpr (mt List.contains_iff_mem.mp known)]
        simp [ofSchema, List.eraseDups_cons]

/-- Noting gives no type a second section. -/
theorem nodup_foldl_note
    {schemas : List Schema}
    (distinct : (found.map typeId).Nodup) :
    ((schemas.foldl (note root) found).map typeId).Nodup := by
  induction schemas generalizing found with
  | nil => exact distinct
  | cons schema rest inductionHypothesis =>
      apply inductionHypothesis
      unfold note
      by_cases known : leavesOut root found schema.typeId
      · rw [if_pos known]
        exact distinct
      · obtain ⟨_, isNew⟩ := not_or.mp (mt leavesOut_iff.mpr known)
        rw [if_neg known, List.map_append]
        refine List.nodup_append.mpr ⟨distinct, List.nodup_singleton _, ?_⟩
        rintro id isFound other isLast rfl
        obtain rfl : id = schema.typeId := List.mem_singleton.mp isLast
        exact isNew isFound

end DocSection

/-! ## Pages -/

namespace DocPage

variable {schema : Schema}

/-- The nested sections of a page are noted in the order of its root's descendants. -/
theorem nested_ofSchema (consistent : schema.Consistent) (wrapper : DocWrapper) :
    (DocPage.ofSchema schema wrapper).nested =
      schema.descendants.foldl (DocSection.note schema.typeId) [] := by
  show DocSection.collectElements schema.typeId schema.elements [] = _
  have settled : DocSection.Settled schema.typeId [] schema.descendants := by
    intro outer isOuter known
    rw [DocSection.leavesOut_iff] at known
    rcases known with same | impossible
    · exact absurd same (consistent.typeId_ne schema .refl outer isOuter)
    · cases impossible
  rw [DocSection.collectElements_eq_foldl]
  apply DocSection.foldl_collect_eq settled consistent.descendants_eq
  · exact fun inner isNested => Schema.traversal_subset_descendants isNested
  · exact fun inner isNested found settledInner =>
      DocSection.collect_eq_foldl_note (consistent.nested isNested) settledInner

theorem typeIds_ofSchema (consistent : schema.Consistent) (wrapper : DocWrapper) :
    (DocPage.ofSchema schema wrapper).nested.map DocSection.typeId =
      (schema.descendants.map Schema.typeId).eraseDups := by
  rw [nested_ofSchema consistent]
  exact DocSection.typeIds_foldl_note (consistent.typeId_ne schema .refl)

theorem nodup_ofSchema (consistent : schema.Consistent) (wrapper : DocWrapper) :
    ((DocPage.ofSchema schema wrapper).nested.map DocSection.typeId).Nodup := by
  rw [nested_ofSchema consistent]
  exact DocSection.nodup_foldl_note List.nodup_nil

/-- The types with a nested section are those inside the root's schema, without its own. -/
theorem mem_typeIds_ofSchema
    (consistent : schema.Consistent)
    (wrapper : DocWrapper)
    (id : TypeId) :
    id ∈ (DocPage.ofSchema schema wrapper).nested.map DocSection.typeId ↔
      id ≠ schema.typeId ∧ ∃ inner : Schema, inner.Within schema ∧ inner.typeId = id := by
  rw [typeIds_ofSchema consistent, List.mem_eraseDups, List.mem_map]
  constructor
  · rintro ⟨inner, isInner, rfl⟩
    refine ⟨consistent.typeId_ne schema .refl inner isInner, inner, ?_, rfl⟩
    rw [← Schema.mem_traversal, Schema.traversal_eq]
    exact List.mem_cons_of_mem schema isInner
  · rintro ⟨apart, inner, within, rfl⟩
    rw [← Schema.mem_traversal, Schema.traversal_eq] at within
    rcases List.mem_cons.mp within with rfl | isInner
    · exact absurd rfl apart
    · exact ⟨inner, isInner, rfl⟩

/-- Every type that a record of a page names has a nested section. -/
theorem exists_section_of_record
    (consistent : schema.Consistent)
    {wrapper : DocWrapper}
    {docSection : DocSection}
    (isSection : docSection ∈ (DocPage.ofSchema schema wrapper).sections)
    {record : DocRecord}
    (isRecord : record ∈ docSection.records)
    {id : TypeId}
    (names : record.nested = some id) :
    ∃ shown ∈ (DocPage.ofSchema schema wrapper).nested, shown.typeId = id := by
  obtain ⟨outer, within, rfl⟩ := exists_of_mem_sections isSection
  obtain ⟨element, isElement, rfl⟩ := List.mem_map.mp isRecord
  obtain ⟨inner, embeds, rfl⟩ := Option.map_eq_some_iff.mp names
  have isNested : inner ∈ outer.nested := Schema.mem_nested.mpr ⟨element, isElement, embeds⟩
  apply List.mem_map.mp
  rw [mem_typeIds_ofSchema consistent]
  have isBelow := Schema.mem_descendants_of_nested within isNested
  exact ⟨consistent.typeId_ne schema .refl inner isBelow, inner, within.head isNested, rfl⟩

end DocPage

end BlockSchema
