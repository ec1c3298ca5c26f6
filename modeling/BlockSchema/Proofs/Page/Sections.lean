import BlockSchema.Page.Basic
import BlockSchema.Proofs.Schema.Nesting

/-!
Contract: the sections of a doc page.

The nested sections are collected from the schemas inside the root's schema, so every section
of a page shows a schema that stands inside the root's.
-/

set_option autoImplicit false

namespace BlockSchema

namespace DocSection

variable {root : TypeId}

theorem collect_eq (schema : Schema) (found : List DocSection) :
    collect root schema found =
      if schema.typeId = root || covers found schema.typeId then found
      else collectElements root schema.elements (found ++ [ofSchema schema]) := by
  cases schema with
  | mk => rw [collect]

/-- The sections of elements are those of the schemas that they embed, one after the
other. -/
theorem collectElements_eq_foldl
    (elements : List (SchemaElement Schema))
    (found : List DocSection) :
    collectElements root elements found =
      (elements.filterMap fun element => element.kind.nested?).foldl
        (fun found inner => collect root inner found) found := by
  induction elements generalizing found with
  | nil => rfl
  | cons element rest inductionHypothesis =>
      obtain ⟨name, kind, optionality, nullable, sensitive, forceNew, default, version,
        description⟩ := element
      rw [collectElements, inductionHypothesis]
      cases kind <;> rfl

/-- What is collected for some schemas was there before or shows a schema inside one of
them, when that is so of each schema by itself. -/
theorem mem_foldl_collect
    {inners : List Schema}
    (collected : ∀ inner ∈ inners, ∀ {found : List DocSection} {docSection : DocSection},
      docSection ∈ collect root inner found →
        docSection ∈ found ∨ ∃ below, below.Within inner ∧ ofSchema below = docSection)
    {found : List DocSection}
    {docSection : DocSection}
    (member : docSection ∈ inners.foldl (fun found inner => collect root inner found) found) :
    docSection ∈ found ∨
      ∃ inner ∈ inners, ∃ below, below.Within inner ∧ ofSchema below = docSection := by
  induction inners generalizing found with
  | nil => exact .inl member
  | cons inner rest inductionHypothesis =>
      have ofRest := inductionHypothesis
        (fun other isOther => collected other (List.mem_cons_of_mem inner isOther)) member
      rcases ofRest with ofInner | ⟨other, isOther, shown⟩
      · rcases collected inner List.mem_cons_self ofInner with isFound | shown
        · exact .inl isFound
        · exact .inr ⟨inner, List.mem_cons_self, shown⟩
      · exact .inr ⟨other, List.mem_cons_of_mem inner isOther, shown⟩

/-- What is collected for a schema was there before or shows a schema inside it. -/
theorem mem_collect
    (schema : Schema)
    {found : List DocSection}
    {docSection : DocSection}
    (member : docSection ∈ collect root schema found) :
    docSection ∈ found ∨ ∃ inner, inner.Within schema ∧ ofSchema inner = docSection := by
  induction schema using Schema.induction generalizing found docSection with
  | step schema inductionHypothesis =>
      rw [collect_eq] at member
      split at member
      next => exact .inl member
      next =>
        rw [collectElements_eq_foldl] at member
        rcases mem_foldl_collect inductionHypothesis member with
          isFound | ⟨inner, isNested, below, within, shown⟩
        · rcases List.mem_append.mp isFound with earlier | isOwn
          · exact .inl earlier
          · exact .inr ⟨schema, .refl, (List.mem_singleton.mp isOwn).symm⟩
        · exact .inr ⟨below, within.tail isNested, shown⟩

end DocSection

namespace DocPage

/-- The sections of a page, that of its root first. -/
def sections (page : DocPage) : List DocSection :=
  page.root :: page.nested

/-- Every section of a schema's page shows a schema inside that schema. -/
theorem exists_of_mem_sections
    {schema : Schema}
    {wrapper : DocWrapper}
    {docSection : DocSection}
    (member : docSection ∈ (DocPage.ofSchema schema wrapper).sections) :
    ∃ inner, inner.Within schema ∧ DocSection.ofSchema inner = docSection := by
  rcases List.mem_cons.mp member with isRoot | isNested
  · exact ⟨schema, .refl, isRoot.symm⟩
  · rw [DocPage.ofSchema, DocSection.collectElements_eq_foldl] at isNested
    have collected : ∀ inner ∈ schema.nested, ∀ {found : List DocSection}
        {docSection : DocSection},
        docSection ∈ DocSection.collect schema.typeId inner found →
          docSection ∈ found ∨
            ∃ below, below.Within inner ∧ DocSection.ofSchema below = docSection :=
      fun inner _ => DocSection.mem_collect inner
    rcases DocSection.mem_foldl_collect collected isNested with
      impossible | ⟨inner, nests, below, within, shown⟩
    · cases impossible
    · exact ⟨below, within.tail nests, shown⟩

end DocPage

end BlockSchema
