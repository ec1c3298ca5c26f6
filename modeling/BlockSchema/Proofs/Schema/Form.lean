import BlockSchema.Proofs.Document.Json.Reading
import BlockSchema.Proofs.Schema.Nesting
import BlockSchema.Schema.Format

/-!
Contract: the documents of schemas.

The entries of an element stand under distinct keys. A part is left out only when it is what an
absent entry stands for. So the document of a schema tells everything about it, at every depth.
-/

set_option autoImplicit false

namespace BlockSchema

/-! ## Entries that can be left out -/

/-- A value that is written unless it is the one that an absent entry stands for. -/
def writtenUnless {α : Type} [DecidableEq α] (absent value : α) : Option α :=
  if value = absent then none else some value

theorem eq_of_mem_writtenUnless
    {α : Type}
    [DecidableEq α]
    {absent value part : α}
    (isPart : part ∈ writtenUnless absent value) :
    value = part := by
  unfold writtenUnless at isPart
  split at isPart
  case isTrue => cases isPart
  case isFalse => exact Option.some.inj isPart

theorem writtenUnless_eq_none {α : Type} [DecidableEq α] {absent value : α} :
    writtenUnless absent value = none ↔ value = absent := by
  unfold writtenUnless
  split <;> simp_all

private theorem writtenUnless_injective {α : Type} [DecidableEq α] (absent : α) :
    Function.Injective (writtenUnless absent) := by
  intro left right same
  unfold writtenUnless at same
  split at same
  case isTrue isAbsent =>
    split at same
    case isTrue isAbsentToo => rw [isAbsent, isAbsentToo]
    case isFalse => cases same
  case isFalse =>
    split at same
    case isTrue => cases same
    case isFalse => exact Option.some.inj same

private theorem eq_of_map_writtenUnless
    {α : Type}
    [DecidableEq α]
    {encode : α → Document}
    (injective : Function.Injective encode)
    {absent left right : α}
    (same : (writtenUnless absent left).map encode = (writtenUnless absent right).map encode) :
    left = right :=
  writtenUnless_injective absent (Option.map_injective injective same)

private theorem flagEntry_eq (key : String) (isSet : Bool) :
    flagEntry key isSet = optionalEntry key .bool (writtenUnless false isSet) := by
  cases isSet <;> rfl

private theorem revisionEntry_eq (version : UInt32) :
    revisionEntry version =
      optionalEntry "version" revisionDocument (writtenUnless 0 version) := by
  unfold revisionEntry writtenUnless
  split <;> rfl

/-- The document of a list of literals. -/
def literalsDocument (values : List String) : Document :=
  .list (values.map .text)

theorem oneOfEntry_eq (values : List String) :
    oneOfEntry values = optionalEntry "one_of" literalsDocument (writtenUnless [] values) := by
  cases values <;> rfl

section Optional

variable {α : Type} (key : String) (encode : α → Document) (value : Option α)

private theorem get?_optionalEntry (other : String) :
    Entries.get? other (optionalEntry key encode value) =
      if key = other then value.map encode else none := by
  cases value <;> simp [optionalEntry, Entries.get?_cons]

theorem keys_optionalEntry :
    (Entries.keys (optionalEntry key encode value)).Sublist [key] := by
  cases value with
  | none => exact List.nil_sublist [key]
  | some value => exact List.Sublist.refl [key]

theorem regular_optionalEntry (regular : ∀ part ∈ value, (encode part).Regular) :
    ∀ entry ∈ optionalEntry key encode value, entry.2.Regular := by
  intro entry member
  cases value with
  | none => cases member
  | some part =>
      obtain rfl := List.mem_singleton.mp member
      exact regular part rfl

end Optional

/-! ## Parts that their documents tell -/

private theorem ScalarKind.label_injective : Function.Injective ScalarKind.label := by
  intro left right same
  cases left <;> cases right <;> first | rfl | exact absurd same (by decide)

private theorem Optionality.label_injective : Function.Injective Optionality.label := by
  intro left right same
  cases left <;> cases right <;> first | rfl | exact absurd same (by decide)

private theorem Document.bool_injective : Function.Injective Document.bool :=
  fun _ _ => Document.bool.inj

private theorem Document.text_injective : Function.Injective Document.text :=
  fun _ _ => Document.text.inj

private theorem revisionDocument_injective : Function.Injective revisionDocument := by
  intro left right same
  simp only [revisionDocument, Document.nat, Document.number.injEq, Number.int.injEq,
    Nat.cast_inj] at same
  exact UInt32.toNat_inj.mp same

private theorem literalsDocument_injective : Function.Injective literalsDocument := by
  intro left right same
  have texts : Function.Injective (List.map Document.text) :=
    List.map_injective_iff.mpr Document.text_injective
  exact texts (Document.list.inj same)

private theorem Scalar.toDocument_injective : Function.Injective Scalar.toDocument := by
  intro left right same
  cases left <;> cases right <;> simp [toDocument, Int64.toInt_inj] at same ⊢ <;> exact same

/-! ## What an element holds -/

namespace ElementKind

/-- The keys under which an element says what it holds. -/
def keys : List String :=
  ["type", "kind", "one_of", "elem", "max_items", "schema"]

private theorem keys_entries (kind : ElementKind Document) :
    (Entries.keys kind.entries).Sublist keys := by
  cases kind with
  | scalar kind oneOf =>
      have last := keys_optionalEntry "one_of" literalsDocument (writtenUnless [] oneOf)
      rw [entries, oneOfEntry_eq, Entries.keys, List.map_append]
      exact ((List.Sublist.refl ["type", "kind"]).append last).trans (by decide)
  | list | map | block | blockList | blockMap =>
      simp only [entries, Entries.keys, List.map_cons, List.map_nil]
      decide

/-- The word for the kind of an element. -/
def word : ElementKind Document → String
  | .scalar _ _ => "scalar"
  | .list _ => "list"
  | .map _ => "map"
  | .block _ _ => "block"
  | .blockList _ => "block_list"
  | .blockMap _ => "block_map"

private theorem get?_type (kind : ElementKind Document) :
    Entries.get? "type" kind.entries = some (.text kind.word) := by
  cases kind <;> rfl

/-- The entries under these keys tell what an element holds. -/
theorem eq_of_get?
    {left right : ElementKind Document}
    (same : ∀ key ∈ keys, Entries.get? key left.entries = Entries.get? key right.entries) :
    left = right := by
  simp only [keys, List.forall_mem_cons] at same
  obtain ⟨type, kind, oneOf, elem, maxItems, schema, _⟩ := same
  rw [get?_type, get?_type] at type
  have sameWord := Document.text.inj (Option.some.inj type)
  -- The words set different kinds apart, so only pairs of one kind are left.
  cases left <;> cases right <;> simp only [word, String.reduceEq] at sameWord
  case scalar.scalar =>
    have labels := Document.text.inj (Option.some.inj kind)
    simp only [entries, oneOfEntry_eq, Entries.get?_append, get?_optionalEntry, if_true] at oneOf
    rw [ScalarKind.label_injective labels,
      eq_of_map_writtenUnless literalsDocument_injective oneOf]
  case list.list =>
    have labels := Document.text.inj (Option.some.inj elem)
    rw [ScalarKind.label_injective labels]
  case map.map =>
    have labels := Document.text.inj (Option.some.inj elem)
    rw [ScalarKind.label_injective labels]
  case block.block =>
    have limits := Int.ofNat.inj (Number.int.inj (Document.number.inj (Option.some.inj maxItems)))
    rw [limits, Option.some.inj schema]
  case blockList.blockList => rw [Option.some.inj schema]
  case blockMap.blockMap => rw [Option.some.inj schema]

end ElementKind

/-! ## Elements -/

namespace SchemaElement

/-- The entries of an element, over the documents of nested schemas. -/
def entries (element : SchemaElement Document) : List (String × Document) :=
  [("name", .text element.name)] ++ element.kind.entries ++
    [("optionality", .text element.optionality.label)] ++
    optionalEntry "nullable" .bool (writtenUnless false element.nullable) ++
    optionalEntry "sensitive" .bool (writtenUnless false element.sensitive) ++
    optionalEntry "force_new" .bool (writtenUnless false element.forceNew) ++
    optionalEntry "default" Scalar.toDocument element.default ++
    optionalEntry "version" revisionDocument (writtenUnless 0 element.version) ++
    optionalEntry "description" .text element.description

private theorem toDocument_eq (element : SchemaElement Document) :
    element.toDocument = .object element.entries := by
  rw [toDocument, flagEntry_eq, flagEntry_eq, flagEntry_eq, revisionEntry_eq]
  rfl

/-- The keys of the parts other than what an element holds. -/
def otherKeys : List String :=
  ["optionality", "nullable", "sensitive", "force_new", "default", "version", "description"]

/-- The keys of elements, in the order of their entries. -/
def keys : List String :=
  ["name"] ++ ElementKind.keys ++ otherKeys

theorem keys_entries (element : SchemaElement Document) :
    (Entries.keys element.entries).Sublist keys := by
  simp only [entries, Entries.keys, List.map_append]
  exact (List.Sublist.refl ["name"]).append element.kind.keys_entries |>.append
    (List.Sublist.refl ["optionality"]) |>.append
    (keys_optionalEntry "nullable" _ _) |>.append
    (keys_optionalEntry "sensitive" _ _) |>.append
    (keys_optionalEntry "force_new" _ _) |>.append
    (keys_optionalEntry "default" _ _) |>.append
    (keys_optionalEntry "version" _ _) |>.append
    (keys_optionalEntry "description" _ _)

private theorem get?_kind
    (element : SchemaElement Document)
    {key : String}
    (isKey : key ∈ ElementKind.keys) :
    Entries.get? key element.entries = Entries.get? key element.kind.entries := by
  simp only [entries, Entries.get?_append, Entries.get?_cons, Entries.get?_nil,
    get?_optionalEntry]
  revert key
  simp [ElementKind.keys]

private theorem entries_injective : Function.Injective entries := by
  intro left right same
  have kinds : left.kind = right.kind := by
    apply ElementKind.eq_of_get?
    intro key isKey
    rw [← get?_kind left isKey, ← get?_kind right isKey, same]
  have notOfKind : ∀ (kind : ElementKind Document) (key : String), key ∉ ElementKind.keys →
      Entries.get? key kind.entries = none := fun kind key isOther =>
    Entries.get?_eq_none.mpr fun isKey => isOther (kind.keys_entries.subset isKey)
  have parts : ∀ key ∈ "name" :: otherKeys,
      Entries.get? key left.entries = Entries.get? key right.entries :=
    fun key _ => by rw [same]
  simp only [entries, otherKeys, ElementKind.keys, notOfKind, get?_optionalEntry,
    Entries.get?_append, Entries.get?_cons, List.mem_cons, List.not_mem_nil, List.cons_append,
    List.nil_append, List.append_assoc, forall_eq_or_imp, forall_eq, String.reduceEq, if_true,
    if_false, or_false, or_self, not_false_eq_true, Option.or_some, Option.getD_none,
    Option.or_self, Option.or_none, Option.none_or, Option.some.injEq, Document.text.injEq] at parts
  obtain ⟨name, optionality, nullable, sensitive, forceNew, default, version, description⟩ := parts
  cases left
  cases right
  rw [mk.injEq]
  exact ⟨name, kinds, Optionality.label_injective optionality,
    eq_of_map_writtenUnless Document.bool_injective nullable,
    eq_of_map_writtenUnless Document.bool_injective sensitive,
    eq_of_map_writtenUnless Document.bool_injective forceNew,
    Option.map_injective Scalar.toDocument_injective default,
    eq_of_map_writtenUnless revisionDocument_injective version,
    Option.map_injective Document.text_injective description⟩

end SchemaElement

/-! ## Schemas -/

namespace Schema

/-- An element over the documents of nested schemas. -/
def elementForm (element : SchemaElement Schema) : SchemaElement Document :=
  { element with kind := kindDocuments element.kind }

private theorem elementDocuments_eq (elements : List (SchemaElement Schema)) :
    elementDocuments elements =
      elements.map fun element => .object (elementForm element).entries := by
  induction elements with
  | nil => rw [elementDocuments, List.map_nil]
  | cons element rest inductionHypothesis =>
      rw [elementDocuments, inductionHypothesis, List.map_cons, SchemaElement.toDocument_eq]
      rfl

theorem entries_eq (schema : Schema) :
    schema.entries =
      [("type_id", .text schema.typeId.text), ("version", revisionDocument schema.version),
        ("elements", .list (schema.elements.map fun element =>
          .object (elementForm element).entries))] := by
  rw [← elementDocuments_eq]
  cases schema
  rw [entries]

/-- Kinds over the same documents are equal when these documents tell the nested schemas. -/
theorem eq_of_kindDocuments
    {left right : ElementKind Schema}
    (tells : ∀ inner, left.nested? = some inner → ∀ other : Schema,
      inner.entries = other.entries → inner = other)
    (same : kindDocuments left = kindDocuments right) :
    left = right := by
  cases left <;> cases right <;> simp [kindDocuments] at same ⊢
  case scalar.scalar | list.list | map.map => exact same
  case block.block => exact ⟨same.1, tells _ rfl _ same.2⟩
  case blockList.blockList | blockMap.blockMap => exact tells _ rfl _ same

private theorem eq_of_elementForm
    {left right : SchemaElement Schema}
    (tells : ∀ inner, left.kind.nested? = some inner → ∀ other : Schema,
      inner.entries = other.entries → inner = other)
    (same : (elementForm left).entries = (elementForm right).entries) :
    left = right := by
  have forms := SchemaElement.entries_injective same
  cases left
  cases right
  simp only [elementForm, SchemaElement.mk.injEq] at forms ⊢
  exact forms.imp_right fun rest => rest.imp_left (eq_of_kindDocuments tells)

/-- Lists are equal when what is made of the elements is, and tells them. -/
theorem eq_of_map_eq
    {α β : Type}
    {make : α → β}
    {left right : List α}
    (tells : ∀ element ∈ left, ∀ other, make element = make other → element = other)
    (same : left.map make = right.map make) :
    left = right := by
  induction left generalizing right with
  | nil => exact (List.map_eq_nil_iff.mp same.symm).symm
  | cons element rest inductionHypothesis =>
      obtain ⟨other, others, rfl, sameElement, sameRest⟩ := List.map_eq_cons_iff.mp same.symm
      rw [tells element List.mem_cons_self other sameElement.symm,
        inductionHypothesis (fun later member => tells later (List.mem_cons_of_mem _ member))
          sameRest.symm]

/-- The entries of a schema tell the schema. -/
theorem entries_injective : Function.Injective entries := by
  intro left right same
  induction left using Schema.induction generalizing right with
  | step left inductionHypothesis =>
      rw [entries_eq, entries_eq] at same
      simp only [List.cons.injEq, Prod.mk.injEq, true_and, and_true, Document.text.injEq,
        Document.list.injEq] at same
      obtain ⟨typeIds, versions, elements⟩ := same
      have tells : ∀ element ∈ left.elements, ∀ other : SchemaElement Schema,
          Document.object (elementForm element).entries =
            Document.object (elementForm other).entries →
          element = other := by
        intro element member other sameForm
        refine eq_of_elementForm (fun inner isNested other => ?_) (Document.object.inj sameForm)
        have nests := mem_nested.mpr ⟨element, member, isNested⟩
        exact fun sameEntries => inductionHypothesis inner nests sameEntries
      have sameElements := eq_of_map_eq tells elements
      cases left
      cases right
      rw [mk.injEq]
      exact ⟨congrArg TypeId.mk typeIds, revisionDocument_injective versions, sameElements⟩

theorem toDocument_inj {leftGroup rightGroup : String} {left right : Schema} :
    left.toDocument leftGroup = right.toDocument rightGroup ↔
      leftGroup = rightGroup ∧ left = right := by
  simp only [toDocument, Document.object.injEq, List.cons_append, List.nil_append,
    List.cons.injEq, Prod.mk.injEq, Document.text.injEq, true_and, entries_injective.eq_iff]

end Schema

end BlockSchema
