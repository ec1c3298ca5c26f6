import BlockSchema.Proofs.Document.Written
import BlockSchema.Proofs.Manifest.Loading
import BlockSchema.Proofs.Schema.Form

/-!
Contract: the documents of manifests.

A part is left out only when it is what reading starts from, and a shape stands under the name
of its constructor. So every type reads as itself, at any depth of its shapes, and a manifest
reads as itself because what was read are the types of a manifest.
-/

set_option autoImplicit false

namespace BlockSchema

variable {path : Path}

private theorem ScalarKind.read_label (kind : ScalarKind) :
    ScalarKind.read path (Document.text kind.label).toTree = .ok kind := by
  cases kind <;> rfl

/-- The text of a part that may be left out. -/
theorem Tree.readOptional_text {part : Option String} {value : String} (isPart : value ∈ part) :
    readOptional readText path (Document.text value).toTree = .ok part :=
  readOptional_of_mem isPart (by simp) (readText_text value)

private theorem Tree.readOptional_revision
    {part : Option UInt32}
    {value : UInt32}
    (isPart : value ∈ part) :
    readOptional (readRevision .document) path (revisionDocument value).toTree = .ok part :=
  readOptional_of_mem isPart (by simp [revisionDocument, Document.nat])
    (readRevision_revisionDocument .document value)

private theorem Tree.readList_literals (values : List String) :
    readList readText path (literalsDocument values).toTree = .ok values :=
  readList_list fun value _ _ => readText_text value

namespace ScalarType

variable (type : ScalarType)

/-- The entries of a scalar type, its literals being left out when there are none. -/
def entries : List (String × Document) :=
  [("kind", .text type.kind.label)] ++ optionalEntry "alias" .text type.named ++
    optionalEntry "values" literalsDocument (writtenUnless [] type.values)

private theorem toDocument_eq : type.toDocument = .object type.entries := by
  obtain ⟨kind, named, values⟩ := type
  cases values <;> rfl

private theorem takes_entries : record.Takes type.entries record.start type := by
  have kind :
      record.Takes [("kind", .text type.kind.label)] record.start ⟨type.kind, none, []⟩ :=
    .entry rfl fun _ => Results.bind_eq_ok.mpr ⟨type.kind, type.kind.read_label, rfl⟩
  have named :
      record.Takes (optionalEntry "alias" .text type.named)
        ⟨type.kind, none, []⟩ ⟨type.kind, type.named, []⟩ :=
    .part (ScalarType.mk type.kind · []) rfl (fun _ _ => rfl)
      fun _ isPart _ => Tree.readOptional_text isPart
  have values :
      record.Takes (optionalEntry "values" literalsDocument (writtenUnless [] type.values))
        ⟨type.kind, type.named, []⟩ type := by
    -- Without literals nothing is written, and none are what the part is read as then.
    refine .optional rfl (fun values isPart _ => ?_) fun absent => ?_
    · obtain rfl := eq_of_mem_writtenUnless isPart
      exact Results.bind_eq_ok.mpr ⟨_, Tree.readList_literals _, rfl⟩
    · rw [← writtenUnless_eq_none.mp absent]
  exact (kind.append named).append values

private theorem keys_entries : (Entries.keys type.entries).Sublist ["kind", "alias", "values"] := by
  simp only [entries, Entries.keys, List.map_append]
  exact (List.Sublist.refl ["kind"]).append (keys_optionalEntry "alias" _ _) |>.append
    (keys_optionalEntry "values" _ _)

private theorem read_toDocument : record.read .document path type.toDocument.toTree = .ok type := by
  rw [toDocument_eq]
  exact type.takes_entries.read (type.keys_entries.nodup (by decide))
    (by simp [record, entries, Entries.keys]) _ _

end ScalarType

private theorem Shape.read_toDocument (shape : Shape) :
    Shape.read path shape.toDocument.toTree = .ok shape := by
  induction shape generalizing path with
  | scalar type => exact Results.bind_eq_ok.mpr ⟨type, type.read_toDocument, rfl⟩
  | struct id => rfl
  | pointer inner inductionHypothesis =>
      exact Results.bind_eq_ok.mpr ⟨inner, inductionHypothesis, rfl⟩
  | list element inductionHypothesis =>
      exact Results.bind_eq_ok.mpr ⟨element, inductionHypothesis, rfl⟩
  | map element inductionHypothesis =>
      exact Results.bind_eq_ok.mpr ⟨element, inductionHypothesis, rfl⟩

namespace FieldDef

variable (field : FieldDef)

def entries : List (String × Document) :=
  [("name", .text field.name)] ++ [("shape", field.shape.toDocument)] ++
    optionalEntry "doc" .text field.description ++
    optionalEntry "since" revisionDocument field.since

private theorem takes_entries : record.Takes field.entries record.start field := by
  have name :
      record.Takes [("name", .text field.name)]
        record.start ⟨field.name, .scalar (.plain .string), none, none⟩ :=
    .entry rfl fun _ => rfl
  have shape :
      record.Takes [("shape", field.shape.toDocument)]
        ⟨field.name, .scalar (.plain .string), none, none⟩
        ⟨field.name, field.shape, none, none⟩ :=
    .entry rfl fun _ => Results.bind_eq_ok.mpr ⟨field.shape, field.shape.read_toDocument, rfl⟩
  have description :
      record.Takes (optionalEntry "doc" .text field.description)
        ⟨field.name, field.shape, none, none⟩
        ⟨field.name, field.shape, field.description, none⟩ :=
    .part (FieldDef.mk field.name field.shape · none) rfl (fun _ _ => rfl)
      fun _ isPart _ => Tree.readOptional_text isPart
  have since :
      record.Takes (optionalEntry "since" revisionDocument field.since)
        ⟨field.name, field.shape, field.description, none⟩ field :=
    .part (FieldDef.mk field.name field.shape field.description) rfl (fun _ _ => rfl)
      fun _ isPart _ => Tree.readOptional_revision isPart
  exact ((name.append shape).append description).append since

private theorem keys_entries :
    (Entries.keys field.entries).Sublist ["name", "shape", "doc", "since"] := by
  simp only [entries, Entries.keys, List.map_append]
  exact (List.Sublist.refl ["name", "shape"]).append (keys_optionalEntry "doc" _ _) |>.append
    (keys_optionalEntry "since" _ _)

private theorem read_toDocument : record.read .document path field.toDocument.toTree = .ok field :=
  field.takes_entries.read (field.keys_entries.nodup (by decide))
    (by simp [record, entries, Entries.keys]) _ _

end FieldDef

namespace TypeDef

variable (definition : TypeDef)

def entries : List (String × Document) :=
  [("name", .text definition.name)] ++ [("package", .text definition.package)] ++
    optionalEntry "doc" .text definition.description ++
    [("fields", .list (definition.fields.map FieldDef.toDocument))]

private theorem takes_entries : record.Takes definition.entries record.start definition := by
  have name :
      record.Takes [("name", .text definition.name)]
        record.start ⟨definition.name, "", none, []⟩ :=
    .entry rfl fun _ => rfl
  have package :
      record.Takes [("package", .text definition.package)]
        ⟨definition.name, "", none, []⟩ ⟨definition.name, definition.package, none, []⟩ :=
    .entry rfl fun _ => rfl
  have description :
      record.Takes (optionalEntry "doc" .text definition.description)
        ⟨definition.name, definition.package, none, []⟩
        ⟨definition.name, definition.package, definition.description, []⟩ :=
    .part (TypeDef.mk definition.name definition.package · []) rfl (fun _ _ => rfl)
      fun _ isPart _ => Tree.readOptional_text isPart
  have fields :
      record.Takes [("fields", .list (definition.fields.map FieldDef.toDocument))]
        ⟨definition.name, definition.package, definition.description, []⟩ definition :=
    .entry rfl fun _ => Results.bind_eq_ok.mpr
      ⟨definition.fields, Tree.readList_list fun field _ _ => field.read_toDocument, rfl⟩
  exact ((name.append package).append description).append fields

private theorem keys_entries :
    (Entries.keys definition.entries).Sublist ["name", "package", "doc", "fields"] := by
  simp only [entries, Entries.keys, List.map_append]
  exact (List.Sublist.refl ["name", "package"]).append (keys_optionalEntry "doc" _ _) |>.append
    (List.Sublist.refl ["fields"])

private theorem read_toDocument :
    record.read .document path definition.toDocument.toTree = .ok definition :=
  definition.takes_entries.read (definition.keys_entries.nodup (by decide))
    (by simp [record, entries, Entries.keys]) _ _

end TypeDef

namespace Manifest

/-- The document of a list of types, whether or not they make a manifest. -/
def documentOf (types : List TypeDef) : Document :=
  .object [("types", .list (types.map TypeDef.toDocument))]

private theorem read_documentOf (types : List TypeDef) :
    record.read .document path (documentOf types).toTree = .ok types := by
  have takes :
      record.Takes [("types", .list (types.map TypeDef.toDocument))] record.start types :=
    .entry rfl fun _ => Tree.readList_list fun definition _ _ => definition.read_toDocument
  exact takes.read (by simp [Entries.keys]) (by simp [record, Entries.keys]) _ _

/-- The document of a list of types is read as a manifest when the list is that of one. -/
theorem ofDocument?_documentOf {manifest : Manifest} {types : List TypeDef} :
    ofDocument? (documentOf types) = .ok manifest ↔ manifest.types = types := by
  rw [← ofTypes_eq_ok, ofDocument?, read_documentOf]
  simp only
  split
  next fault isFault => rw [isFault]; simp
  next other isOther => rw [isOther]; simp

/-- The document of a type reads as the type, and the document of a manifest reads as the
manifest. -/
theorem reload :
    (∀ definition : TypeDef, TypeDef.ofDocument? definition.toDocument = .ok definition) ∧
    ∀ manifest : Manifest, ofDocument? manifest.toDocument = .ok manifest :=
  ⟨fun definition => definition.read_toDocument, fun _ => ofDocument?_documentOf.mpr rfl⟩

end Manifest

end BlockSchema
