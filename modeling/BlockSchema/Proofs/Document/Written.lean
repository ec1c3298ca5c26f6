import BlockSchema.Manifest.Format
import BlockSchema.Proofs.Document.Records

/-!
Contract: reading what was written.

A value reads as itself wherever its document stands. The entries of a record are told one
after another: each one changes the record that the entries before it made, and a part that
was left out changes nothing. As long as no key stands twice, what the entries make of the
empty record is what is read.
-/

set_option autoImplicit false

namespace BlockSchema

variable {α β : Type}

/-! ## Values -/

namespace Tree

variable {read : Path → Tree → Decoded α} {encode : α → Document} {path : Path}

theorem readText_text (value : String) : readText path (Document.text value).toTree = .ok value :=
  rfl

theorem readRevision_revisionDocument (dialect : Dialect) (revision : UInt32) :
    readRevision dialect path (revisionDocument revision).toTree = .ok revision := by
  have isNatural : (Number.int revision.toNat).natural? = some revision.toNat := by
    simp [Number.natural?]
  have small : revision.toNat < twoTo 32 := revision.toNat_lt
  simp only [revisionDocument, Document.nat, Document.toTree, readRevision, untagged, Atom.strict,
    isNatural, if_pos small, UInt32.ofNat_toNat]

/-- A part that was written reads as the part that it is, unless it was written as a null. -/
theorem readOptional_of_mem
    {part : Option α}
    {value : α}
    (isPart : value ∈ part)
    (present : encode value ≠ .null)
    (reads : read path (encode value).toTree = .ok value) :
    readOptional read path (encode value).toTree = .ok part := by
  obtain rfl := Option.mem_def.mp isPart
  have isThere :
      readOptional read path (encode value).toTree =
        (read path (encode value).toTree).map some := by
    cases written : encode value with
    | null => exact absurd written present
    | bool | number | text | list | object => rfl
  rw [isThere, reads]
  rfl

private theorem readItems_toTrees
    {values : List α}
    {position : Nat}
    (reads : ∀ value ∈ values, ∀ path, read path (encode value).toTree = .ok value) :
    readItems read path position (Document.toTrees (values.map encode)) = .ok values := by
  induction values generalizing position with
  | nil => rfl
  | cons value rest inductionHypothesis =>
      obtain ⟨ofValue, ofRest⟩ := List.forall_mem_cons.mp reads
      rw [List.map_cons, Document.toTrees, readItems, ofValue, inductionHypothesis ofRest]
      rfl

theorem readList_list
    {values : List α}
    (reads : ∀ value ∈ values, ∀ path, read path (encode value).toTree = .ok value) :
    readList read path (Document.list (values.map encode)).toTree = .ok values :=
  Results.bind_eq_ok.mpr ⟨values, readItems_toTrees reads, rfl⟩

end Tree

/-! ## Entries -/

private theorem Document.toTreeEntries_append (left right : List (String × Document)) :
    toTreeEntries (left ++ right) = toTreeEntries left ++ toTreeEntries right := by
  induction left with
  | nil => rfl
  | cons entry rest inductionHypothesis =>
      rw [List.cons_append, toTreeEntries, inductionHypothesis]
      rfl

namespace Record

variable {record : Record α} {field : RecordField α} {before middle after : α}

private theorem readEntries_append
    (path : Path)
    (seen : List String)
    (left right : List (Key × Tree)) :
    record.readEntries path seen before (left ++ right) =
      record.readEntries path seen before left >>= fun result =>
        record.readEntries path result.1 result.2 right := by
  induction left generalizing seen before with
  | nil => rfl
  | cons entry rest inductionHypothesis =>
      obtain ⟨key, tree⟩ := entry
      cases key with
      | list | object => rfl
      | text name =>
          rw [List.cons_append, readEntries, readEntries]
          split
          next field _ =>
            split
            next => rfl
            next =>
              rw [bind_assoc]
              exact bind_congr fun next => inductionHypothesis _
          next =>
            split
            next => rfl
            next => exact inductionHypothesis _

/-- Entries turn what was read before them into something else, whatever the keys before them
are, as long as no key stands twice. -/
def Takes (record : Record α) (entries : List (String × Document)) (before after : α) : Prop :=
  ∀ path seen, (Entries.keys entries ++ seen).Nodup →
    record.readEntries path seen before (Document.toTreeEntries entries) =
      .ok ((Entries.keys entries).reverse ++ seen, after)

theorem Takes.entry
    {key : String}
    {document : Document}
    (isField : record.field? key = some field)
    (reads : ∀ path, field.read path document.toTree before = .ok after) :
    record.Takes [(key, document)] before after := by
  intro path seen distinct
  have isNew : seen.contains key = false := by
    rw [← Bool.not_eq_true, List.contains_iff_mem]
    exact (List.nodup_cons.mp distinct).1
  rw [Document.toTreeEntries, readEntries, isField]
  simp only [isNew, Bool.false_eq_true, if_false, reads]
  rfl

theorem Takes.append
    {left right : List (String × Document)}
    (first : record.Takes left before middle)
    (second : record.Takes right middle after) :
    record.Takes (left ++ right) before after := by
  intro path seen distinct
  have order : Entries.keys (left ++ right) = Entries.keys left ++ Entries.keys right :=
    List.map_append
  rw [order, List.append_assoc] at distinct
  have distinctFirst : (Entries.keys left ++ seen).Nodup :=
    distinct.sublist ((List.Sublist.refl _).append (List.sublist_append_right _ _))
  -- The keys seen last stand first, so those of the left entries come back reversed.
  have distinctSecond :
      (Entries.keys right ++ ((Entries.keys left).reverse ++ seen)).Nodup := by
    refine (List.Perm.nodup_iff ?_).mp distinct
    rw [← List.append_assoc, ← List.append_assoc]
    exact (List.perm_append_comm.trans
      ((List.Perm.refl _).append (List.reverse_perm _).symm)).append_right seen
  rw [Document.toTreeEntries_append, readEntries_append, first path seen distinctFirst, order,
    List.reverse_append, List.append_assoc]
  exact second path _ distinctSecond

/-- A part may be left out when it changes nothing. -/
theorem Takes.optional
    {key : String}
    {encode : β → Document}
    {part : Option β}
    (isField : record.field? key = some field)
    (reads : ∀ value ∈ part, ∀ path, field.read path (encode value).toTree before = .ok after)
    (absent : part = none → before = after) :
    record.Takes (optionalEntry key encode part) before after := by
  cases part with
  | none => exact absent rfl ▸ fun path seen _ => rfl
  | some value => exact .entry isField (reads value rfl)

/-- A part is put into the record when it was written, and it is not there when it was left
out. -/
theorem Takes.part
    {key : String}
    {read : Path → Tree → Decoded β}
    {encode : β → Document}
    {part : Option β}
    (put : Option β → α)
    (isField : record.field? key = some field)
    (puts : ∀ path tree, field.read path tree (put none) =
      Tree.readOptional read path tree >>= fun part => pure (put part))
    (reads : ∀ value ∈ part, ∀ path,
      Tree.readOptional read path (encode value).toTree = .ok part) :
    record.Takes (optionalEntry key encode part) (put none) (put part) := by
  refine .optional isField (fun value isPart path => ?_) fun absent => by rw [absent]
  rw [puts, reads value isPart]
  rfl

/-- A record is read from entries with distinct keys, when the parts that must be there are. -/
theorem Takes.read
    {entries : List (String × Document)}
    (takes : record.Takes entries record.start after)
    (distinct : (Entries.keys entries).Nodup)
    (complete : ∀ field ∈ record.fields, field.optional = false →
      field.name ∈ Entries.keys entries)
    (dialect : Dialect)
    (path : Path) :
    record.read dialect path (Document.object entries).toTree = .ok after := by
  have nothingMissing : record.missing? (Entries.keys entries).reverse = none := by
    rw [missing?, Option.map_eq_none_iff, List.find?_eq_none]
    intro field member isMissing
    rw [Bool.and_eq_true, Bool.not_eq_true', Bool.not_eq_true'] at isMissing
    have there := complete field member isMissing.1
    simp [there] at isMissing
  have ofEntries := takes path [] (by rwa [List.append_nil])
  rw [List.append_nil] at ofEntries
  exact Results.bind_eq_ok.mpr ⟨_, ofEntries, by simp [nothingMissing]⟩

end Record

end BlockSchema
