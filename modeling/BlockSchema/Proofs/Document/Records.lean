import BlockSchema.Document.Decode
import BlockSchema.Proofs.Entries

/-!
Contract: what reading a record guarantees, whatever its fields are.

A record is read field by field, from an object in the order of the text or from a row in
the order of declaration. What holds of the record with nothing read, and stays when a field
is read, holds of every record that is read. A map that is read has no key twice.
-/

set_option autoImplicit false

namespace BlockSchema

variable {α : Type}

theorem Tree.refuse_ne_ok (path : Path) (expected : String) (tree : Tree) (value : α) :
    tree.refuse path expected ≠ .ok value := by
  intro impossible
  unfold refuse at impossible
  split at impossible <;> cases impossible

/-! ## What every field keeps -/

namespace Record

variable
  {record : Record α}
  {holds : α → Prop}
  {dialect : Dialect}
  {path : Path}
  {value result : α}

/-- Reading any field keeps a property of what was read before. -/
def Keeps (record : Record α) (holds : α → Prop) : Prop :=
  ∀ field ∈ record.fields, ∀ path tree value next,
    holds value → field.read path tree value = .ok next → holds next

private theorem Keeps.readEntries
    (keeps : record.Keeps holds)
    {seen later : List String}
    {entries : List (Key × Tree)}
    (start : holds value)
    (isRead : record.readEntries path seen value entries = .ok (later, result)) :
    holds result := by
  induction entries generalizing seen value with
  | nil =>
      obtain ⟨-, rfl⟩ := Prod.mk.inj (Except.ok.inj isRead)
      exact start
  | cons entry rest inductionHypothesis =>
      obtain ⟨key, tree⟩ := entry
      cases key with
      | list => cases isRead
      | object => cases isRead
      | text name =>
          rw [Record.readEntries] at isRead
          split at isRead
          next field isField =>
            split at isRead
            next => cases isRead
            next =>
              obtain ⟨next, ofField, ofRest⟩ := Results.bind_eq_ok.mp isRead
              have member : field ∈ record.fields := List.mem_of_find?_eq_some isField
              exact inductionHypothesis (keeps field member _ tree value next start ofField) ofRest
          next =>
            split at isRead
            next => cases isRead
            next => exact inductionHypothesis start isRead

private theorem Keeps.readRow
    (keeps : record.Keeps holds)
    {total position : Nat}
    {whole : Bool}
    {fields : List (RecordField α)}
    (among : ∀ field ∈ fields, field ∈ record.fields)
    {items : List Tree}
    (start : holds value)
    (isRead : record.readRow dialect path total whole position value fields items = .ok result) :
    holds result := by
  induction fields generalizing position value items with
  | nil =>
      cases items with
      | nil =>
          rw [Record.readRow] at isRead
          split at isRead
          next =>
            obtain rfl := Except.ok.inj isRead
            exact start
          next => cases isRead
      | cons item rest =>
          rw [Record.readRow] at isRead
          split at isRead <;> cases isRead
  | cons field others inductionHypothesis =>
      obtain ⟨member, amongOthers⟩ := List.forall_mem_cons.mp among
      cases items with
      | nil =>
          rw [Record.readRow] at isRead
          split at isRead
          next => cases isRead
          next =>
            split at isRead
            next => exact inductionHypothesis amongOthers start isRead
            next => cases isRead
      | cons item rest =>
          rw [Record.readRow] at isRead
          obtain ⟨next, ofField, ofRest⟩ := Results.bind_eq_ok.mp isRead
          exact inductionHypothesis amongOthers
            (keeps field member _ item value next start ofField) ofRest

/-- What holds of the record with nothing read and is kept by every field holds of every
record that is read. -/
theorem Keeps.read
    (keeps : record.Keeps holds)
    (start : holds record.start)
    {tree : Tree}
    (isRead : record.read dialect path tree = .ok value) :
    holds value := by
  unfold Record.read at isRead
  split at isRead
  next =>
    obtain ⟨⟨seen, last⟩, ofEntries, ofLast⟩ := Results.bind_eq_ok.mp isRead
    have held : holds last := keeps.readEntries start ofEntries
    simp only at ofLast
    split at ofLast
    next => cases ofLast
    next =>
      split at ofLast
      next => cases ofLast
      next => exact Except.ok.inj ofLast ▸ held
  next =>
    split at isRead
    next => exact keeps.readRow (fun _ member => member) start isRead
    next => exact absurd isRead (Tree.refuse_ne_ok _ _ _ _)
  next =>
    split at isRead
    next =>
      split at isRead
      next => cases isRead
      next => exact Except.ok.inj isRead ▸ start
    next => exact absurd isRead (Tree.refuse_ne_ok _ _ _ _)
  next => exact absurd isRead (Tree.refuse_ne_ok _ _ _ _)

end Record

/-! ## Maps -/

namespace Tree

variable
  {read : Path → Tree → Decoded α}
  {path : Path}
  {found result : Entries α}

private theorem nodup_keys_of_readMapEntries
    (distinct : found.keys.Nodup)
    {entries : List (Key × Tree)}
    (isRead : readMapEntries read path found entries = .ok result) :
    result.keys.Nodup := by
  induction entries generalizing found with
  | nil =>
      obtain rfl := Except.ok.inj isRead
      exact distinct
  | cons entry rest inductionHypothesis =>
      obtain ⟨key, tree⟩ := entry
      cases key with
      | list => cases isRead
      | object => cases isRead
      | text name =>
          rw [readMapEntries] at isRead
          obtain ⟨value, _, ofRest⟩ := Results.bind_eq_ok.mp isRead
          exact inductionHypothesis (Entries.nodup_keys_insert distinct name value) ofRest

/-- No key of a map that is read stands in it twice, however often it was written. -/
theorem nodup_keys_of_readMap
    {tree : Tree}
    (isRead : readMap read path tree = .ok result) :
    result.keys.Nodup := by
  have nothing : (Entries.keys ([] : Entries α)).Nodup := List.nodup_nil
  unfold readMap at isRead
  split at isRead
  next =>
    obtain ⟨values, ofEntries, ofValues⟩ := Results.bind_eq_ok.mp isRead
    split at ofValues
    next => exact Except.ok.inj ofValues ▸ nodup_keys_of_readMapEntries nothing ofEntries
    next => cases ofValues
  next =>
    split at isRead
    next => exact Except.ok.inj isRead ▸ nothing
    next => exact absurd isRead (refuse_ne_ok _ _ _ _)
  next => exact absurd isRead (refuse_ne_ok _ _ _ _)

end Tree

end BlockSchema
