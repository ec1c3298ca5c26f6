import BlockSchema.Document.TextFormat
import BlockSchema.Proofs.Document.Json.Cutting
import BlockSchema.Proofs.Document.Json.Prefix
import BlockSchema.Proofs.Document.Records

/-!
Contract: what JSON text a record is read from.

A record is read from a list or an object that is complete. So its text begins with the text
of one, and the bracket that closes it ends what is looked at: whatever follows, the same
record is read.
-/

set_option autoImplicit false

namespace BlockSchema

/-! ## Damaged trees -/

/-- A tree that went wrong at its outermost part. -/
inductive Tree.Damaged : Tree → Prop where
  | broken : Damaged .broken
  | list (items : List Tree) : Damaged (.list items false)
  | object (entries : List (Key × Tree)) : Damaged (.object entries false)

private theorem Json.damaged_damaged (stack : List Frame) : (damaged stack).Damaged := by
  unfold damaged
  induction stack using List.reverseRecOn with
  | nil => exact .broken
  | append_singleton stack frame _ =>
      rw [List.foldl_concat, Option.getD_some]
      cases frame with
      | list items => exact .list _
      | object entries pending => cases pending <;> exact .object _

namespace Record

variable {α : Type} {record : Record α} {dialect : Dialect} {path : Path} {value result : α}

private theorem readRow_ne_ok
    {total position : Nat}
    {fields : List (RecordField α)}
    {items : List Tree} :
    record.readRow dialect path total false position value fields items ≠ .ok result := by
  intro isRead
  induction fields generalizing position value items with
  | nil => cases items <;> simp [readRow] at isRead
  | cons field others inductionHypothesis =>
      cases items with
      | nil => simp [readRow] at isRead
      | cons item rest =>
          rw [readRow] at isRead
          obtain ⟨next, _, ofRest⟩ := Results.bind_eq_ok.mp isRead
          exact inductionHypothesis ofRest

private theorem read_ne_ok_of_damaged {tree : Tree} (isDamaged : tree.Damaged) :
    record.read dialect path tree ≠ .ok value := by
  intro isRead
  cases isDamaged with
  | broken =>
      unfold read at isRead
      exact Tree.refuse_ne_ok _ _ _ _ isRead
  | list items =>
      unfold read at isRead
      dsimp only [Tree.untagged] at isRead
      split at isRead
      next => exact readRow_ne_ok isRead
      next => exact Tree.refuse_ne_ok _ _ _ _ isRead
  | object entries =>
      unfold read at isRead
      obtain ⟨⟨seen, last⟩, _, ofLast⟩ := Results.bind_eq_ok.mp isRead
      cases ofLast

/-- A record is written as a list or as an object. -/
theorem exists_parts_of_read
    {document : Document}
    (isRead : record.read dialect path document.toTree = .ok value) :
    (∃ items, document = .list items) ∨ ∃ entries, document = .object entries := by
  have noScalar : ∀ meaning, record.read dialect path (.atom (.strict meaning)) ≠ .ok value := by
    intro meaning
    unfold read
    dsimp only [Tree.untagged]
    rw [if_neg (by simp [Atom.strict])]
    exact Tree.refuse_ne_ok path record.expected _ value
  cases document with
  | list items => exact .inl ⟨items, rfl⟩
  | object entries => exact .inr ⟨entries, rfl⟩
  | null | bool value | number value | text value => exact absurd isRead (noScalar _)

end Record

/-! ## Text -/

namespace Json

/-- The tokens of a list or an object end with the bracket that closes it. -/
theorem exists_last_of_parts
    {document : Document}
    (hasParts : (∃ items, document = .list items) ∨ ∃ entries, document = .object entries) :
    ∃ before last, documentTokens document = before ++ [last] ∧ last.Closes := by
  rcases hasParts with ⟨items, rfl⟩ | ⟨entries, rfl⟩
  · rcases items.eq_nil_or_concat' with rfl | ⟨front, last, rfl⟩
    · exact ⟨[.openList], .closeList, rfl, .inl rfl⟩
    · exact ⟨_, .closeList, documentTokens_list front last, .inl rfl⟩
  · rcases entries.eq_nil_or_concat' with rfl | ⟨front, ⟨key, last⟩, rfl⟩
    · exact ⟨[.openObject], .closeObject, rfl, .inr rfl⟩
    · exact ⟨_, .closeObject, documentTokens_object front key last, .inr rfl⟩

/-- A text of a list or an object keeps its tokens when it is continued, up to blanks at its
end. -/
theorem tokens_append
    {document : Document}
    (hasParts : (∃ items, document = .list items) ∨ ∃ entries, document = .object entries)
    {front : String}
    (spelled : tokens front = documentTokens document)
    (rest : String) :
    ∃ blanks : List Char, (∀ character ∈ blanks, isBlank character = true) ∧
      tokens (front ++ rest) =
        documentTokens document ++ tokensFrom .between (blanks ++ rest.toList) := by
  obtain ⟨before, last, ends, closes⟩ := exists_last_of_parts hasParts
  have read : tokensFrom .between front.toList = before ++ last :: [] := spelled.trans ends
  obtain ⟨text, blanks, place, nothing, kept⟩ := exists_cut closes read
  refine ⟨blanks, tokensFrom_eq_nil_iff.mp nothing.symm, ?_⟩
  rw [tokens, String.toList_append, place, List.append_assoc, kept, ends]
  simp

end Json

section Text

variable {α : Type} {record : Record α} {dialect : Dialect} {value : α}

/-- JSON text gives a record exactly when it begins with the text of a list or an object that
gives it. -/
theorem Record.decode_json_iff {text : String} :
    (TextFormat.json.source text).decode (record.read dialect []) = .ok value ↔
      ∃ front rest document, text = front ++ rest ∧
        Json.tokens front = Json.documentTokens document ∧ document.depth ≤ Json.depthLimit ∧
        record.read dialect [] document.toTree = .ok value := by
  have decoded : (TextFormat.json.source text).decode (record.read dialect []) =
      record.read dialect [] (Json.read text) := by
    change (record.read dialect [] (Json.read text)).bind _ = _
    cases record.read dialect [] (Json.read text) <;> rfl
  rw [decoded, Json.read, Json.treeOfTokens]
  constructor
  · intro isRead
    split at isRead
    next tree finished =>
      obtain ⟨document, rest, split, fits, rfl⟩ := Json.foldl_eq_done_iff.mp finished
      obtain ⟨before, last, ends, closes⟩ :=
        Json.exists_last_of_parts (exists_parts_of_read isRead)
      rw [Json.tokens, ends, List.append_assoc] at split
      obtain ⟨front, back, place, _, kept⟩ := Json.exists_cut closes split
      refine ⟨String.ofList front, String.ofList back, document, ?_, ?_, fits, isRead⟩
      · rw [← String.ofList_append, ← place, String.ofList_toList]
      · have spelled := kept []
        rw [List.append_nil] at spelled
        rw [Json.tokens, String.toList_ofList, spelled, ends]
        rfl
    next => exact absurd isRead (read_ne_ok_of_damaged (Json.damaged_damaged _))
    next => exact absurd isRead (read_ne_ok_of_damaged (Json.damaged_damaged _))
  · rintro ⟨front, rest, document, rfl, spelled, fits, isRead⟩
    obtain ⟨blanks, _, continued⟩ :=
      Json.tokens_append (exists_parts_of_read isRead) spelled rest
    have finished := Json.foldl_eq_done_iff.mpr ⟨document, _, continued, fits, rfl⟩
    rw [finished]
    exact isRead

end Text

end BlockSchema
