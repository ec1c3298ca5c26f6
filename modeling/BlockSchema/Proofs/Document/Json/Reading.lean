import BlockSchema.Document.Decode
import BlockSchema.Document.Json.Reader
import BlockSchema.Proofs.Document.Json.Tokens
import BlockSchema.Proofs.Entries

/-!
Contract: written JSON text is read back.

The tokens that spell a document build its tree, when as many collections may be open at once as
the document nests. The tree of a regular document decodes to the document. So the reader undoes
the writer, and documents with equal texts are equal.
-/

set_option autoImplicit false

namespace BlockSchema

/-! ## Nesting -/

mutual

/-- How many collections are open at once at the deepest place of a document. -/
def Document.depth : Document → Nat
  | .list items => Document.itemDepth items + 1
  | .object entries => Document.entryDepth entries + 1
  | _ => 0

def Document.itemDepth : List Document → Nat
  | [] => 0
  | item :: rest => max item.depth (Document.itemDepth rest)

def Document.entryDepth : List (String × Document) → Nat
  | [] => 0
  | (_, value) :: rest => max value.depth (Document.entryDepth rest)

end

namespace Json

/-! ## From tokens to the tree -/

/-- Where a value may begin. -/
def Due.BeginsValue (due : Due) : Prop :=
  due = .value ∨ due = .item ∨ due = .firstItem

/-- The tokens of a document are read as its tree, wherever a value may begin. -/
def IsRead (limit : Nat) (document : Document) : Prop :=
  ∀ (stack : List Frame) (due : Due), due.BeginsValue → stack.length + document.depth ≤ limit →
    (documentTokens document).foldl (advance limit) (.open stack due) =
      deliver document.toTree stack

theorem advance_begin
    {limit : Nat}
    {stack : List Frame}
    {due : Due}
    (begins : due.BeginsValue)
    {token : Token}
    (opens : token ≠ .closeList) :
    advance limit (.open stack due) token = beginValue limit stack token := by
  rcases begins with rfl | rfl | rfl
  · rfl
  · rfl
  · cases token <;> first | rfl | exact absurd rfl opens

section Collections

variable {limit : Nat} {stack : List Frame}

/-- An item and what stands after it, once the opening bracket or a comma is read. -/
theorem IsRead.beforeItems
    {item : Document}
    (isRead : IsRead limit item)
    {due : Due}
    (begins : due.BeginsValue)
    {rest : List Document}
    (fits : stack.length + 1 + Document.itemDepth (item :: rest) ≤ limit)
    (before : List Tree)
    (others : ∀ before : List Tree,
      (itemTokens rest).foldl (advance limit) (.open (.list before :: stack) .separator) =
        deliver (.list (before.reverse ++ Document.toTrees rest) true) stack) :
    (documentTokens item ++ itemTokens rest).foldl (advance limit)
        (.open (.list before :: stack) due) =
      deliver (.list (before.reverse ++ Document.toTrees (item :: rest)) true) stack := by
  rw [Document.itemDepth] at fits
  have first := isRead (.list before :: stack) due begins (by rw [List.length_cons]; omega)
  rw [List.foldl_append, first]
  change (itemTokens rest).foldl _ (Progress.open (.list (item.toTree :: before) :: stack) _) = _
  rw [others, List.reverse_cons, List.append_assoc]
  rfl

private theorem read_itemTokens
    {items : List Document}
    (each : ∀ item ∈ items, IsRead limit item)
    (fits : stack.length + 1 + Document.itemDepth items ≤ limit)
    (before : List Tree) :
    (itemTokens items).foldl (advance limit) (.open (.list before :: stack) .separator) =
      deliver (.list (before.reverse ++ Document.toTrees items) true) stack := by
  induction items generalizing before with
  | nil =>
      rw [Document.toTrees, List.append_nil]
      rfl
  | cons item rest inductionHypothesis =>
      have fitsLater : stack.length + 1 + Document.itemDepth rest ≤ limit := by
        rw [Document.itemDepth] at fits
        omega
      exact (each item List.mem_cons_self).beforeItems (.inr (.inl rfl)) fits before <|
        inductionHypothesis (fun other member => each other (List.mem_cons_of_mem item member))
          fitsLater

private theorem IsRead.list
    {items : List Document}
    (each : ∀ item ∈ items, IsRead limit item) :
    IsRead limit (.list items) := by
  intro stack due begins fits
  rw [Document.depth] at fits
  have opens : advance limit (.open stack due) .openList =
      .open (.list [] :: stack) .firstItem := by
    rw [advance_begin begins (by decide), beginValue, openFrame, if_pos (by omega)]
  cases items with
  | nil =>
      rw [documentTokens, List.foldl_cons, opens]
      rfl
  | cons item rest =>
      have fitsAll : stack.length + 1 + Document.itemDepth (item :: rest) ≤ limit := by omega
      have fitsLater : stack.length + 1 + Document.itemDepth rest ≤ limit := by
        rw [Document.itemDepth] at fitsAll
        omega
      rw [documentTokens, List.cons_append, List.foldl_cons, opens]
      exact (each item List.mem_cons_self).beforeItems (.inr (.inr rfl)) fitsAll [] <|
        read_itemTokens (fun other member => each other (List.mem_cons_of_mem item member))
          fitsLater

/-- An entry and what stands after it, once the opening brace or a comma is read. -/
theorem IsRead.beforeEntries
    {key : String}
    {value : Document}
    (isRead : IsRead limit value)
    {due : Due}
    (begins : due = .firstKey ∨ due = .key)
    {rest : List (String × Document)}
    (fits : stack.length + 1 + Document.entryDepth ((key, value) :: rest) ≤ limit)
    (before : List (Key × Tree))
    (others : ∀ before : List (Key × Tree),
      (entryTokens rest).foldl (advance limit) (.open (.object before none :: stack) .separator) =
        deliver (.object (before.reverse ++ Document.toTreeEntries rest) true) stack) :
    (.text key :: .colon :: documentTokens value ++ entryTokens rest).foldl (advance limit)
        (.open (.object before none :: stack) due) =
      deliver (.object (before.reverse ++ Document.toTreeEntries ((key, value) :: rest)) true)
        stack := by
  rw [Document.entryDepth] at fits
  have first := isRead (.object before (some (.text key)) :: stack) .value (.inl rfl)
    (by rw [List.length_cons]; omega)
  have waits : [Token.text key, .colon].foldl (advance limit)
      (.open (.object before none :: stack) due) =
        .open (.object before (some (.text key)) :: stack) .value := by
    rcases begins with rfl | rfl <;> rfl
  change ([Token.text key, .colon] ++ documentTokens value ++ entryTokens rest).foldl _ _ = _
  rw [List.foldl_append, List.foldl_append, waits, first]
  change (entryTokens rest).foldl _
    (Progress.open (.object ((.text key, value.toTree) :: before) none :: stack) _) = _
  rw [others, List.reverse_cons, List.append_assoc]
  rfl

private theorem read_entryTokens
    {entries : List (String × Document)}
    (each : ∀ entry ∈ entries, IsRead limit entry.2)
    (fits : stack.length + 1 + Document.entryDepth entries ≤ limit)
    (before : List (Key × Tree)) :
    (entryTokens entries).foldl (advance limit) (.open (.object before none :: stack) .separator) =
      deliver (.object (before.reverse ++ Document.toTreeEntries entries) true) stack := by
  induction entries generalizing before with
  | nil =>
      rw [Document.toTreeEntries, List.append_nil]
      rfl
  | cons entry rest inductionHypothesis =>
      have fitsLater : stack.length + 1 + Document.entryDepth rest ≤ limit := by
        rw [Document.entryDepth] at fits
        omega
      exact (each entry List.mem_cons_self).beforeEntries (.inr rfl) fits before <|
        inductionHypothesis (fun other member => each other (List.mem_cons_of_mem entry member))
          fitsLater

private theorem IsRead.object
    {entries : List (String × Document)}
    (each : ∀ entry ∈ entries, IsRead limit entry.2) :
    IsRead limit (.object entries) := by
  intro stack due begins fits
  rw [Document.depth] at fits
  have opens : advance limit (.open stack due) .openObject =
      .open (.object [] none :: stack) .firstKey := by
    rw [advance_begin begins (by decide), beginValue, openFrame, if_pos (by omega)]
  cases entries with
  | nil =>
      rw [documentTokens, List.foldl_cons, opens]
      rfl
  | cons entry rest =>
      have fitsAll : stack.length + 1 + Document.entryDepth (entry :: rest) ≤ limit := by omega
      have fitsLater : stack.length + 1 + Document.entryDepth rest ≤ limit := by
        rw [Document.entryDepth] at fitsAll
        omega
      rw [documentTokens, List.cons_append, List.cons_append, List.foldl_cons, opens]
      exact (each entry List.mem_cons_self).beforeEntries (.inl rfl) fitsAll [] <|
        read_entryTokens (fun other member => each other (List.mem_cons_of_mem entry member))
          fitsLater

end Collections

/-- Every document is read from the tokens that spell it. -/
theorem isRead (limit : Nat) : ∀ document : Document, IsRead limit document
  | .null => fun _ _ begins _ => advance_begin begins (by decide)
  | .bool _ => fun _ _ begins _ => advance_begin begins Token.noConfusion
  | .number _ => fun _ _ begins _ => advance_begin begins Token.noConfusion
  | .text _ => fun _ _ begins _ => advance_begin begins Token.noConfusion
  | .list items => .list fun item _ => isRead limit item
  | .object entries => .object fun entry _ => isRead limit entry.2
decreasing_by
  · decreasing_tactic
  · rename_i member
    have ofEntry := List.sizeOf_lt_of_mem member
    obtain ⟨key, value⟩ := entry
    simp only [Prod.mk.sizeOf_spec, Document.object.sizeOf_spec] at ofEntry ⊢
    omega

/-! ## From the tree to the document -/

private theorem readDocuments_toTrees
    {items : List Document}
    (each : ∀ item ∈ items, ∀ path, item.toTree.readDocument path = .ok item)
    (path : Path)
    (position : Nat) :
    Tree.readDocuments path position (Document.toTrees items) = .ok items := by
  induction items generalizing position with
  | nil => rfl
  | cons item rest inductionHypothesis =>
      have others := inductionHypothesis
        (fun other member => each other (List.mem_cons_of_mem item member)) (position + 1)
      rw [Document.toTrees, Tree.readDocuments, each item List.mem_cons_self, others]
      rfl

private theorem readDocumentEntries_toTreeEntries
    {entries : List (String × Document)}
    (each : ∀ entry ∈ entries, ∀ path, entry.2.toTree.readDocument path = .ok entry.2)
    (path : Path)
    (before : List (String × Document))
    (distinct : (Entries.keys (before ++ entries)).Nodup) :
    Tree.readDocumentEntries path before (Document.toTreeEntries entries) =
      .ok (before ++ entries) := by
  induction entries generalizing before with
  | nil =>
      rw [List.append_nil]
      rfl
  | cons entry rest inductionHypothesis =>
      obtain ⟨key, value⟩ := entry
      have isNew : key ∉ Entries.keys before := by
        rw [Entries.keys, List.map_append] at distinct
        exact fun isOld => (List.nodup_append.mp distinct).2.2 key isOld key List.mem_cons_self rfl
      rw [List.append_cons] at distinct
      have others := inductionHypothesis
        (fun other member => each other (List.mem_cons_of_mem _ member)) _ distinct
      rw [Document.toTreeEntries, Tree.readDocumentEntries, each (key, value) List.mem_cons_self]
      change Tree.readDocumentEntries path (Entries.insert key value before) _ = _
      rw [Entries.insert_of_not_mem isNew, others, ← List.append_cons]

/-- The tree of a regular document decodes to the document. -/
theorem readDocument_toTree {document : Document} (regular : document.Regular) (path : Path) :
    document.toTree.readDocument path = .ok document := by
  induction regular generalizing path with
  | null => rfl
  | bool value => rfl
  | text value => rfl
  | @number value plain =>
      cases value with
      | int value => rfl
      | real value =>
          obtain rfl : value = .zero := plain
          rfl
  | list _ inductionHypothesis =>
      rw [Document.toTree, Tree.readDocument,
        readDocuments_toTrees fun item member => inductionHypothesis item member]
      rfl
  | object distinct _ inductionHypothesis =>
      rw [Document.toTree, Tree.readDocument,
        readDocumentEntries_toTreeEntries (fun entry member => inductionHypothesis entry member)
          path [] distinct]
      rfl

/-! ## Text -/

/-- A text is JSON text for a document: its tokens are those that spell the document, and they
are read as the document wherever as many collections may be open as it nests. -/
structure Spells (text : String) (document : Document) : Prop where
  spelled : tokens text = documentTokens document
  isRead : ∀ limit, document.depth ≤ limit →
    (treeOfTokens limit (tokens text)).readDocument [] = .ok document

theorem spells_pretty {document : Document} (regular : document.Regular) :
    Spells (pretty document ++ "\n") document := by
  have spelled := tokens_pretty regular
  refine ⟨spelled, fun limit fits => ?_⟩
  have built := isRead limit document [] .value (.inl rfl)
    (by rw [List.length_nil, Nat.zero_add]; exact fits)
  rw [spelled, treeOfTokens, built]
  exact readDocument_toTree regular []

/-- A text is JSON text for one document only. -/
theorem Spells.unique
    {text : String}
    {left right : Document}
    (leftSpells : Spells text left)
    (rightSpells : Spells text right) :
    left = right := by
  have leftRead := leftSpells.isRead (max left.depth right.depth) (Nat.le_max_left _ _)
  have rightRead := rightSpells.isRead (max left.depth right.depth) (Nat.le_max_right _ _)
  rw [leftRead] at rightRead
  exact Except.ok.inj rightRead

end Json

end BlockSchema
