import BlockSchema.Proofs.Document.Json.Reading

/-!
Contract: what JSON tokens have been read when a value is finished.

The state of reading tells the tokens that led to it: the collections that are open, what they
hold so far, and what is due. So a reading that ends with a value has read the tokens that
spell it, and the tokens after those are not looked at.
-/

set_option autoImplicit false

namespace BlockSchema

/-! ## Trees of documents -/

namespace Document

private theorem toTrees_concat (items : List Document) (last : Document) :
    toTrees (items ++ [last]) = toTrees items ++ [last.toTree] := by
  induction items with
  | nil => rfl
  | cons item rest inductionHypothesis =>
      rw [List.cons_append, toTrees, toTrees, inductionHypothesis]
      rfl

private theorem toTreeEntries_concat
    (entries : List (String × Document))
    (key : String)
    (value : Document) :
    toTreeEntries (entries ++ [(key, value)]) =
      toTreeEntries entries ++ [(.text key, value.toTree)] := by
  induction entries with
  | nil => rfl
  | cons entry rest inductionHypothesis =>
      obtain ⟨name, first⟩ := entry
      rw [List.cons_append, toTreeEntries, toTreeEntries, inductionHypothesis]
      rfl

private theorem itemDepth_concat (items : List Document) (last : Document) :
    itemDepth (items ++ [last]) = max (itemDepth items) last.depth := by
  induction items with
  | nil =>
      simp only [List.nil_append, itemDepth]
      omega
  | cons item rest inductionHypothesis =>
      rw [List.cons_append, itemDepth, itemDepth, inductionHypothesis]
      omega

private theorem entryDepth_concat
    (entries : List (String × Document))
    (key : String)
    (value : Document) :
    entryDepth (entries ++ [(key, value)]) = max (entryDepth entries) value.depth := by
  induction entries with
  | nil =>
      simp only [List.nil_append, entryDepth]
      omega
  | cons entry rest inductionHypothesis =>
      obtain ⟨name, first⟩ := entry
      rw [List.cons_append, entryDepth, entryDepth, inductionHypothesis]
      omega

end Document

namespace Json

/-! ## Parts with the commas after them -/

/-- The tokens of items, each with the comma after it. -/
def listedTokens (items : List Document) : List Token :=
  items.flatMap fun item => documentTokens item ++ [.comma]

/-- The tokens of entries, each with the comma after it. -/
def enteredTokens (entries : List (String × Document)) : List Token :=
  entries.flatMap fun entry => .text entry.1 :: .colon :: documentTokens entry.2 ++ [.comma]

private theorem listedTokens_concat (items : List Document) (last : Document) :
    listedTokens (items ++ [last]) = listedTokens items ++ documentTokens last ++ [.comma] := by
  simp [listedTokens]

private theorem enteredTokens_concat
    (entries : List (String × Document))
    (key : String)
    (value : Document) :
    enteredTokens (entries ++ [(key, value)]) =
      enteredTokens entries ++ .text key :: .colon :: documentTokens value ++ [.comma] := by
  simp [enteredTokens]

theorem documentTokens_list (items : List Document) (last : Document) :
    documentTokens (.list (items ++ [last])) =
      .openList :: listedTokens items ++ documentTokens last ++ [.closeList] := by
  have spelled : ∀ (first : Document) (rest : List Document),
      documentTokens first ++ itemTokens (rest ++ [last]) =
        listedTokens (first :: rest) ++ documentTokens last ++ [.closeList] := by
    intro first rest
    induction rest generalizing first with
    | nil => simp [listedTokens, itemTokens]
    | cons second rest inductionHypothesis =>
        have later := inductionHypothesis second
        rw [List.cons_append, itemTokens, List.cons_append, later]
        simp [listedTokens]
  cases items with
  | nil => rfl
  | cons first rest =>
      rw [List.cons_append, documentTokens, List.cons_append, spelled]
      rfl

theorem documentTokens_object
    (entries : List (String × Document))
    (key : String)
    (value : Document) :
    documentTokens (.object (entries ++ [(key, value)])) =
      .openObject :: enteredTokens entries ++ .text key :: .colon :: documentTokens value ++
        [.closeObject] := by
  have spelled : ∀ (first : String × Document) (rest : List (String × Document)),
      .text first.1 :: .colon :: documentTokens first.2 ++ entryTokens (rest ++ [(key, value)]) =
        enteredTokens (first :: rest) ++ .text key :: .colon :: documentTokens value ++
          [.closeObject] := by
    intro first rest
    induction rest generalizing first with
    | nil => simp [enteredTokens, entryTokens]
    | cons second rest inductionHypothesis =>
        obtain ⟨name, document⟩ := second
        have later := inductionHypothesis (name, document)
        simp only [List.cons_append, entryTokens] at later ⊢
        rw [later]
        simp [enteredTokens]
  cases entries with
  | nil => rfl
  | cons first rest =>
      obtain ⟨name, document⟩ := first
      have all := spelled (name, document) rest
      rw [List.cons_append, documentTokens]
      simp only [List.cons_append] at all ⊢
      rw [all]

/-! ## The tokens that lead to a state -/

variable {limit : Nat} {stack : List Frame} {tokens : List Token}

/-- Tokens after which a value may begin inside the open collections of a stack. -/
inductive Inside (limit : Nat) : List Frame → List Token → Prop where
  | top : Inside limit [] []
  | list {stack : List Frame} {tokens : List Token} {items : List Document}
      (outer : Inside limit stack tokens)
      (fits : stack.length + 1 + Document.itemDepth items ≤ limit) :
      Inside limit (.list (Document.toTrees items).reverse :: stack)
        (tokens ++ .openList :: listedTokens items)
  | object {stack : List Frame} {tokens : List Token} {entries : List (String × Document)}
      {key : String}
      (outer : Inside limit stack tokens)
      (fits : stack.length + 1 + Document.entryDepth entries ≤ limit) :
      Inside limit (.object (Document.toTreeEntries entries).reverse (some (.text key)) :: stack)
        (tokens ++ .openObject :: enteredTokens entries ++ [.text key, .colon])

/-- Tokens that lead to a state of reading. -/
inductive LeadsTo (limit : Nat) : Progress → List Token → Prop where
  | value {stack : List Frame} {tokens : List Token} {due : Due}
      (inside : Inside limit stack tokens)
      (awaits : due = .value ∨ due = .item) :
      LeadsTo limit (.open stack due) tokens
  | firstItem {stack : List Frame} {tokens : List Token}
      (outer : Inside limit stack tokens)
      (room : stack.length < limit) :
      LeadsTo limit (.open (.list [] :: stack) .firstItem) (tokens ++ [.openList])
  | afterItem {stack : List Frame} {tokens : List Token} {items : List Document}
      {last : Document}
      (outer : Inside limit stack tokens)
      (fits : stack.length + 1 + Document.itemDepth (items ++ [last]) ≤ limit) :
      LeadsTo limit
        (.open (.list (Document.toTrees (items ++ [last])).reverse :: stack) .separator)
        (tokens ++ .openList :: listedTokens items ++ documentTokens last)
  | key {stack : List Frame} {tokens : List Token} {entries : List (String × Document)}
      {due : Due}
      (outer : Inside limit stack tokens)
      (fits : stack.length + 1 + Document.entryDepth entries ≤ limit)
      (awaits : due = .key ∨ due = .firstKey ∧ entries = []) :
      LeadsTo limit
        (.open (.object (Document.toTreeEntries entries).reverse none :: stack) due)
        (tokens ++ .openObject :: enteredTokens entries)
  | colon {stack : List Frame} {tokens : List Token} {entries : List (String × Document)}
      {key : String}
      (outer : Inside limit stack tokens)
      (fits : stack.length + 1 + Document.entryDepth entries ≤ limit) :
      LeadsTo limit
        (.open (.object (Document.toTreeEntries entries).reverse (some (.text key)) :: stack)
          .colon)
        (tokens ++ .openObject :: enteredTokens entries ++ [.text key])
  | afterEntry {stack : List Frame} {tokens : List Token} {entries : List (String × Document)}
      {key : String} {last : Document}
      (outer : Inside limit stack tokens)
      (fits : stack.length + 1 + Document.entryDepth (entries ++ [(key, last)]) ≤ limit) :
      LeadsTo limit
        (.open (.object (Document.toTreeEntries (entries ++ [(key, last)])).reverse none :: stack)
          .separator)
        (tokens ++ .openObject :: enteredTokens entries ++ .text key :: .colon ::
          documentTokens last)
  | done {document : Document} {rest : List Token} (fits : document.depth ≤ limit) :
      LeadsTo limit (.done document.toTree) (documentTokens document ++ rest)
  | stopped (stack : List Frame) (tokens : List Token) : LeadsTo limit (.stopped stack) tokens

/-! ## Steps -/

private theorem Inside.length_le (inside : Inside limit stack tokens) : stack.length ≤ limit := by
  cases inside with
  | top => exact Nat.zero_le limit
  | list _ fits =>
      rw [List.length_cons]
      omega
  | object _ fits =>
      rw [List.length_cons]
      omega

/-- A finished value goes where one may begin. -/
theorem Inside.deliver
    (inside : Inside limit stack tokens)
    {document : Document}
    (fits : stack.length + document.depth ≤ limit) :
    LeadsTo limit (deliver document.toTree stack) (tokens ++ documentTokens document) := by
  cases inside with
  | top =>
      have isDone : LeadsTo limit (.done document.toTree) (documentTokens document ++ []) :=
        .done (by simpa using fits)
      rw [List.append_nil] at isDone
      exact isDone
  | @list stack tokens items outer fitsBefore =>
      have fitsAll : stack.length + 1 + Document.itemDepth (items ++ [document]) ≤ limit := by
        rw [Document.itemDepth_concat]
        rw [List.length_cons] at fits
        omega
      have after := LeadsTo.afterItem outer fitsAll
      rw [Document.toTrees_concat, List.reverse_concat] at after
      exact after
  | @object stack tokens entries key outer fitsBefore =>
      have fitsAll :
          stack.length + 1 + Document.entryDepth (entries ++ [(key, document)]) ≤ limit := by
        rw [Document.entryDepth_concat]
        rw [List.length_cons] at fits
        omega
      have after := LeadsTo.afterEntry outer fitsAll
      rw [Document.toTreeEntries_concat, List.reverse_concat] at after
      simp only [List.append_assoc, List.cons_append, List.nil_append] at after ⊢
      exact after

/-- Where a value may begin, any token leads on. -/
theorem Inside.begin
    (inside : Inside limit stack tokens)
    (token : Token) :
    LeadsTo limit (beginValue limit stack token) (tokens ++ [token]) := by
  have flat : ∀ document : Document, document.depth = 0 →
      LeadsTo limit (Json.deliver document.toTree stack) (tokens ++ documentTokens document) :=
    fun document isFlat => inside.deliver (by have := inside.length_le; omega)
  cases token with
  | openList =>
      change LeadsTo limit (openFrame limit (.list []) .firstItem stack) _
      unfold openFrame
      by_cases room : stack.length < limit
      · rw [if_pos room]
        exact .firstItem inside room
      · rw [if_neg room]
        exact .stopped _ _
  | openObject =>
      change LeadsTo limit (openFrame limit (.object [] none) .firstKey stack) _
      unfold openFrame
      by_cases room : stack.length < limit
      · rw [if_pos room]
        have opened : LeadsTo limit (.open (.object [] none :: stack) .firstKey) _ :=
          @LeadsTo.key limit stack tokens [] .firstKey inside
            (by rw [Document.entryDepth]; omega) (.inr ⟨rfl, rfl⟩)
        exact opened
      · rw [if_neg room]
        exact .stopped _ _
  | null => exact flat .null rfl
  | bool value => exact flat (.bool value) rfl
  | number value => exact flat (.number value) rfl
  | text value => exact flat (.text value) rfl
  | closeList | closeObject | comma | colon | bad => exact .stopped _ _

/-- The end of a collection after its last part finishes a value. -/
theorem Inside.close
    (outer : Inside limit stack tokens)
    {document : Document}
    (fits : stack.length + document.depth ≤ limit)
    {before : List Token}
    {last : Token}
    (spelled : documentTokens document = before ++ [last]) :
    LeadsTo limit (Json.deliver document.toTree stack) (tokens ++ before ++ [last]) := by
  rw [List.append_assoc, ← spelled]
  exact outer.deliver fits

/-- After an item its list goes on or ends. -/
theorem Inside.separatesItem
    (outer : Inside limit stack tokens)
    {items : List Document}
    {last : Document}
    (fits : stack.length + 1 + Document.itemDepth (items ++ [last]) ≤ limit)
    (token : Token) :
    LeadsTo limit
      (advance limit
        (.open (.list (Document.toTrees (items ++ [last])).reverse :: stack) .separator) token)
      (tokens ++ .openList :: listedTokens items ++ documentTokens last ++ [token]) := by
  cases token with
  | comma =>
      have next : LeadsTo limit _ _ := .value (.list outer fits) (.inr rfl)
      rw [listedTokens_concat] at next
      simp only [List.append_assoc, List.cons_append] at next ⊢
      exact next
  | closeList =>
      have spelled := documentTokens_list items last
      have closed := outer.close (by rw [Document.depth]; omega) spelled
      rw [Document.toTree, ← List.reverse_reverse (Document.toTrees (items ++ [last]))] at closed
      simp only [List.append_assoc, List.cons_append] at closed ⊢
      exact closed
  | _ => exact .stopped _ _

/-- After an entry its object goes on or ends. -/
theorem Inside.separatesEntry
    (outer : Inside limit stack tokens)
    {entries : List (String × Document)}
    {key : String}
    {last : Document}
    (fits : stack.length + 1 + Document.entryDepth (entries ++ [(key, last)]) ≤ limit)
    (token : Token) :
    LeadsTo limit
      (advance limit
        (.open (.object (Document.toTreeEntries (entries ++ [(key, last)])).reverse none :: stack)
          .separator) token)
      (tokens ++ .openObject :: enteredTokens entries ++ .text key :: .colon ::
        documentTokens last ++ [token]) := by
  cases token with
  | comma =>
      have next : LeadsTo limit _ _ := .key outer fits (.inl rfl)
      rw [enteredTokens_concat] at next
      simp only [List.append_assoc, List.cons_append] at next ⊢
      exact next
  | closeObject =>
      have spelled := documentTokens_object entries key last
      have closed := outer.close (by rw [Document.depth]; omega) spelled
      rw [Document.toTree,
        ← List.reverse_reverse (Document.toTreeEntries (entries ++ [(key, last)]))] at closed
      simp only [List.append_assoc, List.cons_append] at closed ⊢
      exact closed
  | _ => exact .stopped _ _

/-- Every token leads on from the state that the tokens before it lead to. -/
theorem LeadsTo.step
    {progress : Progress}
    (leads : LeadsTo limit progress tokens)
    (token : Token) :
    LeadsTo limit (advance limit progress token) (tokens ++ [token]) := by
  cases leads with
  | stopped => exact .stopped _ _
  | done fits =>
      rw [List.append_assoc]
      exact .done fits
  | value inside awaits =>
      rcases awaits with rfl | rfl
      · exact inside.begin token
      · exact inside.begin token
  | @firstItem stack tokens outer room =>
      by_cases closes : token = .closeList
      · subst closes
        have isEmpty : documentTokens (.list []) = [.openList] ++ [.closeList] := rfl
        exact outer.close (by simp only [Document.depth, Document.itemDepth]; omega) isEmpty
      · have opened : Inside limit (.list [] :: stack) (tokens ++ [.openList]) :=
          @Inside.list limit stack tokens [] outer (by rw [Document.itemDepth]; omega)
        rw [advance_begin (.inr (.inr rfl)) closes]
        exact opened.begin token
  | afterItem outer fits => exact outer.separatesItem fits token
  | @key stack tokens entries due outer fits awaits =>
      cases token with
      | text name =>
          have next := @LeadsTo.colon limit stack tokens entries name outer fits
          rcases awaits with rfl | ⟨rfl, rfl⟩
          · exact next
          · exact next
      | closeObject =>
          rcases awaits with rfl | ⟨rfl, rfl⟩
          · exact .stopped _ _
          · have isEmpty : documentTokens (.object []) = [.openObject] ++ [.closeObject] := rfl
            exact outer.close (by simp only [Document.depth, Document.entryDepth]; omega) isEmpty
      | _ => rcases awaits with rfl | ⟨rfl, rfl⟩ <;> exact .stopped _ _
  | @colon stack tokens entries key outer fits =>
      cases token with
      | colon =>
          have next : LeadsTo limit _ _ := .value (@Inside.object _ _ _ _ key outer fits) (.inl rfl)
          simp only [List.append_assoc, List.cons_append] at next ⊢
          exact next
      | _ => exact .stopped _ _
  | afterEntry outer fits => exact outer.separatesEntry fits token

/-- The state after some tokens is one that they lead to. -/
theorem leadsTo_foldl (limit : Nat) (tokens : List Token) :
    LeadsTo limit (tokens.foldl (advance limit) (.open [] .value)) tokens := by
  induction tokens using List.reverseRecOn with
  | nil => exact .value .top (.inl rfl)
  | append_singleton tokens token inductionHypothesis =>
      rw [List.foldl_concat]
      exact inductionHypothesis.step token

private theorem foldl_done (tree : Tree) (tokens : List Token) :
    tokens.foldl (advance limit) (.done tree) = .done tree := by
  induction tokens with
  | nil => rfl
  | cons token rest inductionHypothesis => exact inductionHypothesis

/-- A value is finished exactly when the tokens begin with those of a document that does not
nest too deep. It is the tree of the document, whatever tokens are left. -/
theorem foldl_eq_done_iff {tree : Tree} :
    tokens.foldl (advance limit) (.open [] .value) = .done tree ↔
      ∃ document rest, tokens = documentTokens document ++ rest ∧ document.depth ≤ limit ∧
        document.toTree = tree := by
  constructor
  · intro finished
    have leads := leadsTo_foldl limit tokens
    rw [finished] at leads
    cases leads with
    | done fits => exact ⟨_, _, rfl, fits, rfl⟩
  · rintro ⟨document, rest, rfl, fits, rfl⟩
    have read := isRead limit document [] .value (.inl rfl) (by simpa using fits)
    rw [List.foldl_append, read]
    exact foldl_done document.toTree rest

/-! ## One document only -/

mutual

/-- A tree is that of one document only. -/
theorem toTree_injective : ∀ {left right : Document}, left.toTree = right.toTree → left = right
  | .list items, right => by
      intro same
      cases right with
      | list others =>
          rw [Document.toTree, Document.toTree, Tree.list.injEq] at same
          rw [toTrees_injective same.1]
      | _ => simp [Document.toTree] at same
  | .object entries, right => by
      intro same
      cases right with
      | object others =>
          rw [Document.toTree, Document.toTree, Tree.object.injEq] at same
          rw [toTreeEntries_injective same.1]
      | _ => simp [Document.toTree] at same
  | .null, right => by
      intro same
      cases right <;> simp [Document.toTree, Atom.strict] at same ⊢
  | .bool value, right => by
      intro same
      cases right <;> simp_all [Document.toTree, Atom.strict]
  | .number value, right => by
      intro same
      cases right <;> simp_all [Document.toTree, Atom.strict]
  | .text value, right => by
      intro same
      cases right <;> simp_all [Document.toTree, Atom.strict]

theorem toTrees_injective :
    ∀ {left right : List Document}, Document.toTrees left = Document.toTrees right → left = right
  | [], [] => fun _ => rfl
  | [], _ :: _ => fun same => by simp [Document.toTrees] at same
  | _ :: _, [] => fun same => by simp [Document.toTrees] at same
  | item :: rest, other :: others => fun same => by
      rw [Document.toTrees, Document.toTrees, List.cons.injEq] at same
      rw [toTree_injective same.1, toTrees_injective same.2]

theorem toTreeEntries_injective :
    ∀ {left right : List (String × Document)},
      Document.toTreeEntries left = Document.toTreeEntries right → left = right
  | [], [] => fun _ => rfl
  | [], (_, _) :: _ => fun same => by simp [Document.toTreeEntries] at same
  | (_, _) :: _, [] => fun same => by simp [Document.toTreeEntries] at same
  | (key, value) :: rest, (other, document) :: others => fun same => by
      rw [Document.toTreeEntries, Document.toTreeEntries, List.cons.injEq, Prod.mk.injEq] at same
      obtain ⟨⟨sameKey, sameValue⟩, sameRest⟩ := same
      rw [Key.text.inj sameKey, toTree_injective sameValue, toTreeEntries_injective sameRest]

end

/-- The tokens of a document are not followed by others in those of a document. -/
theorem documentTokens_append
    {left right : Document}
    {rest : List Token}
    (same : documentTokens right = documentTokens left ++ rest) :
    rest = [] := by
  have ofRight := isRead (max left.depth right.depth) right [] .value (.inl rfl)
    (by rw [List.length_nil]; omega)
  have ofLeft := isRead (max left.depth right.depth) left [] .value (.inl rfl)
    (by rw [List.length_nil]; omega)
  rw [same, List.foldl_append, ofLeft] at ofRight
  have sameTree : Progress.done left.toTree = .done right.toTree := by
    rw [← foldl_done left.toTree rest]
    exact ofRight
  rw [← toTree_injective (Progress.done.inj sameTree)] at same
  exact List.self_eq_append_right.mp same

end Json

end BlockSchema
