import BlockSchema.Proofs.Name.Snake

/-!
Contract: the identifiers of fields in emitted source.

A member name is the snake case form of a declared name, marked when it is a reserved word. The
marks cannot be taken for parts of a name, so only the snake case forms tell members apart. What
a member begins with is what the alphanumeric part of the declared name begins with. Whether a
member is an identifier is therefore decided by the declared name alone, and the external name,
which may be another one, has no say in it.
-/

set_option autoImplicit false

namespace BlockSchema.Name

/-! ## Words are not empty -/

private theorem segmentWords_ne_nil
    {run : Run}
    {opened segment : List Char}
    (started : run = .upper → opened ≠ [])
    {word : List Char}
    (member : word ∈ segmentWords run opened segment) :
    word ≠ [] := by
  fun_induction segmentWords run opened segment with
  | case1 => cases member
  | case2 run opened last =>
      rw [List.mem_singleton.mp member]
      simp
  | case3 run opened character next rest _ inductionHypothesis =>
      rcases List.mem_cons.mp member with rfl | later
      · simp
      · exact inductionHypothesis (by simp) later
  | case4 run opened character next rest _ runEnds inductionHypothesis =>
      rcases List.mem_cons.mp member with rfl | later
      · exact started runEnds.1
      · exact inductionHypothesis (by simp) later
  | case5 run opened character next rest _ _ inductionHypothesis =>
      exact inductionHypothesis (by simp) member

private theorem words_ne_nil {text word : List Char} (member : word ∈ words text) : word ≠ [] := by
  obtain ⟨segment, _, inSegment⟩ := List.mem_flatMap.mp member
  exact segmentWords_ne_nil (by simp) inSegment

/-! ## Words in lower case -/

theorem isDigit_of_above {character : Char} (above : 128 ≤ character.toNat) :
    character.isDigit = false := by
  have large : 57 < character.toNat := by omega
  simp [Char.isDigit, UInt32.le_iff_toNat_le, large]

private theorem exists_lowerChars (character : Char) :
    ∃ first rest, Unicode.lowerChars character = first :: rest ∧
      first.isDigit = character.isDigit := by
  have ascii : ∀ code < 128, (Char.ofNat code).toLower.isDigit = (Char.ofNat code).isDigit := by
    decide +kernel
  by_cases isAscii : character.toNat < 128
  · have sameDigit := ascii character.toNat isAscii
    rw [Char.ofNat_toNat] at sameDigit
    exact ⟨_, [], if_pos isAscii, sameDigit⟩
  · have above : 128 ≤ character.toNat := by omega
    obtain ⟨first, rest, lowers⟩ : ∃ first rest,
        Unicode.lowerChars character = first :: rest := by
      unfold Unicode.lowerChars
      rw [if_neg isAscii]
      split <;> exact ⟨_, _, rfl⟩
    refine ⟨first, rest, lowers, ?_⟩
    rw [isDigit_of_above above]
    rcases Unicode.mem_lowerChars_above above (lowers ▸ List.mem_cons_self) with rfl | rfl | far
    · decide
    · decide
    · exact isDigit_of_above far

private theorem exists_lowerWord (character : Char) (rest : List Char) :
    ∃ first others, lowerWord (character :: rest) = first :: others ∧
      first.isDigit = character.isDigit := by
  obtain ⟨first, more, lowers, sameDigit⟩ := exists_lowerChars character
  cases rest with
  | nil =>
      rw [lowerWord]
      by_cases sigma : character = 'Σ'
      · exact ⟨'ς', [], if_pos sigma, by rw [sigma]; decide⟩
      · exact ⟨first, more, (if_neg sigma).trans lowers, sameDigit⟩
  | cons next later =>
      rw [lowerWord, lowers]
      · exact ⟨first, _, rfl, sameDigit⟩
      · simp

/-- What is alphanumeric in a word shows no underscore in lower case. -/
theorem ne_underscore_of_mem_lowerWord
    {text word : List Char}
    (isWord : word ∈ words text)
    {lower : Char}
    (member : lower ∈ lowerWord word) :
    lower ≠ '_' := by
  rcases mem_lowerWord member with rfl | ⟨source, isSource, lowers⟩
  · decide
  · have inText : source ∈ (words text).flatten := List.mem_flatten.mpr ⟨word, isWord, isSource⟩
    rw [flatten_words] at inText
    exact (isPlain_lowerChars (List.mem_filter.mp inText).2 lowers).2

/-! ## The ends of a snake case name -/

private theorem joinWords_ne_nil {words : List (List Char)} (given : words ≠ [])
    (nonempty : ∀ word ∈ words, word ≠ []) :
    joinWords words ≠ [] := by
  fun_induction joinWords words with
  | case1 => exact absurd rfl given
  | case2 word => exact nonempty word List.mem_cons_self
  | case3 word rest _ _ => simp

private theorem getLast?_joinWords
    {words : List (List Char)}
    (nonempty : ∀ word ∈ words, word ≠ [])
    (without : ∀ word ∈ words, '_' ∉ word) :
    (joinWords words).getLast? ≠ some '_' := by
  fun_induction joinWords words with
  | case1 => simp
  | case2 word =>
      intro last
      exact without word List.mem_cons_self (List.mem_of_getLast? last)
  | case3 word rest more inductionHypothesis =>
      obtain ⟨_, nonemptyRest⟩ := List.forall_mem_cons.mp nonempty
      obtain ⟨_, withoutRest⟩ := List.forall_mem_cons.mp without
      have joined := joinWords_ne_nil (by simpa using more) nonemptyRest
      have ends : (word ++ '_' :: joinWords rest).getLast? = (joinWords rest).getLast? := by
        rw [List.getLast?_append, List.getLast?_cons, List.getLast?_eq_some_getLast joined]
        rfl
      rw [ends]
      exact inductionHypothesis nonemptyRest withoutRest

/-- A word in lower case is not empty and has no underscore. -/
theorem lowered_word {text word : List Char} (isLowered : word ∈ (words text).map lowerWord) :
    word ≠ [] ∧ '_' ∉ word := by
  obtain ⟨source, isWord, rfl⟩ := List.mem_map.mp isLowered
  refine ⟨?_, fun inside => ne_underscore_of_mem_lowerWord isWord inside rfl⟩
  obtain ⟨character, rest, rfl⟩ := List.exists_cons_of_ne_nil (words_ne_nil isWord)
  obtain ⟨first, others, lowered, _⟩ := exists_lowerWord character rest
  rw [lowered]
  simp

/-- A snake case name does not end in an underscore. -/
theorem snake_getLast? (text : String) : (snake text).toList.getLast? ≠ some '_' := by
  rw [snake, String.toList_ofList]
  apply getLast?_joinWords
  · exact fun _ isLowered => (lowered_word isLowered).1
  · exact fun _ isLowered => (lowered_word isLowered).2

/-- A snake case name begins with a digit when what is alphanumeric in the text does, and with
nothing when nothing is. -/
theorem snake_head? (text : String) :
    (snake text).toList.head?.map Char.isDigit =
      (text.toList.find? Unicode.isAlphanumeric).map Char.isDigit := by
  rw [snake, String.toList_ofList, snakeChars, ← List.head?_filter, ← flatten_words]
  cases given : words text.toList with
  | nil => rfl
  | cons word rest =>
      have isWord : word ∈ words text.toList := given ▸ List.mem_cons_self
      obtain ⟨character, others, rfl⟩ := List.exists_cons_of_ne_nil (words_ne_nil isWord)
      obtain ⟨first, more, lowered, sameDigit⟩ := exists_lowerWord character others
      have begins : ∀ later, (joinWords ((first :: more) :: later)).head? = some first := by
        intro later
        cases later <;> rfl
      rw [List.map_cons, lowered, begins]
      simpa using sameDigit

/-! ## Members -/

/-- A name with neither of the marks that reserved words get. -/
structure IsUnmarked (name : String) : Prop where
  noHash : '#' ∉ name.toList
  noUnderscore : name.toList.getLast? ≠ some '_'

theorem isUnmarked_snake (text : String) : IsUnmarked (snake text) where
  noHash inside := absurd (isPlain_snake inside) (by decide)
  noUnderscore := snake_getLast? text

/-- How a name is escaped. -/
inductive Escapes (name : String) : String → Prop where
  | path (reserved : name ∈ pathWords) : Escapes name (name ++ "_")
  | raw (reserved : name ∈ reservedWords) : Escapes name ("r#" ++ name)
  | plain (noPath : name ∉ pathWords) (noWord : name ∉ reservedWords) : Escapes name name

private theorem escapes (name : String) : Escapes name (escapeReserved name) := by
  unfold escapeReserved
  by_cases isPath : name ∈ pathWords
  · rw [if_pos (List.contains_iff_mem.mpr isPath)]
    exact .path isPath
  · rw [if_neg (mt List.contains_iff_mem.mp isPath)]
    by_cases isWord : name ∈ reservedWords
    · rw [if_pos (List.contains_iff_mem.mpr isWord)]
      exact .raw isWord
    · rw [if_neg (mt List.contains_iff_mem.mp isWord)]
      exact .plain isPath isWord

theorem escapes_member (declared : String) : Escapes (snake declared) (member declared) :=
  escapes (snake declared)

/-- The marks tell how an unmarked name was escaped, so it can be read back. -/
theorem Escapes.injective
    {left right escaped : String}
    (unmarkedLeft : IsUnmarked left)
    (unmarkedRight : IsUnmarked right)
    (escapesLeft : Escapes left escaped)
    (escapesRight : Escapes right escaped) :
    left = right := by
  have hash : ∀ name : String, '#' ∈ ("r#" ++ name).toList := by simp
  have underscore : ∀ name : String, (name ++ "_").toList.getLast? = some '_' := by simp
  have noHash : ∀ name, IsUnmarked name → '#' ∉ (name ++ "_").toList := by
    intro name unmarked
    simpa using unmarked.noHash
  generalize same : escaped = other at escapesRight
  cases escapesLeft with
  | path =>
      cases escapesRight with
      | path => exact (String.append_left_inj _).mp same
      | raw => exact absurd (same ▸ hash right) (noHash left unmarkedLeft)
      | plain => exact absurd (same ▸ underscore left) unmarkedRight.noUnderscore
  | raw =>
      cases escapesRight with
      | path => exact absurd (same ▸ hash left) (noHash right unmarkedRight)
      | raw => exact (String.append_right_inj _).mp same
      | plain => exact absurd (same ▸ hash left) unmarkedRight.noHash
  | plain =>
      cases escapesRight with
      | path => exact absurd (same.symm ▸ underscore right) unmarkedLeft.noUnderscore
      | raw => exact absurd (same.symm ▸ hash right) unmarkedLeft.noHash
      | plain => exact same

/-- Two fields have one member name when their declared names have one snake case form. -/
theorem member_eq_iff {left right : String} :
    member left = member right ↔ snake left = snake right := by
  constructor
  · intro same
    have escapesRight := escapes_member right
    rw [← same] at escapesRight
    exact Escapes.injective (isUnmarked_snake left) (isUnmarked_snake right) (escapes_member left)
      escapesRight
  · exact congrArg escapeReserved

/-! ## Identifiers -/

/-- Words that are no identifiers in emitted source. -/
def keywords : List String :=
  "Self" :: pathWords ++ reservedWords

/-- A text is not empty, does not begin with a digit and is no keyword. -/
structure IsIdentifier (text : String) : Prop where
  noDigit : text.toList.head?.map Char.isDigit = some false
  noKeyword : text ∉ keywords

instance (text : String) : Decidable (IsIdentifier text) :=
  decidable_of_iff (text.toList.head?.map Char.isDigit = some false ∧ text ∉ keywords)
    ⟨fun both => ⟨both.1, both.2⟩, fun identifier => ⟨identifier.noDigit, identifier.noKeyword⟩⟩

/-- A member name is never a keyword. -/
theorem member_not_mem_keywords (declared : String) : member declared ∉ keywords := by
  have unmarkedWords : ∀ word ∈ keywords, word.toList.getLast? ≠ some '_' ∧ '#' ∉ word.toList := by
    decide
  intro isKeyword
  have escaped := escapes_member declared
  generalize member declared = name at isKeyword escaped
  cases escaped with
  | path => exact (unmarkedWords _ isKeyword).1 (by simp)
  | raw => exact (unmarkedWords _ isKeyword).2 (by simp)
  | plain noPath noWord =>
      rcases List.mem_append.mp isKeyword with ofPath | isWord
      · rcases List.mem_cons.mp ofPath with isSelf | isPath
        · have capital : 'S' ∈ (snake declared).toList := by rw [isSelf]; decide
          exact absurd (isPlain_snake capital) (by decide)
        · exact noPath isPath
      · exact noWord isWord

/-- A member name begins like the snake case form when that begins with a digit. -/
theorem member_head? (declared : String) :
    (member declared).toList.head?.map Char.isDigit =
      (snake declared).toList.head?.map Char.isDigit := by
  have letters : ∀ word ∈ keywords, word.toList.head?.map Char.isDigit = some false := by decide
  have escaped := escapes_member declared
  generalize member declared = name at escaped
  cases escaped with
  | path reserved =>
      have begins := letters (snake declared) (by simp [keywords, reserved])
      obtain ⟨first, isFirst, noDigit⟩ := Option.map_eq_some_iff.mp begins
      rw [String.toList_append, List.head?_append, isFirst]
      rfl
  | raw reserved =>
      rw [letters (snake declared) (by simp [keywords, reserved])]
      simp
  | plain => rfl

/-- A member name is an identifier exactly when the declared name has something alphanumeric
that does not begin with a digit. -/
theorem isIdentifier_member_iff (declared : String) :
    IsIdentifier (member declared) ↔
      (declared.toList.find? Unicode.isAlphanumeric).map Char.isDigit = some false := by
  rw [← snake_head?, ← member_head?]
  exact ⟨IsIdentifier.noDigit, fun noDigit => ⟨noDigit, member_not_mem_keywords declared⟩⟩

/-- A declared name that is its own external name has an identifier as its member name. -/
theorem isIdentifier_of_external
    {declared : String}
    (valid : isExternal (external declared) = true) :
    IsIdentifier (member declared) := by
  refine ⟨?_, member_not_mem_keywords declared⟩
  rw [member_head?]
  unfold isExternal at valid
  cases given : (external declared).toList with
  | nil =>
      rw [given] at valid
      cases valid
  | cons first rest =>
      rw [given, isExternalChars, Bool.and_eq_true] at valid
      have isLetter : (decide ('a'.val ≤ first.val) && decide (first.val ≤ 'z'.val)) = true :=
        valid.1
      have noDigit : first.isDigit = false := by
        simp [Char.isDigit, UInt32.le_iff_toNat_le] at isLetter ⊢
        omega
      change (external declared).toList.head?.map Char.isDigit = some false
      rw [given, List.head?_cons, Option.map_some, noDigit]

end BlockSchema.Name
