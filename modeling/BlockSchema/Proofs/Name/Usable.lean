import BlockSchema.Proofs.Name.Canonical

/-!
Contract: member names as the language of emitted source reads them.

That language keeps some words for itself. A word of that kind is a name when it is marked as
one, except for the words that stand for places in paths, which have no marked form. A member
name whose snake case form is a valid external name is always a name there, and the marks make
no two of them the same.
-/

set_option autoImplicit false

namespace BlockSchema.Name

/-! ## Names in emitted source -/

/-- An ASCII letter or an underscore, followed by letters, digits and underscores; not one
underscore alone. -/
def isSpelledChars : List Char → Bool
  | [] => false
  | first :: rest =>
      (first.isAlpha || first == '_' && !rest.isEmpty) &&
        rest.all fun character => character.isAlphanum || character == '_'

/-- Whether a text is spelled like a name of the language. -/
def isSpelled (word : String) : Bool :=
  isSpelledChars word.toList

/-- The words that the language gives a meaning to. -/
def wordsInUse : List String :=
  ["as", "async", "await", "break", "const", "continue", "crate", "dyn", "else", "enum",
   "extern", "false", "fn", "for", "if", "impl", "in", "let", "loop", "match", "mod", "move",
   "mut", "pub", "ref", "return", "self", "Self", "static", "struct", "super", "trait", "true",
   "type", "unsafe", "use", "where", "while"]

/-- The words that the language keeps for later versions of it. -/
def wordsForLater : List String :=
  ["abstract", "become", "box", "do", "final", "gen", "macro", "override", "priv", "try",
   "typeof", "unsized", "virtual", "yield"]

/-- The words that no name can have. -/
def languageWords : List String :=
  wordsInUse ++ wordsForLater

/-- The words that have no raw form. -/
def rawlessWords : List String :=
  ["crate", "self", "Self", "super"]

/-- A name of the language: a word that it does not keep for itself, or the raw form of a
word. -/
inductive IsUsable : String → Prop where
  | bare {word : String} (spelled : isSpelled word = true) (free : word ∉ languageWords) :
      IsUsable word
  | raw {word : String} (spelled : isSpelled word = true) (allowed : word ∉ rawlessWords) :
      IsUsable ("r#" ++ word)

/-! ## Members -/

private theorem mem_keywords_of_language : ∀ word ∈ languageWords, word ∈ keywords := by
  decide

private theorem not_mem_rawless_of_reserved : ∀ word ∈ reservedWords, word ∉ rawlessWords := by
  decide

private theorem isAlpha_of_isLower {character : Char} (isLower : character.isLower = true) :
    character.isAlpha = true :=
  Bool.or_eq_true_iff.mpr (.inr isLower)

/-- A valid external name is spelled like a name of the language. -/
theorem isSpelled_of_isExternal {name : String} (valid : isExternal name = true) :
    isSpelled name = true := by
  unfold isExternal at valid
  unfold isSpelled
  cases given : name.toList with
  | nil =>
      rw [given] at valid
      cases valid
  | cons first rest =>
      rw [given, isExternalChars, Bool.and_eq_true, List.all_eq_true] at valid
      obtain ⟨isLower, tails⟩ := valid
      rw [isSpelledChars, isAlpha_of_isLower isLower, Bool.true_or, Bool.true_and, List.all_eq_true]
      intro character inside
      have tail := tails character inside
      simp only [isExternalTail, Bool.or_eq_true] at tail
      rcases tail with (isLower | isDigit) | isJoint
      · simp [Char.isAlphanum, isAlpha_of_isLower isLower]
      · simp [Char.isAlphanum, isDigit]
      · rw [isJoint, Bool.or_true]

/-- A member made of a valid external name is a name of the language. -/
theorem isUsable_member
    {declared : String}
    (valid : isExternal (snake declared) = true) :
    IsUsable (member declared) := by
  have suffixed : ∀ word ∈ pathWords,
      isSpelled (word ++ "_") = true ∧ word ++ "_" ∉ languageWords := by
    decide +kernel
  have spelled := isSpelled_of_isExternal valid
  have noKeyword := member_not_mem_keywords declared
  have escaped := escapes_member declared
  generalize member declared = name at noKeyword escaped
  cases escaped with
  | path reserved => exact .bare (suffixed _ reserved).1 (suffixed _ reserved).2
  | raw reserved => exact .raw spelled (not_mem_rawless_of_reserved _ reserved)
  | plain => exact .bare spelled fun isWord => noKeyword (mem_keywords_of_language _ isWord)

/-- The raw form of a word that has none is no member. -/
theorem member_ne_raw (declared : String) {word : String} (rawless : word ∈ rawlessWords) :
    member declared ≠ "r#" ++ word := by
  have unmarked := isUnmarked_snake declared
  have escaped := escapes_member declared
  intro isRaw
  rw [isRaw] at escaped
  generalize made : "r#" ++ word = name at escaped
  have hash : '#' ∈ name.toList := by
    rw [← made]
    simp
  cases escaped with
  | path => exact unmarked.noHash (by simpa using hash)
  | raw reserved =>
      obtain rfl := (String.append_right_inj _).mp made
      exact not_mem_rawless_of_reserved _ reserved rawless
  | plain => exact unmarked.noHash hash

/-- Members are the same just when the snake case forms of the declared names are. A member
whose snake case form is a valid external name is a name of the language of emitted source: no
word that the language keeps for itself, and no raw form of a word that has none. -/
theorem members_escaped :
    (∀ left right, member left = member right ↔ snake left = snake right) ∧
    (∀ declared, isExternal (snake declared) = true →
      IsUsable (member declared) ∧ member declared ∉ languageWords ∧
        ∀ word ∈ rawlessWords, member declared ≠ "r#" ++ word) := by
  refine ⟨fun left right => member_eq_iff, fun declared valid => ⟨isUsable_member valid, ?_, ?_⟩⟩
  · exact fun isWord => member_not_mem_keywords declared (mem_keywords_of_language _ isWord)
  · exact fun word rawless => member_ne_raw declared rawless

/-- A type, a self and two spellings of a host: a marked word, a word without a raw form and a
word that is free. -/
theorem members_escaped_words :
    (isExternal (snake "Type") = true ∧ member "Type" = "r#type" ∧ IsUsable (member "Type")) ∧
    (isExternal (snake "Self") = true ∧ member "Self" = "self_" ∧
      member "Self" ∉ languageWords ∧ ∀ word ∈ rawlessWords, member "Self" ≠ "r#" ++ word) ∧
    member "HTTPHost" = member "http-host" ∧ member "Self" ≠ member "Type" := by
  obtain ⟨sameMembers, usable⟩ := members_escaped
  have typeValid : isExternal (snake "Type") = true := by decide +kernel
  have selfValid : isExternal (snake "Self") = true := by decide +kernel
  refine ⟨⟨typeValid, by decide +kernel, (usable "Type" typeValid).1⟩,
    ⟨selfValid, by decide +kernel, (usable "Self" selfValid).2⟩, ?_, ?_⟩
  · exact (sameMembers "HTTPHost" "http-host").mpr (by decide +kernel)
  · rw [ne_eq, sameMembers]
    decide +kernel

end BlockSchema.Name
