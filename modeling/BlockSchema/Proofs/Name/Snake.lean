import BlockSchema.Name.Identifier

/-!
Contract: which characters a snake case name can have.

A name is made of the characters of its words in lower case and of underscores. The words
have alphanumeric characters only. So the ASCII characters of a name are those of external
names, and nothing is left of what separates the parts of paths and of types' names.
-/

set_option autoImplicit false

namespace BlockSchema

/-! ## Lower case -/

theorem Name.isLower_iff {character : Char} :
    character.isLower = true ↔ 'a' ≤ character ∧ character ≤ 'z' := by
  change (decide ('a' ≤ character) && decide (character ≤ 'z')) = true ↔ _
  simp

namespace Unicode

/-- Above ASCII, the sign for kelvins alone lowers into ASCII, to a letter. -/
theorem lowerCode_above {code : Nat} (above : 128 ≤ code) (valid : code.isValidChar) :
    lowerCode code = 'k'.toNat ∨ 128 ≤ lowerCode code ∧ (lowerCode code).isValidChar := by
  have targets : ∀ run ∈ loweringRuns,
      run.2.2.2 = 'k'.toNat ∧ run.1 = run.2.1 ∨
        128 ≤ run.2.2.2 ∧ (run.2.2.2 + (run.2.1 - run.1) < 0xD800 ∨
          0xDFFF < run.2.2.2 ∧ run.2.2.2 + (run.2.1 - run.1) < 0x110000) := by
    decide +kernel
  unfold lowerCode
  split
  next run found =>
    have within : run.1 ≤ code ∧ code ≤ run.2.1 := by
      have holds := List.find?_some found
      simp only [Bool.and_eq_true, decide_eq_true_eq] at holds
      exact holds.1
    rcases targets run (List.mem_of_find?_eq_some found) with ⟨kelvin, single⟩ | ⟨least, bounds⟩
    · left
      omega
    · right
      refine ⟨by omega, ?_⟩
      unfold Nat.isValidChar
      omega
  next => exact .inr ⟨above, valid⟩

/-- Above ASCII, lower case forms have two ASCII characters only, both of them letters. -/
theorem mem_lowerChars_above
    {character : Char}
    (above : 128 ≤ character.toNat)
    {lower : Char}
    (member : lower ∈ lowerChars character) :
    lower = 'i' ∨ lower = 'k' ∨ 128 ≤ lower.toNat := by
  unfold lowerChars at member
  rw [if_neg (by omega)] at member
  split at member
  next =>
    rcases List.mem_cons.mp member with rfl | isDot
    · exact .inl rfl
    · exact .inr (.inr (List.mem_singleton.mp isDot ▸ by decide))
  next =>
    obtain rfl := List.mem_singleton.mp member
    rcases lowerCode_above above character.valid with kelvin | ⟨least, valid⟩
    · exact .inr (.inl (by rw [kelvin]; rfl))
    · refine .inr (.inr ?_)
      have sameCode : (Char.ofNat (lowerCode character.toNat)).toNat =
          lowerCode character.toNat := by
        rw [Char.ofNat, dif_pos valid]
        rfl
      rwa [sameCode]

end Unicode

namespace Name

/-- A character that may stand in a snake case name: of the ASCII ones, those of external
names. -/
def IsPlain (character : Char) : Prop :=
  isExternalTail character = true ∨ 128 ≤ character.toNat

instance (character : Char) : Decidable (IsPlain character) :=
  inferInstanceAs (Decidable (_ ∨ _))

/-- What lowers from an alphanumeric character is plain, and no underscore. -/
theorem isPlain_lowerChars
    {character : Char}
    (alphanumeric : Unicode.isAlphanumeric character = true)
    {lower : Char}
    (member : lower ∈ Unicode.lowerChars character) :
    IsPlain lower ∧ lower ≠ '_' := by
  have ascii : ∀ code < 128, (Char.ofNat code).isAlphanum = true →
      IsPlain (Char.ofNat code).toLower ∧ (Char.ofNat code).toLower ≠ '_' := by
    decide +kernel
  by_cases isAscii : character.toNat < 128
  · unfold Unicode.isAlphanumeric at alphanumeric
    unfold Unicode.lowerChars at member
    rw [if_pos isAscii] at alphanumeric member
    have plain := ascii character.toNat isAscii
    rw [Char.ofNat_toNat] at plain
    exact List.mem_singleton.mp member ▸ plain alphanumeric
  · rcases Unicode.mem_lowerChars_above (by omega) member with rfl | rfl | above
    · decide
    · decide
    · refine ⟨.inr above, ?_⟩
      rintro rfl
      exact absurd above (by decide)

/-! ## Words -/

private theorem flatten_segmentWords
    {run : Run}
    {opened segment : List Char}
    (nonempty : segment ≠ []) :
    (segmentWords run opened segment).flatten = opened ++ segment := by
  fun_induction segmentWords run opened segment with
  | case1 => exact absurd rfl nonempty
  | case2 run opened last => simp
  | case3 run opened character next rest lowerThenUpper inductionHypothesis =>
      rw [List.flatten_cons, inductionHypothesis (by simp)]
      simp
  | case4 run opened character next rest _ runEnds inductionHypothesis =>
      rw [List.flatten_cons, inductionHypothesis (by simp)]
      simp
  | case5 run opened character next rest _ _ inductionHypothesis =>
      rw [inductionHypothesis (by simp)]
      simp

private theorem flatten_segments (opened text : List Char) :
    (segments opened text).flatten = opened ++ text.filter Unicode.isAlphanumeric := by
  induction text generalizing opened with
  | nil => simp [segments]
  | cons character rest inductionHypothesis =>
      rw [segments]
      split
      next alphanumeric =>
        rw [inductionHypothesis, List.filter_cons_of_pos alphanumeric]
        simp
      next separator =>
        rw [List.flatten_cons, inductionHypothesis, List.filter_cons_of_neg separator]
        rfl

/-- Put one after the other, the words are what is alphanumeric in a text. -/
theorem flatten_words (text : List Char) :
    (words text).flatten = text.filter Unicode.isAlphanumeric := by
  have ofSegment : ∀ segment, (segmentWords .fresh [] segment).flatten = segment := by
    intro segment
    cases segment with
    | nil => rfl
    | cons character rest => exact flatten_segmentWords (by simp)
  have inSegments : (words text).flatten = (segments [] text).flatten := by
    rw [words]
    generalize segments [] text = parts
    induction parts with
    | nil => rfl
    | cons segment rest inductionHypothesis =>
        rw [List.flatMap_cons, List.flatten_append, List.flatten_cons, ofSegment,
          inductionHypothesis]
  rw [inSegments, flatten_segments, List.nil_append]

theorem mem_lowerWord {word : List Char} {lower : Char} (member : lower ∈ lowerWord word) :
    lower = 'ς' ∨ ∃ character ∈ word, lower ∈ Unicode.lowerChars character := by
  fun_induction lowerWord word with
  | case1 => cases member
  | case2 => exact .inl (List.mem_singleton.mp member)
  | case3 last _ => exact .inr ⟨last, List.mem_cons_self, member⟩
  | case4 character rest _ inductionHypothesis =>
      rcases List.mem_append.mp member with ofFirst | ofRest
      · exact .inr ⟨character, List.mem_cons_self, ofFirst⟩
      · rcases inductionHypothesis ofRest with sigma | ⟨other, isOther, lowers⟩
        · exact .inl sigma
        · exact .inr ⟨other, List.mem_cons_of_mem character isOther, lowers⟩

private theorem mem_joinWords {words : List (List Char)} {character : Char}
    (member : character ∈ joinWords words) :
    character = '_' ∨ ∃ word ∈ words, character ∈ word := by
  fun_induction joinWords words with
  | case1 => cases member
  | case2 word => exact .inr ⟨word, List.mem_cons_self, member⟩
  | case3 word rest _ inductionHypothesis =>
      rcases List.mem_append.mp member with ofFirst | others
      · exact .inr ⟨word, List.mem_cons_self, ofFirst⟩
      · rcases List.mem_cons.mp others with joint | ofRest
        · exact .inl joint
        · rcases inductionHypothesis ofRest with joint | ⟨other, isOther, inside⟩
          · exact .inl joint
          · exact .inr ⟨other, List.mem_cons_of_mem word isOther, inside⟩

/-- A snake case name has plain characters only. -/
theorem isPlain_snake {text : String} {character : Char}
    (member : character ∈ (snake text).toList) :
    IsPlain character := by
  rw [snake, String.toList_ofList] at member
  rcases mem_joinWords member with rfl | ⟨_, isLowered, inWord⟩
  · decide
  · obtain ⟨word, isSourceWord, rfl⟩ := List.mem_map.mp isLowered
    rcases mem_lowerWord inWord with rfl | ⟨source, isSource, lowers⟩
    · decide
    · have inText : source ∈ (words text.toList).flatten :=
        List.mem_flatten.mpr ⟨word, isSourceWord, isSource⟩
      rw [flatten_words] at inText
      exact (isPlain_lowerChars (List.mem_filter.mp inText).2 lowers).1

end Name

end BlockSchema
