import BlockSchema.Proofs.Name.Member
import Mathlib.Data.List.Chain

/-!
Contract: the one form that external names have.

An external name is its words put together by single underscores, so none stands at an end or
beside another one, and without them the words are left. A valid external name has lower case
ASCII words, which are split and lowered to themselves: its own external name is the same.
-/

set_option autoImplicit false

namespace BlockSchema.Name

/-! ## Words put together -/

section Joined

variable {words : List (List Char)}

private theorem head?_joinWords (nonempty : ∀ word ∈ words, word ≠ []) :
    (joinWords words).head? = words.flatten.head? := by
  fun_cases joinWords words with
  | case1 => rfl
  | case2 word => simp
  | case3 word rest _ =>
      obtain ⟨first, later, rfl⟩ :=
        List.exists_cons_of_ne_nil (nonempty word List.mem_cons_self)
      rfl

/-- Without the underscores, the words are left. -/
theorem filter_joinWords (without : ∀ word ∈ words, '_' ∉ word) :
    (joinWords words).filter (· ≠ '_') = words.flatten := by
  have kept : ∀ word ∈ words, word.filter (· ≠ '_') = word := by
    intro word member
    rw [List.filter_eq_self]
    intro character inside
    exact decide_eq_true fun isJoint => without word member (isJoint ▸ inside)
  fun_induction joinWords words with
  | case1 => rfl
  | case2 word => rw [kept word List.mem_cons_self, List.flatten_singleton]
  | case3 word rest _ inductionHypothesis =>
      obtain ⟨keptWord, keptRest⟩ := List.forall_mem_cons.mp kept
      obtain ⟨_, withoutRest⟩ := List.forall_mem_cons.mp without
      rw [List.filter_append, keptWord, List.filter_cons_of_neg (by simp),
        inductionHypothesis withoutRest keptRest, List.flatten_cons]

/-- Of two characters one after the other, one is no underscore. -/
theorem isChain_joinWords
    (nonempty : ∀ word ∈ words, word ≠ [])
    (without : ∀ word ∈ words, '_' ∉ word) :
    (joinWords words).IsChain fun left right => left ≠ '_' ∨ right ≠ '_' := by
  have within : ∀ word ∈ words, word.IsChain fun left right => left ≠ '_' ∨ right ≠ '_' := by
    intro word member
    refine (List.pairwise_of_forall_mem_list fun left inside _ _ => .inl ?_).isChain
    rintro rfl
    exact without word member inside
  fun_induction joinWords words with
  | case1 => exact .nil
  | case2 word => exact within word List.mem_cons_self
  | case3 word rest _ inductionHypothesis =>
      obtain ⟨chainWord, chainRest⟩ := List.forall_mem_cons.mp within
      obtain ⟨_, nonemptyRest⟩ := List.forall_mem_cons.mp nonempty
      obtain ⟨withoutWord, withoutRest⟩ := List.forall_mem_cons.mp without
      refine List.isChain_append.mpr ⟨chainWord, List.isChain_cons.mpr ⟨?_, ?_⟩, ?_⟩
      · -- After the joint comes the first character of the next word.
        intro next isNext
        rw [head?_joinWords nonemptyRest] at isNext
        obtain ⟨other, isOther, inside⟩ := List.mem_flatten.mp (List.mem_of_head? isNext)
        right
        rintro rfl
        exact withoutRest other isOther inside
      · exact inductionHypothesis nonemptyRest withoutRest chainRest
      · intro last isLast _ _
        left
        rintro rfl
        exact withoutWord (List.mem_of_getLast? isLast)

end Joined

/-! ## Names in ASCII -/

private theorem lower_ascii {character : Char} (isAscii : character.toNat < 128)
    (alphanumeric : character.isAlphanum = true) :
    isExternalTail character.toLower = true ∧ character.toLower ≠ '_' ∧
      character.toLower.isLower = character.isAlpha := by
  have codes : ∀ code < 128, (Char.ofNat code).isAlphanum = true →
      isExternalTail (Char.ofNat code).toLower = true ∧ (Char.ofNat code).toLower ≠ '_' ∧
        (Char.ofNat code).toLower.isLower = (Char.ofNat code).isAlpha := by
    decide +kernel
  have holds := codes character.toNat isAscii
  rw [Char.ofNat_toNat] at holds
  exact holds alphanumeric

private theorem lowerWord_ascii
    {word : List Char}
    (isAscii : ∀ character ∈ word, character.toNat < 128) :
    lowerWord word = word.map Char.toLower := by
  fun_induction lowerWord word with
  | case1 => rfl
  | case2 => exact absurd (isAscii 'Σ' List.mem_cons_self) (by decide)
  | case3 last _ =>
      rw [Unicode.lowerChars, if_pos (isAscii last List.mem_cons_self)]
      rfl
  | case4 character rest _ inductionHypothesis =>
      obtain ⟨isAsciiFirst, isAsciiRest⟩ := List.forall_mem_cons.mp isAscii
      rw [Unicode.lowerChars, if_pos isAsciiFirst, inductionHypothesis isAsciiRest]
      rfl

/-- The words of an ASCII text in lower case are what is alphanumeric in it, in lower case. -/
theorem flatten_lowered_ascii
    {text : List Char}
    (isAscii : ∀ character ∈ text, character.toNat < 128) :
    ((words text).map lowerWord).flatten = (text.filter Char.isAlphanum).map Char.toLower := by
  have sameAlphanumeric : text.filter Unicode.isAlphanumeric = text.filter Char.isAlphanum :=
    List.filter_congr fun character member => if_pos (isAscii character member)
  have asciiWord : ∀ word ∈ words text, lowerWord word = word.map Char.toLower := by
    intro word isWord
    refine lowerWord_ascii fun character inside => isAscii character ?_
    have inText : character ∈ (words text).flatten :=
      List.mem_flatten.mpr ⟨word, isWord, inside⟩
    rw [flatten_words] at inText
    exact List.mem_of_mem_filter inText
  rw [List.map_congr_left asciiWord, ← List.map_flatten, flatten_words, sameAlphanumeric]

/-- A text of lower case ASCII letters, digits and single underscores between them. -/
structure IsCanonical (name : String) : Prop where
  plain : ∀ character ∈ name.toList, isExternalTail character = true
  noLeading : name.toList.head? ≠ some '_'
  noTrailing : name.toList.getLast? ≠ some '_'
  noDoubled : ¬ ['_', '_'] <:+: name.toList

section Ascii

variable {name : String}

/-- An external name without its underscores is the alphanumeric part of the declared name in
lower case. -/
theorem filter_external (isAscii : ∀ character ∈ name.toList, character.toNat < 128) :
    (external name).toList.filter (· ≠ '_') =
      (name.toList.filter Char.isAlphanum).map Char.toLower := by
  rw [external, snake, String.toList_ofList, snakeChars,
    filter_joinWords fun _ isLowered => (lowered_word isLowered).2, flatten_lowered_ascii isAscii]

private theorem head?_external (isAscii : ∀ character ∈ name.toList, character.toNat < 128) :
    (external name).toList.head? = (name.toList.find? Char.isAlphanum).map Char.toLower := by
  rw [external, snake, String.toList_ofList, snakeChars,
    head?_joinWords fun _ isLowered => (lowered_word isLowered).1, flatten_lowered_ascii isAscii,
    List.head?_map, List.head?_filter]

theorem isCanonical_external (isAscii : ∀ character ∈ name.toList, character.toNat < 128) :
    IsCanonical (external name) where
  plain := by
    intro character member
    by_cases isJoint : character = '_'
    · rw [isJoint]
      decide
    · have kept : character ∈ (external name).toList.filter (· ≠ '_') :=
        List.mem_filter.mpr ⟨member, decide_eq_true isJoint⟩
      rw [filter_external isAscii] at kept
      obtain ⟨source, isSource, rfl⟩ := List.mem_map.mp kept
      obtain ⟨inName, alphanumeric⟩ := List.mem_filter.mp isSource
      exact (lower_ascii (isAscii source inName) alphanumeric).1
  noLeading := by
    rw [head?_external isAscii]
    intro isJoint
    obtain ⟨source, isSource, lowers⟩ := Option.map_eq_some_iff.mp isJoint
    have inName := isAscii source (List.mem_of_find?_eq_some isSource)
    exact (lower_ascii inName (List.find?_some isSource)).2.1 lowers
  noTrailing := snake_getLast? name
  noDoubled doubled := by
    rw [external, snake, String.toList_ofList] at doubled
    have chain : (snakeChars name.toList).IsChain fun left right => left ≠ '_' ∨ right ≠ '_' :=
      isChain_joinWords (fun _ isLowered => (lowered_word isLowered).1)
        fun _ isLowered => (lowered_word isLowered).2
    simpa using chain.infix doubled

/-- The external name of an ASCII text is valid when the first thing alphanumeric in the text
is a letter. -/
theorem isExternal_external_iff (isAscii : ∀ character ∈ name.toList, character.toNat < 128) :
    isExternal (external name) = true ↔
      ∃ first, name.toList.find? Char.isAlphanum = some first ∧ first.isAlpha = true := by
  have begins := head?_external isAscii
  have plain := (isCanonical_external isAscii).plain
  rw [isExternal]
  cases found : name.toList.find? Char.isAlphanum with
  | none =>
      rw [found, Option.map_none, List.head?_eq_none_iff] at begins
      simp [begins, isExternalChars]
  | some first =>
      rw [found, Option.map_some] at begins
      obtain ⟨rest, isCons⟩ := List.head?_eq_some_iff.mp begins
      rw [isCons] at plain
      have isLetter : first.toLower.isLower = first.isAlpha :=
        (lower_ascii (isAscii first (List.mem_of_find?_eq_some found)) (List.find?_some found)).2.2
      have tails : rest.all isExternalTail = true :=
        List.all_eq_true.mpr (List.forall_mem_cons.mp plain).2
      simp [isCons, isExternalChars, isLetter, tails]

end Ascii

/-! ## Names of names -/

/-- What is in the words of a valid external name belongs to words and is lower case. -/
theorem settled_of_tail
    {character : Char}
    (tail : isExternalTail character = true)
    (noJoint : character ≠ '_') :
    Unicode.isAlphanumeric character = true ∧ Unicode.isUppercase character = false ∧
      Unicode.lowerChars character = [character] ∧ character ≠ 'Σ' := by
  have isAscii : character.toNat < 128 := by
    simp only [isExternalTail, Bool.or_eq_true, isLower_iff, beq_iff_eq, noJoint, or_false] at tail
    rcases tail with ⟨_, isLetter⟩ | isDigit
    · exact Nat.lt_of_le_of_lt (UInt32.le_iff_toNat_le.mp isLetter) (by decide)
    · by_contra above
      rw [isDigit_of_above (Nat.not_lt.mp above)] at isDigit
      cases isDigit
  have codes : ∀ code < 128, isExternalTail (Char.ofNat code) = true → Char.ofNat code ≠ '_' →
      Unicode.isAlphanumeric (Char.ofNat code) = true ∧
        Unicode.isUppercase (Char.ofNat code) = false ∧
        Unicode.lowerChars (Char.ofNat code) = [Char.ofNat code] ∧ Char.ofNat code ≠ 'Σ' := by
    decide +kernel
  have holds := codes character.toNat isAscii
  rw [Char.ofNat_toNat] at holds
  exact holds tail noJoint

private theorem segments_append
    {word : List Char}
    (alphanumeric : ∀ character ∈ word, Unicode.isAlphanumeric character = true)
    (opened rest : List Char) :
    segments opened (word ++ rest) = segments (opened ++ word) rest := by
  induction word generalizing opened with
  | nil => rw [List.append_nil, List.nil_append]
  | cons character later inductionHypothesis =>
      obtain ⟨isAlphanumeric, alphanumericLater⟩ := List.forall_mem_cons.mp alphanumeric
      rw [List.cons_append, segments, if_pos isAlphanumeric, inductionHypothesis alphanumericLater,
        List.append_assoc, List.singleton_append]

/-- Splitting takes apart what was put together. -/
theorem segments_joinWords
    {words : List (List Char)}
    (given : words ≠ [])
    (alphanumeric : ∀ word ∈ words, ∀ character ∈ word,
      Unicode.isAlphanumeric character = true) :
    segments [] (joinWords words) = words := by
  fun_induction joinWords words with
  | case1 => exact absurd rfl given
  | case2 word =>
      have alone := segments_append (alphanumeric word List.mem_cons_self) [] []
      rw [List.append_nil, List.nil_append] at alone
      exact alone
  | case3 word rest more inductionHypothesis =>
      obtain ⟨alphanumericWord, alphanumericRest⟩ := List.forall_mem_cons.mp alphanumeric
      rw [segments_append alphanumericWord, List.nil_append, segments, if_neg (by decide),
        inductionHypothesis more alphanumericRest]

/-- Without upper case letters a segment is one word. -/
theorem segmentWords_of_noUpper
    {run : Run}
    {opened segment : List Char}
    (given : segment ≠ [])
    (noUpper : ∀ character ∈ segment, Unicode.isUppercase character = false) :
    segmentWords run opened segment = [opened ++ segment] := by
  fun_induction segmentWords run opened segment with
  | case1 => exact absurd rfl given
  | case2 => rfl
  | case3 run opened character next rest boundary =>
      have lowerNext := noUpper next (by simp)
      simp [boundary.2] at lowerNext
  | case4 run opened character next rest _ boundary =>
      have lowerFirst := noUpper character (by simp)
      simp [boundary.2.1] at lowerFirst
  | case5 run opened character next rest _ _ inductionHypothesis =>
      rw [inductionHypothesis (by simp) (List.forall_mem_cons.mp noUpper).2, List.append_assoc,
        List.singleton_append]

private theorem lowerWord_of_settled
    {word : List Char}
    (settled : ∀ character ∈ word,
      Unicode.lowerChars character = [character] ∧ character ≠ 'Σ') :
    lowerWord word = word := by
  fun_induction lowerWord word with
  | case1 => rfl
  | case2 => exact absurd rfl (settled 'Σ' List.mem_cons_self).2
  | case3 last _ => exact (settled last List.mem_cons_self).1
  | case4 character rest _ inductionHypothesis =>
      obtain ⟨settledFirst, settledRest⟩ := List.forall_mem_cons.mp settled
      rw [settledFirst.1, inductionHypothesis settledRest, List.singleton_append]

/-- Words of lower case ASCII letters and digits that are put together are found again as they
are. -/
theorem snakeChars_joinWords
    {parts : List (List Char)}
    (given : parts ≠ [])
    (nonempty : ∀ word ∈ parts, word ≠ [])
    (without : ∀ word ∈ parts, '_' ∉ word)
    (tails : ∀ word ∈ parts, ∀ character ∈ word, isExternalTail character = true) :
    snakeChars (joinWords parts) = joinWords parts := by
  have settled : ∀ word ∈ parts, ∀ character ∈ word,
      Unicode.isAlphanumeric character = true ∧ Unicode.isUppercase character = false ∧
        Unicode.lowerChars character = [character] ∧ character ≠ 'Σ' := by
    intro word isWord character inside
    refine settled_of_tail (tails word isWord character inside) ?_
    rintro rfl
    exact without word isWord inside
  have whole : ∀ word ∈ parts, segmentWords .fresh [] word = [word] := fun word isWord =>
    segmentWords_of_noUpper (nonempty word isWord) fun character inside =>
      (settled word isWord character inside).2.1
  have lowered : ∀ word ∈ parts, lowerWord word = word := fun word isWord =>
    lowerWord_of_settled fun character inside => (settled word isWord character inside).2.2
  have found : words (joinWords parts) = parts := by
    rw [words, segments_joinWords given fun word isWord character inside =>
      (settled word isWord character inside).1]
    exact (List.flatMap_congr whole).trans (List.flatMap_singleton' parts)
  rw [snakeChars, found, List.map_congr_left lowered, List.map_id']

private theorem isExternalTail_of_isExternal
    {name : String}
    (valid : isExternal name = true)
    {character : Char}
    (member : character ∈ name.toList) :
    isExternalTail character = true := by
  unfold isExternal at valid
  cases given : name.toList with
  | nil =>
      rw [given] at member
      cases member
  | cons first rest =>
      rw [given] at valid member
      rw [isExternalChars, Bool.and_eq_true, List.all_eq_true] at valid
      rcases List.mem_cons.mp member with rfl | later
      · rw [isExternalTail, valid.1, Bool.true_or, Bool.true_or]
      · exact valid.2 character later

/-- A valid external name is its own external name. -/
theorem external_external {name : String} (valid : isExternal (external name) = true) :
    external (external name) = external name := by
  have parts : (external name).toList = joinWords ((words name.toList).map lowerWord) := by
    rw [external, snake, String.toList_ofList, snakeChars]
  have nonempty : ∀ word ∈ (words name.toList).map lowerWord, word ≠ [] :=
    fun _ isLowered => (lowered_word isLowered).1
  have without : ∀ word ∈ (words name.toList).map lowerWord, '_' ∉ word :=
    fun _ isLowered => (lowered_word isLowered).2
  have given : (words name.toList).map lowerWord ≠ [] := by
    intro isEmpty
    rw [isEmpty] at parts
    rw [isExternal, parts] at valid
    cases valid
  have tails : ∀ word ∈ (words name.toList).map lowerWord, ∀ character ∈ word,
      isExternalTail character = true := by
    intro word isWord character inside
    have inParts := List.mem_flatten.mpr ⟨word, isWord, inside⟩
    rw [← filter_joinWords without, ← parts] at inParts
    exact isExternalTail_of_isExternal valid (List.mem_of_mem_filter inParts)
  have settled := snakeChars_joinWords given nonempty without tails
  rw [← parts] at settled
  change String.ofList (snakeChars (external name).toList) = external name
  rw [settled, String.ofList_toList]

end BlockSchema.Name
