import BlockSchema.Document.Json.Token
import BlockSchema.Document.Json.Writer
import Mathlib.Tactic.IntervalCases

/-!
Contract: the tokens of written JSON text.

The text of a document has the tokens that spell the document, in both layouts and whatever
follows the text, as long as nothing follows a number that would continue it.
-/

set_option autoImplicit false

namespace BlockSchema

/-! ## Documents that are written without loss -/

/-- A number that is written by plain digits: a natural number of the machine's range or the
real zero. -/
def Number.IsPlain : Number → Prop
  | .int value => 0 ≤ value ∧ value ≤ Number.maxWord
  | .real value => value = .zero

/-- All numbers are plain, and no object has a key twice. -/
inductive Document.Regular : Document → Prop where
  | null : Regular .null
  | bool (value : Bool) : Regular (.bool value)
  | number {value : Number} (plain : value.IsPlain) : Regular (.number value)
  | text (value : String) : Regular (.text value)
  | list {items : List Document} (each : ∀ item ∈ items, Regular item) : Regular (.list items)
  | object
      {entries : List (String × Document)}
      (distinct : (Entries.keys entries).Nodup)
      (each : ∀ entry ∈ entries, Regular entry.2) :
      Regular (.object entries)

namespace Json

/-! ## The tokens that spell a document -/

mutual

def documentTokens : Document → List Token
  | .null => [.null]
  | .bool value => [.bool value]
  | .number value => [.number value]
  | .text value => [.text value]
  | .list [] => [.openList, .closeList]
  | .list (item :: rest) => .openList :: documentTokens item ++ itemTokens rest
  | .object [] => [.openObject, .closeObject]
  | .object ((key, value) :: rest) =>
      .openObject :: .text key :: .colon :: documentTokens value ++ entryTokens rest

/-- The tokens of the items after the first one, and of the end of the list. -/
def itemTokens : List Document → List Token
  | [] => [.closeList]
  | item :: rest => .comma :: documentTokens item ++ itemTokens rest

/-- The tokens of the entries after the first one, and of the end of the object. -/
def entryTokens : List (String × Document) → List Token
  | [] => [.closeObject]
  | (key, value) :: rest =>
      .comma :: .text key :: .colon :: documentTokens value ++ entryTokens rest

end

/-! ## Blanks -/

theorem tokensFrom_blanks
    {blanks : List Char}
    (areBlank : ∀ character ∈ blanks, isBlank character = true)
    (rest : List Char) :
    tokensFrom .between (blanks ++ rest) = tokensFrom .between rest := by
  induction blanks with
  | nil => rfl
  | cons blank later inductionHypothesis =>
      have skips : step .between blank = ([], .between) := by
        have isFirst := areBlank blank List.mem_cons_self
        simp [step, start, isFirst]
      rw [List.cons_append, tokensFrom, skips]
      exact inductionHypothesis fun character member =>
        areBlank character (List.mem_cons_of_mem blank member)

private theorem tokensFrom_breakLine (indented : Bool) (depth : Nat) (rest : List Char) :
    tokensFrom .between (breakLine indented depth ++ rest) = tokensFrom .between rest := by
  apply tokensFrom_blanks
  intro character member
  cases indented with
  | false => cases member
  | true =>
      rcases List.mem_cons.mp member with rfl | isSpace
      · rfl
      · rw [List.eq_of_mem_replicate isSpace]
        rfl

/-! ## Text -/

/-- The code of a control is read back from its two hexadecimal digits. -/
theorem tokensFrom_code (code : Nat) (isControl : code < 32) (before rest : List Char) :
    tokensFrom (.text before)
        (['\\', 'u', '0', '0', if code < 16 then '0' else '1', Nat.digitChar (code % 16)] ++
          rest) =
      tokensFrom (.text (Char.ofNat code :: before)) rest := by
  interval_cases code <;> rfl

private theorem tokensFrom_stringChar (character : Char) (before rest : List Char) :
    tokensFrom (.text before) (stringChar character ++ rest) =
      tokensFrom (.text (character :: before)) rest := by
  by_cases lettered : character ∈ ['"', '\\', '\n', '\r', '\t', '\x08', '\x0c']
  · simp only [List.mem_cons, List.not_mem_nil, or_false] at lettered
    rcases lettered with rfl | rfl | rfl | rfl | rfl | rfl | rfl <;> rfl
  · simp only [List.mem_cons, List.not_mem_nil, or_false, not_or] at lettered
    obtain ⟨quote, backslash, newline, feed, tab, back, form⟩ := lettered
    rw [stringChar, if_neg quote, if_neg backslash, if_neg newline, if_neg feed, if_neg tab,
      if_neg back, if_neg form]
    by_cases control : character.toNat < 32
    · have reads := tokensFrom_code character.toNat control before rest
      rw [Char.ofNat_toNat] at reads
      rw [if_pos control]
      exact reads
    · have stays : step (.text before) character = ([], .text (character :: before)) := by
        simp only [step, if_neg quote, if_neg backslash, if_neg control]
      rw [if_neg control, List.singleton_append, tokensFrom, stays]
      rfl

private theorem tokensFrom_stringChars (text : String) (rest : List Char) :
    tokensFrom .between (stringChars text ++ rest) =
      .text text :: tokensFrom .between rest := by
  have inside : ∀ characters before : List Char,
      tokensFrom (.text before) (characters.flatMap stringChar ++ '"' :: rest) =
        .text (String.ofList (before.reverse ++ characters)) :: tokensFrom .between rest := by
    intro characters
    induction characters with
    | nil =>
        intro before
        rw [List.append_nil]
        rfl
    | cons character later inductionHypothesis =>
        intro before
        rw [List.flatMap_cons, List.append_assoc, tokensFrom_stringChar, inductionHypothesis,
          List.reverse_cons, List.append_assoc]
        rfl
  have opened := inside text.toList []
  rw [List.reverse_nil, List.nil_append, String.ofList_toList] at opened
  rw [stringChars, List.cons_append, List.cons_append, List.append_assoc]
  exact opened

/-! ## Numbers -/

/-- A text with which no number literal goes on. -/
def EndsNumber (rest : List Char) : Prop :=
  ∀ character ∈ rest.head?, character ∈ [',', ']', '\x7d', '\n']

private theorem EndsNumber.cons
    {character : Char}
    (ends : character ∈ [',', ']', '\x7d', '\n'])
    (rest : List Char) :
    EndsNumber (character :: rest) := by
  intro first isFirst
  obtain rfl := Option.some.inj isFirst
  exact ends

/-- A finished literal becomes its token before a text that does not continue it. -/
theorem tokensFrom_finished
    {draft : NumberDraft}
    (finished : draft.stage = .zero ∨ draft.stage = .whole ∨ draft.stage = .fraction)
    {value : Number}
    (means : draft.token = .number value)
    {rest : List Char}
    (ends : EndsNumber rest) :
    tokensFrom (.number draft) rest = .number value :: tokensFrom .between rest := by
  cases rest with
  | nil =>
      change [draft.token] = _
      rw [means]
      rfl
  | cons character later =>
      have isEnd := ends character rfl
      have stops : draft.step character = .ended := by
        simp only [List.mem_cons, List.not_mem_nil, or_false] at isEnd
        rcases isEnd with rfl | rfl | rfl | rfl <;> rcases finished with stage | stage | stage <;>
          rw [NumberDraft.step, stage] <;> rfl
      simp only [tokensFrom, step, stops, means]
      rfl

/-- A run of digits extends the whole part of a literal. -/
theorem tokensFrom_digits
    {digits : List Char}
    (areDigits : ∀ digit ∈ digits, digit.isDigit = true)
    (gathered : List Nat)
    (rest : List Char) :
    tokensFrom (.number ⟨.whole, false, gathered, [], false, []⟩) (digits ++ rest) =
      tokensFrom
        (.number ⟨.whole, false, (digits.map digitValue).reverse ++ gathered, [], false, []⟩)
        rest := by
  induction digits generalizing gathered with
  | nil => rfl
  | cons digit later inductionHypothesis =>
      have isDigit := areDigits digit List.mem_cons_self
      have longer : step (.number ⟨.whole, false, gathered, [], false, []⟩) digit =
          ([], .number ⟨.whole, false, digitValue digit :: gathered, [], false, []⟩) := by
        simp only [step, NumberDraft.step, isDigit, if_true]
      rw [List.cons_append, tokensFrom, longer, List.nil_append,
        inductionHypothesis (fun other member => areDigits other (List.mem_cons_of_mem _ member)),
        List.map_cons, List.reverse_cons, List.append_assoc]
      rfl

/-- Digits of a number that fits a machine word are gathered to the end. -/
theorem gatherWhole_eq
    (digits : List Nat)
    (gathered : Nat)
    (fits : digits.foldl (fun value digit => value * 10 + digit) gathered ≤ Number.maxWord) :
    Number.gatherWhole gathered digits =
      (digits.foldl (fun value digit => value * 10 + digit) gathered, 0) := by
  have grows : ∀ (digits : List Nat) (gathered : Nat),
      gathered ≤ digits.foldl (fun value digit => value * 10 + digit) gathered := by
    intro digits
    induction digits with
    | nil => exact fun gathered => Nat.le_refl gathered
    | cons digit later inductionHypothesis =>
        intro gathered
        have further := inductionHypothesis (gathered * 10 + digit)
        rw [List.foldl_cons]
        omega
  induction digits generalizing gathered with
  | nil => rfl
  | cons digit later inductionHypothesis =>
      have first : gathered * 10 + digit ≤ Number.maxWord := Nat.le_trans (grows later _) fits
      rw [Number.gatherWhole, if_pos first, inductionHypothesis _ fits]
      rfl

/-- The digits of a natural number give it back. -/
theorem natOfDigits_toDigits (value : Nat) :
    Number.natOfDigits ((Nat.toDigits 10 value).map digitValue) = value := by
  have reads : Nat.ofDigitChars 10 (Nat.toDigits 10 value) 0 = value :=
    Nat.ofDigitChars_ten_toDigits
  simp only [Nat.ofDigitChars, Nat.mul_comm 10] at reads
  rw [Number.natOfDigits, List.foldl_map]
  exact reads

/-- The digits of a positive number do not begin with a zero. -/
theorem toDigits_ne_zero_cons
    (value : Nat)
    (positive : 0 < value)
    (later : List Char) :
    Nat.toDigits 10 value ≠ '0' :: later := by
  induction value using Nat.strong_induction_on generalizing later with
  | h value inductionHypothesis =>
      rw [Nat.toDigits_eq_if (by decide)]
      split
      case isTrue small =>
        intro begins
        have isZero := Nat.digitChar_eq_zero.mp (List.cons.inj begins).1
        omega
      case isFalse large =>
        intro begins
        rcases List.append_eq_cons_iff.mp begins with ⟨empty, _⟩ | ⟨others, shorter, _⟩
        · exact Nat.toDigits_ne_nil empty
        · exact inductionHypothesis (value / 10) (by omega) (by omega) others shorter

/-- A literal begins at a digit other than zero. -/
theorem start_digit
    {digit : Char}
    (isDigit : digit.isDigit = true)
    (notZero : digit ≠ '0') :
    start digit = ([], .number ⟨.whole, false, [digitValue digit], [], false, []⟩) := by
  have apart : ∀ other : Char, other.isDigit = false → digit ≠ other := by
    rintro other noDigit rfl
    rw [isDigit] at noDigit
    cases noDigit
  simp [start, isBlank, apart, notZero, isDigit]

private theorem NumberDraft.token_whole
    {digits : List Nat}
    {value : Nat}
    (gathers : Number.gatherWhole 0 digits = (value, 0)) :
    NumberDraft.token ⟨.whole, false, digits.reverse, [], false, []⟩ = .number (.int value) := by
  simp [NumberDraft.token, Number.Literal.value?, gathers]

private theorem tokensFrom_toDigits
    {value : Nat}
    (fits : value ≤ Number.maxWord)
    {rest : List Char}
    (ends : EndsNumber rest) :
    tokensFrom .between (Nat.toDigits 10 value ++ rest) =
      .number (.int value) :: tokensFrom .between rest := by
  -- A zero at the front ends the whole part, so the number zero is read by a stage of its own.
  rcases Nat.eq_zero_or_pos value with rfl | positive
  · exact tokensFrom_finished (.inl rfl) rfl ends
  · have areDigits : ∀ digit ∈ Nat.toDigits 10 value, digit.isDigit = true :=
      fun digit member => Nat.isDigit_of_mem_toDigits (by decide) (by decide) member
    have notZero := toDigits_ne_zero_cons value positive
    have reads := natOfDigits_toDigits value
    have gathers := gatherWhole_eq _ 0 (Nat.le_trans (Nat.le_of_eq reads) fits)
    rw [← Number.natOfDigits, reads] at gathers
    cases digits : Nat.toDigits 10 value with
    | nil => exact absurd digits Nat.toDigits_ne_nil
    | cons first later =>
        rw [digits] at areDigits notZero gathers
        have opens := start_digit (areDigits first List.mem_cons_self)
          fun isZero => notZero later (congrArg (· :: later) isZero)
        rw [List.cons_append, tokensFrom, step, opens, List.nil_append,
          tokensFrom_digits fun other member => areDigits other (List.mem_cons_of_mem _ member),
          ← List.reverse_cons, ← List.map_cons]
        exact tokensFrom_finished (.inr (.inl rfl)) (NumberDraft.token_whole gathers) ends

private theorem tokensFrom_numberChars
    {value : Number}
    (plain : value.IsPlain)
    {rest : List Char}
    (ends : EndsNumber rest) :
    tokensFrom .between (numberChars value ++ rest) =
      .number value :: tokensFrom .between rest := by
  cases value with
  | int value =>
      obtain ⟨natural, fits⟩ := plain
      obtain ⟨value, rfl⟩ := Int.eq_ofNat_of_zero_le natural
      have digits : numberChars (.int value) = Nat.toDigits 10 value := by
        change (toString value).toList = _
        rw [Nat.toString_eq_ofList_toDigits, String.toList_ofList]
      rw [digits]
      exact tokensFrom_toDigits (Int.ofNat_le.mp fits) ends
  | real value =>
      obtain rfl : value = .zero := plain
      have digits : numberChars (.real .zero) = ['0', '.', '0'] := by decide
      rw [digits]
      have means : NumberDraft.token ⟨.fraction, false, [0], [0], false, []⟩ =
          .number (.real .zero) := by
        decide +kernel
      exact tokensFrom_finished (.inr (.inr rfl)) means ends

/-! ## Documents -/

/-- In both layouts the text of a document has the tokens that spell it, whatever follows. -/
def IsSpelled (document : Document) : Prop :=
  ∀ (indented : Bool) (depth : Nat) (rest : List Char), EndsNumber rest →
    tokensFrom .between (documentChars indented depth document ++ rest) =
      documentTokens document ++ tokensFrom .between rest

/-- A bracket or a comma ends a number, after a line break as well as without one. -/
theorem EndsNumber.breakLine
    (indented : Bool)
    (depth : Nat)
    {character : Char}
    (ends : character ∈ [',', ']', '\x7d', '\n'])
    (rest : List Char) :
    EndsNumber (breakLine indented depth ++ character :: rest) := by
  cases indented with
  | false => exact .cons ends rest
  | true => exact .cons (by decide) _

private theorem itemsChars_endsNumber
    (indented : Bool)
    (depth : Nat)
    (items : List Document)
    (rest : List Char) :
    EndsNumber (itemsChars indented depth items ++ rest) := by
  cases items with
  | nil =>
      rw [itemsChars, List.append_assoc]
      exact .breakLine indented depth (by decide) rest
  | cons item later => exact .cons (by decide) _

/-- An item and what stands after it, once the opening bracket or a comma is read. -/
theorem IsSpelled.beforeItems
    {item : Document}
    (spelled : IsSpelled item)
    {indented : Bool}
    {depth : Nat}
    {later : List Document}
    {rest : List Char}
    (others : tokensFrom .between (itemsChars indented depth later ++ rest) =
      itemTokens later ++ tokensFrom .between rest) :
    tokensFrom .between
        (breakLine indented (depth + 1) ++ documentChars indented (depth + 1) item ++
          itemsChars indented depth later ++ rest) =
      documentTokens item ++ itemTokens later ++ tokensFrom .between rest := by
  have first := spelled indented (depth + 1) _ (itemsChars_endsNumber indented depth later rest)
  rw [List.append_assoc, List.append_assoc, tokensFrom_breakLine, first, others,
    List.append_assoc]

private theorem tokensFrom_itemsChars
    (indented : Bool)
    (depth : Nat)
    {items : List Document}
    (each : ∀ item ∈ items, IsSpelled item)
    (rest : List Char) :
    tokensFrom .between (itemsChars indented depth items ++ rest) =
      itemTokens items ++ tokensFrom .between rest := by
  induction items with
  | nil =>
      rw [itemsChars, List.append_assoc, tokensFrom_breakLine]
      rfl
  | cons item later inductionHypothesis =>
      have others := inductionHypothesis fun other member =>
        each other (List.mem_cons_of_mem item member)
      have read := (each item List.mem_cons_self).beforeItems others
      exact congrArg (List.cons Token.comma) read

private theorem IsSpelled.list {items : List Document} (each : ∀ item ∈ items, IsSpelled item) :
    IsSpelled (.list items) := by
  intro indented depth rest ends
  cases items with
  | nil => rfl
  | cons item later =>
      have others := tokensFrom_itemsChars indented depth
        (fun other member => each other (List.mem_cons_of_mem item member)) rest
      have read := (each item List.mem_cons_self).beforeItems others
      exact congrArg (List.cons Token.openList) read

private theorem tokensFrom_colon (indented : Bool) (rest : List Char) :
    tokensFrom .between ((if indented then [':', ' '] else [':']) ++ rest) =
      .colon :: tokensFrom .between rest := by
  cases indented <;> rfl

private theorem entriesChars_endsNumber
    (indented : Bool)
    (depth : Nat)
    (entries : List (String × Document))
    (rest : List Char) :
    EndsNumber (entriesChars indented depth entries ++ rest) := by
  cases entries with
  | nil =>
      rw [entriesChars, List.append_assoc]
      exact .breakLine indented depth (by decide) rest
  | cons entry later => exact .cons (by decide) _

/-- An entry and what stands after it, once the opening brace or a comma is read. -/
theorem IsSpelled.beforeEntries
    {value : Document}
    (spelled : IsSpelled value)
    (key : String)
    {indented : Bool}
    {depth : Nat}
    {later : List (String × Document)}
    {rest : List Char}
    (others : tokensFrom .between (entriesChars indented depth later ++ rest) =
      entryTokens later ++ tokensFrom .between rest) :
    tokensFrom .between
        (breakLine indented (depth + 1) ++ stringChars key ++
          (if indented then [':', ' '] else [':']) ++ documentChars indented (depth + 1) value ++
          entriesChars indented depth later ++ rest) =
      .text key :: .colon :: documentTokens value ++ entryTokens later ++
        tokensFrom .between rest := by
  have first := spelled indented (depth + 1) _ (entriesChars_endsNumber indented depth later rest)
  simp only [List.append_assoc, List.cons_append]
  rw [tokensFrom_breakLine, tokensFrom_stringChars, tokensFrom_colon, first, others]

private theorem tokensFrom_entriesChars
    (indented : Bool)
    (depth : Nat)
    {entries : List (String × Document)}
    (each : ∀ entry ∈ entries, IsSpelled entry.2)
    (rest : List Char) :
    tokensFrom .between (entriesChars indented depth entries ++ rest) =
      entryTokens entries ++ tokensFrom .between rest := by
  induction entries with
  | nil =>
      rw [entriesChars, List.append_assoc, tokensFrom_breakLine]
      rfl
  | cons entry later inductionHypothesis =>
      have others := inductionHypothesis fun other member =>
        each other (List.mem_cons_of_mem entry member)
      have read := (each entry List.mem_cons_self).beforeEntries entry.1 others
      exact congrArg (List.cons Token.comma) read

private theorem IsSpelled.object
    {entries : List (String × Document)}
    (each : ∀ entry ∈ entries, IsSpelled entry.2) :
    IsSpelled (.object entries) := by
  intro indented depth rest ends
  cases entries with
  | nil => rfl
  | cons entry later =>
      have others := tokensFrom_entriesChars indented depth
        (fun other member => each other (List.mem_cons_of_mem entry member)) rest
      have read := (each entry List.mem_cons_self).beforeEntries entry.1 others
      exact congrArg (List.cons Token.openObject) read

/-- A regular document is spelled by its text. -/
theorem isSpelled_of_regular {document : Document} (regular : document.Regular) :
    IsSpelled document := by
  induction regular with
  | null => exact fun indented depth rest ends => rfl
  | bool value => cases value <;> exact fun indented depth rest ends => rfl
  | number plain => exact fun indented depth rest ends => tokensFrom_numberChars plain ends
  | text value => exact fun indented depth rest ends => tokensFrom_stringChars value rest
  | list _ inductionHypothesis => exact .list inductionHypothesis
  | object _ _ inductionHypothesis => exact .object inductionHypothesis

/-- The text of a regular document, with a line break at its end, has the tokens that spell
the document and no others. -/
theorem tokens_pretty {document : Document} (regular : document.Regular) :
    tokens (pretty document ++ "\n") = documentTokens document := by
  have spelled := isSpelled_of_regular regular true 0 ['\n'] (.cons (by decide) [])
  rw [tokens, pretty, String.toList_append, String.toList_ofList]
  exact spelled.trans (List.append_nil _)

end Json

end BlockSchema
