import BlockSchema.Number.Reading
import BlockSchema.Text.Quoted
import Mathlib.Data.List.Infix

/-!
Contract: readers of text that was put together from parts.

A reader takes what it reads off the front of a text. It reads a text as a value when it does
so whatever follows, so readers one after another read what texts one after another say. Where
texts differ in how they begin, their beginnings choose the reader.

Owns: readers of fixed texts, of choices, of runs of characters, of repetitions and of text
between double quotes. Does not own: which readers make up a language.
-/

set_option autoImplicit false

namespace BlockSchema

/-- Reads a value off the front of a text; what is left is the new text. -/
abbrev Reader (α : Type) := StateT (List Char) Option α

namespace Reader

variable {α β : Type}

def literal (text : String) : Reader Unit := fun given =>
  (text.toList.isPrefixOf? given).map fun rest => ((), rest)

/-- Reads a text and the end of its line. -/
def line (text : String) : Reader Unit := do
  literal text
  literal "\n"

/-- Reads some lines. -/
def lines (texts : List String) : Reader Unit :=
  texts.forM line

/-- The first reader whose mark a text begins with reads the rest of it. -/
def choose : List (String × Reader α) → Reader α
  | [], _ => none
  | (mark, reader) :: others, given =>
      match mark.toList.isPrefixOf? given with
      | some rest => reader rest
      | none => choose others given

/-- Reads all characters of a kind that come first, and what has to stand after them. -/
def spanBefore (kind : Char → Bool) (stop : String) : Reader String := fun given =>
  (literal stop (given.dropWhile kind)).map fun left =>
    (String.ofList (given.takeWhile kind), left.2)

/-- Reads as often as there is something to read. -/
def many (reader : Reader α) : Reader (List α) := fun given =>
  match reader given with
  | none => some ([], given)
  | some (value, rest) =>
      if rest.length < given.length then
        (many reader rest).map fun later => (value :: later.1, later.2)
      else none
termination_by given => given.length

/-! ## Texts and their values -/

/-- A reader reads a text as a value, whatever follows. -/
def Reads (reader : Reader α) (text : String) (value : α) : Prop :=
  ∀ rest, reader (text.toList ++ rest) = some (value, rest)

/-- A reader does not read a text, whatever follows. -/
def Fails (reader : Reader α) (text : String) : Prop :=
  ∀ rest, reader (text.toList ++ rest) = none

/-- Neither text begins with the other. -/
def Apart (left right : String) : Prop :=
  ¬ left.toList <+: right.toList ∧ ¬ right.toList <+: left.toList

instance (left right : String) : Decidable (Apart left right) :=
  inferInstanceAs (Decidable (_ ∧ _))

variable
  {reader : Reader α}
  {next : α → Reader β}
  {front back text mark : String}
  {value : α}
  {result : β}

theorem reads_pure (value : α) : Reads (pure value) "" value := by
  intro rest
  rfl

theorem Reads.bind (first : Reads reader front value) (second : Reads (next value) back result) :
    Reads (reader >>= next) (front ++ back) result := by
  intro rest
  show (reader ((front ++ back).toList ++ rest)).bind _ = _
  rw [String.toList_append, List.append_assoc, first]
  exact second rest

/-- What is made of a value that was read. -/
theorem Reads.map (reads : Reads reader text value) (make : α → β) :
    Reads (reader >>= fun read => pure (make read)) text (make value) := by
  have made : Reads (reader >>= fun read => pure (make read)) (text ++ "") (make value) :=
    reads.bind (reads_pure (make value))
  rwa [String.append_empty] at made

theorem Fails.bind (fails : Fails reader text) : Fails (reader >>= next) text := by
  intro rest
  show (reader (text.toList ++ rest)).bind _ = _
  rw [fails rest]
  rfl

/-- What comes after a part that was read cannot be read. -/
theorem Reads.fails (first : Reads reader front value) (second : Fails (next value) back) :
    Fails (reader >>= next) (front ++ back) := by
  intro rest
  show (reader ((front ++ back).toList ++ rest)).bind _ = _
  rw [String.toList_append, List.append_assoc, first]
  exact second rest

theorem Reads.of_eq {given : String} (reads : Reads reader text value) (same : text = given) :
    Reads reader given value :=
  same ▸ reads

/-! ## Fixed texts -/

private theorem isPrefixOf?_append (front rest : List Char) :
    front.isPrefixOf? (front ++ rest) = some rest :=
  List.isPrefixOf?_eq_some_iff_append_eq.mpr rfl

private theorem isPrefixOf?_of_apart (apart : Apart mark front) (rest : List Char) :
    mark.toList.isPrefixOf? (front.toList ++ rest) = none := by
  by_contra found
  obtain ⟨left, isLeft⟩ := Option.ne_none_iff_exists'.mp found
  have begins : mark.toList <+: front.toList ++ rest :=
    ⟨left, List.isPrefixOf?_eq_some_iff_append_eq.mp isLeft⟩
  rcases List.prefix_or_prefix_of_prefix begins (List.prefix_append _ _) with before | after
  · exact apart.1 before
  · exact apart.2 after

theorem reads_literal (text : String) : Reads (literal text) text () := by
  intro rest
  unfold literal
  rw [isPrefixOf?_append]
  rfl

theorem fails_literal (apart : Apart mark text) : Fails (literal mark) text := by
  intro rest
  unfold literal
  rw [isPrefixOf?_of_apart apart]
  rfl

theorem reads_line (text : String) : Reads (line text) (text ++ "\n") () :=
  (reads_literal text).bind (reads_literal "\n")

theorem reads_lines (texts : List String) :
    Reads (lines texts) (String.join (texts.map fun text => text ++ "\n")) () := by
  induction texts with
  | nil => exact reads_pure ()
  | cons text later inductionHypothesis =>
      rw [List.map_cons, String.join_cons]
      exact (reads_line text).bind inductionHypothesis

/-! ## Choices -/

private theorem reads_choose_head
    {others : List (String × Reader α)}
    (reads : Reads reader back value) :
    Reads (choose ((mark, reader) :: others)) (mark ++ back) value := by
  intro rest
  unfold choose
  rw [String.toList_append, List.append_assoc, isPrefixOf?_append]
  exact reads rest

private theorem reads_choose_tail
    {others : List (String × Reader α)}
    (apart : Apart mark front)
    (reads : Reads (choose others) (front ++ back) value) :
    Reads (choose ((mark, reader) :: others)) (front ++ back) value := by
  intro rest
  unfold choose
  rw [String.toList_append, List.append_assoc, isPrefixOf?_of_apart apart, ← List.append_assoc,
    ← String.toList_append]
  exact reads rest

/-- Of choices that begin apart, a text takes the one whose mark it begins with. -/
theorem reads_choose
    {choices : List (String × Reader α)}
    (place : Nat)
    (apart : (choices.map Prod.fst).Pairwise Apart)
    (stands : choices[place]? = some (mark, reader))
    (reads : Reads reader back value) :
    Reads (choose choices) (mark ++ back) value := by
  induction choices generalizing place with
  | nil => cases stands
  | cons first others inductionHypothesis =>
      obtain ⟨fromFirst, apartLater⟩ := List.pairwise_cons.mp apart
      cases place with
      | zero =>
          obtain rfl := Option.some.inj stands
          exact reads_choose_head reads
      | succ before =>
          have later : others[before]? = some (mark, reader) := stands
          have inside : mark ∈ others.map Prod.fst :=
            List.mem_map_of_mem (List.mem_of_getElem? later)
          exact reads_choose_tail (fromFirst mark inside)
            (inductionHypothesis before apartLater later)

/-- One of the choices is all that there is to be read. -/
theorem reads_choice
    {choices : List (String × Reader α)}
    (place : Nat)
    (apart : (choices.map Prod.fst).Pairwise Apart)
    (stands : choices[place]? = some (mark, pure value)) :
    Reads (choose choices) mark value :=
  (reads_choose place apart stands (reads_pure value)).of_eq String.append_empty

/-! ## Runs of characters -/

section Spans

/-- The first character of a text is of another kind. -/
def BeginsOther (kind : Char → Bool) (text : String) : Prop :=
  text.toList.head?.map kind = some false

instance (kind : Char → Bool) (text : String) : Decidable (BeginsOther kind text) :=
  inferInstanceAs (Decidable (_ = _))

variable {kind : Char → Bool} {stop : String}

private theorem span_append
    {run rest : List Char}
    (same : ∀ character ∈ run, kind character = true)
    (ends : ∀ character ∈ rest.head?, kind character = false) :
    (run ++ rest).takeWhile kind = run ∧ (run ++ rest).dropWhile kind = rest := by
  induction run with
  | nil =>
      cases rest with
      | nil => exact ⟨rfl, rfl⟩
      | cons character later =>
          have other : ¬ kind character = true := by simp [ends character rfl]
          exact ⟨List.takeWhile_cons_of_neg other, List.dropWhile_cons_of_neg other⟩
  | cons character later inductionHypothesis =>
      have isSame := same character List.mem_cons_self
      obtain ⟨taken, left⟩ :=
        inductionHypothesis fun other member => same other (List.mem_cons_of_mem _ member)
      rw [List.cons_append, List.takeWhile_cons_of_pos isSame, List.dropWhile_cons_of_pos isSame,
        taken, left]
      exact ⟨rfl, rfl⟩

/-- A text of one kind is read up to a stop that begins with another kind. -/
theorem reads_spanBefore
    (ends : BeginsOther kind stop)
    (same : ∀ character ∈ text.toList, kind character = true) :
    Reads (spanBefore kind stop) (text ++ stop) text := by
  obtain ⟨first, begins, other⟩ := Option.map_eq_some_iff.mp ends
  obtain ⟨later, isStop⟩ := List.head?_eq_some_iff.mp begins
  intro rest
  have stops : ∀ character ∈ (stop.toList ++ rest).head?, kind character = false := by
    rw [isStop]
    intro character isFirst
    obtain rfl := Option.some.inj isFirst
    exact other
  obtain ⟨taken, left⟩ := span_append same stops
  unfold spanBefore
  rw [String.toList_append, List.append_assoc, taken, left, reads_literal stop rest,
    String.ofList_toList]
  rfl

theorem fails_spanBefore (other : BeginsOther kind text) (apart : Apart stop text) :
    Fails (spanBefore kind stop) text := by
  obtain ⟨first, begins, isOther⟩ := Option.map_eq_some_iff.mp other
  obtain ⟨later, isText⟩ := List.head?_eq_some_iff.mp begins
  intro rest
  have unread : (text.toList ++ rest).dropWhile kind = text.toList ++ rest := by
    rw [isText, List.cons_append, List.dropWhile_cons_of_neg (by simp [isOther])]
  unfold spanBefore
  rw [unread, fails_literal apart rest]
  rfl

end Spans

/-! ## Repetitions -/

/-- What a list of texts says is read before a text that says no more of the kind. -/
theorem Reads.many
    {values : List α}
    {print : α → String}
    {next : List α → Reader β}
    (each : ∀ value ∈ values, Reads reader (print value) value)
    (nonempty : ∀ value ∈ values, print value ≠ "")
    (stops : Fails reader back)
    (after : Reads (next values) back result) :
    Reads (many reader >>= next) (String.join (values.map print) ++ back) result := by
  have gathers : ∀ rest, Reader.many reader
      ((String.join (values.map print) ++ back).toList ++ rest) =
        some (values, back.toList ++ rest) := by
    intro rest
    clear after
    induction values with
    | nil =>
        unfold Reader.many
        rw [List.map_nil, String.join_nil, String.empty_append, stops rest]
    | cons value later inductionHypothesis =>
        have others := inductionHypothesis
          (fun other member => each other (List.mem_cons_of_mem value member))
          (fun other member => nonempty other (List.mem_cons_of_mem value member))
        have isRead := each value List.mem_cons_self
          ((String.join (later.map print) ++ back).toList ++ rest)
        have shorter : 0 < (print value).toList.length := by
          apply List.length_pos_of_ne_nil
          simpa using nonempty value List.mem_cons_self
        unfold Reader.many
        rw [List.map_cons, String.join_cons, String.append_assoc, String.toList_append,
          List.append_assoc, isRead]
        dsimp only
        rw [if_pos (by simp only [List.length_append]; omega), others]
        rfl
  intro rest
  show (Reader.many reader _).bind _ = _
  rw [gathers rest]
  exact after rest

/-- What a list of texts says is read by readers that are told a part of it. -/
theorem Reads.mapM
    {key : Type}
    {values : List α}
    {toKey : α → key}
    {reader : key → Reader α}
    {print : α → String}
    (each : ∀ value ∈ values, Reads (reader (toKey value)) (print value) value) :
    Reads ((values.map toKey).mapM reader) (String.join (values.map print)) values := by
  induction values with
  | nil => exact reads_pure []
  | cons value later inductionHypothesis =>
      have others := inductionHypothesis fun other member =>
        each other (List.mem_cons_of_mem value member)
      rw [List.map_cons, List.mapM_cons, List.map_cons, String.join_cons]
      exact (each value List.mem_cons_self).bind (others.map fun rest => value :: rest)

/-! ## Quoted text -/

def isHexDigit (character : Char) : Bool :=
  (Text.hexValue? character).isSome

/-- The number that hexadecimal digits stand for. -/
def hexCode (digits : String) : Nat :=
  digits.toList.foldl (fun code digit => code * 16 + (Text.hexValue? digit).getD 0) 0

/-- Reads what stands after a backslash. -/
def escape : Reader Char :=
  choose
    [("\"", pure '"'), ("\\", pure '\\'), ("n", pure '\n'), ("r", pure '\r'), ("t", pure '\t'),
     ("0", pure '\x00'),
     ("u\x7b", do
        let digits ← spanBefore isHexDigit "\x7d"
        return Char.ofNat (hexCode digits))]

/-- Reads one character of a quoted text. -/
def quotedChar : Reader Char
  | [] => none
  | '"' :: _ => none
  | '\\' :: rest => escape rest
  | character :: rest => some (character, rest)

def quoted : Reader String := do
  literal "\""
  let characters ← many quotedChar
  literal "\""
  return String.ofList characters

private theorem hexValue?_digitChar : ∀ digit < 16,
    Text.hexValue? (Nat.digitChar digit) = some digit := by
  decide

private theorem isHexDigit_of_mem_toDigits (code : Nat) :
    ∀ character ∈ Nat.toDigits 16 code, isHexDigit character = true := by
  induction code using Nat.strong_induction_on with
  | h code inductionHypothesis =>
      have ofDigit : ∀ digit < 16, isHexDigit (Nat.digitChar digit) = true := by
        intro digit small
        rw [isHexDigit, hexValue?_digitChar digit small]
        rfl
      intro character member
      rw [Nat.toDigits_eq_if (by decide)] at member
      split at member
      next small =>
        obtain rfl := List.mem_singleton.mp member
        exact ofDigit code small
      next large =>
        rcases List.mem_append.mp member with before | isLast
        · exact inductionHypothesis (code / 16) (by omega) character before
        · obtain rfl := List.mem_singleton.mp isLast
          exact ofDigit (code % 16) (by omega)

private theorem hexCode_toDigits (code : Nat) :
    hexCode (String.ofList (Nat.toDigits 16 code)) = code := by
  unfold hexCode
  rw [String.toList_ofList]
  induction code using Nat.strong_induction_on with
  | h code inductionHypothesis =>
      rw [Nat.toDigits_eq_if (by decide)]
      split
      next small =>
        rw [List.foldl_cons, List.foldl_nil, hexValue?_digitChar code small, Option.getD_some,
          Nat.zero_mul, Nat.zero_add]
      next large =>
        rw [List.foldl_append, inductionHypothesis (code / 16) (by omega), List.foldl_cons,
          List.foldl_nil, hexValue?_digitChar (code % 16) (by omega), Option.getD_some]
        omega

private theorem reads_code (character : Char) :
    Reads quotedChar
      (String.ofList (['\\', 'u', '\x7b'] ++ Text.hexDigits character.toNat ++ ['\x7d']))
      character := by
  let digits := String.ofList (Nat.toDigits 16 character.toNat)
  have ofDigits : Reads (spanBefore isHexDigit "\x7d") (digits ++ "\x7d") digits := by
    refine reads_spanBefore (by decide) ?_
    rw [String.toList_ofList]
    exact isHexDigit_of_mem_toDigits character.toNat
  have ofCode : Reads escape ("u\x7b" ++ (digits ++ "\x7d")) character := by
    have made := ofDigits.map fun read => Char.ofNat (hexCode read)
    rw [hexCode_toDigits, Char.ofNat_toNat] at made
    exact reads_choose 6 (by decide) rfl made
  intro rest
  have isRead := ofCode rest
  simp only [String.toList_append, String.toList_ofList, digits] at isRead ⊢
  exact isRead

private theorem reads_quotedChar (character : Char) :
    Reads quotedChar (String.ofList (Text.quotedChar character)) character := by
  by_cases lettered : character ∈ ['"', '\\', '\n', '\r', '\t', '\x00']
  · simp only [List.mem_cons, List.not_mem_nil, or_false] at lettered
    rcases lettered with rfl | rfl | rfl | rfl | rfl | rfl <;> exact fun rest => rfl
  · simp only [List.mem_cons, List.not_mem_nil, or_false, not_or] at lettered
    obtain ⟨quote, backslash, newline, feed, tab, zero⟩ := lettered
    have notZero : character.toNat ≠ 0 := by
      intro isZero
      apply zero
      rw [← Char.ofNat_toNat character, isZero]
    unfold Text.quotedChar
    rw [if_neg quote, if_neg backslash, if_neg newline, if_neg feed, if_neg tab, if_neg notZero]
    by_cases coded : Unicode.isCoded character = true
    · rw [if_pos coded]
      exact reads_code character
    · intro rest
      rw [if_neg coded, String.toList_ofList]
      simp [quotedChar]

private theorem quotedChar_ne_nil (character : Char) : Text.quotedChar character ≠ [] := by
  unfold Text.quotedChar
  split_ifs <;> simp

/-- Quoted text is read as the text, whatever it is made of. -/
theorem reads_quoted (text : String) : Reads quoted (Text.quoted text) text := by
  let print := fun character => String.ofList (Text.quotedChar character)
  have parts : Text.quoted text = "\"" ++ (String.join (text.toList.map print) ++ "\"") := by
    rw [← String.toList_inj]
    simp [Text.quoted, String.toList_join, List.flatMap_def, print, Function.comp_def]
  have inside : Reads (many quotedChar >>= fun characters => do
      literal "\""
      return String.ofList characters) (String.join (text.toList.map print) ++ "\"") text := by
    refine Reads.many (fun character _ => reads_quotedChar character) ?nonempty
      (fun rest => rfl) ?after
    case nonempty =>
      intro character _ empty
      apply quotedChar_ne_nil character
      rw [← String.toList_ofList (l := Text.quotedChar character)]
      exact congrArg String.toList empty
    case after =>
      rw [String.ofList_toList]
      exact (reads_literal "\"").map fun _ => text
  rw [parts]
  exact (reads_literal "\"").bind inside

end Reader

end BlockSchema
