import BlockSchema.Number.Reading

/-!
Contract: the tokens of JSON text.

The text is read by a machine with one step a character. A step may close the token
in progress and open the next, so a number ends at the first character that does not
continue it. Malformed text yields the token `bad` and nothing after it.
-/

set_option autoImplicit false

namespace BlockSchema.Json

/-- A token of JSON text. -/
inductive Token where
  | openList
  | closeList
  | openObject
  | closeObject
  | comma
  | colon
  | null
  | bool (value : Bool)
  | number (value : Number)
  | text (value : String)
  | bad
deriving DecidableEq, Repr

/-- How far a number literal has come. -/
inductive NumberStage where
  | sign
  | zero
  | whole
  | point
  | fraction
  | mark
  | markSign
  | power
deriving DecidableEq, Repr

/-- A number literal in progress, its digits latest first. -/
structure NumberDraft where
  stage : NumberStage
  negative : Bool
  whole : List Nat
  fraction : List Nat
  down : Bool
  power : List Nat
deriving DecidableEq, Repr

/-- What the machine is in the middle of. -/
inductive Mode where
  | between
  /-- Inside a string, its characters latest first. -/
  | text (characters : List Char)
  | escape (characters : List Char)
  /-- Inside a four-digit code; `high` is the first half of a pair when one is due. -/
  | code (characters : List Char) (high : Option Nat) (count value : Nat)
  /-- After the first half of a pair, a backslash is due and then a `u`. -/
  | pairSlash (characters : List Char) (high : Nat)
  | pairMark (characters : List Char) (high : Nat)
  | number (draft : NumberDraft)
  /-- Inside a literal word, of which the given characters are due. -/
  | word (due : List Char) (token : Token)
  | failed
deriving DecidableEq, Repr

def digitValue (character : Char) : Nat :=
  character.toNat - '0'.toNat

def isBlank (character : Char) : Bool :=
  character == ' ' || character == '\n' || character == '\t' || character == '\r'

def start (character : Char) : List Token × Mode :=
  if isBlank character then ([], .between)
  else if character = '[' then ([.openList], .between)
  else if character = ']' then ([.closeList], .between)
  else if character = '\x7b' then ([.openObject], .between)
  else if character = '\x7d' then ([.closeObject], .between)
  else if character = ',' then ([.comma], .between)
  else if character = ':' then ([.colon], .between)
  else if character = '"' then ([], .text [])
  else if character = 'n' then ([], .word ['u', 'l', 'l'] .null)
  else if character = 't' then ([], .word ['r', 'u', 'e'] (.bool true))
  else if character = 'f' then ([], .word ['a', 'l', 's', 'e'] (.bool false))
  else if character = '-' then ([], .number ⟨.sign, true, [], [], false, []⟩)
  else if character = '0' then ([], .number ⟨.zero, false, [0], [], false, []⟩)
  else if character.isDigit then
    ([], .number ⟨.whole, false, [digitValue character], [], false, []⟩)
  else ([.bad], .failed)

/-- One more character of a number literal: the literal goes on, has ended before this
character, or is malformed. -/
inductive NumberStep where
  | more (draft : NumberDraft)
  | ended
  | malformed
deriving DecidableEq, Repr

/-- The continuation of a literal after its whole digits. -/
def NumberDraft.afterWhole (draft : NumberDraft) (character : Char) : NumberStep :=
  if character = '.' then .more ⟨.point, draft.negative, draft.whole, [], false, []⟩
  else if character = 'e' ∨ character = 'E' then
    .more ⟨.mark, draft.negative, draft.whole, draft.fraction, false, []⟩
  else .ended

/-- The step of a number literal on one character. -/
def NumberDraft.step (draft : NumberDraft) (character : Char) : NumberStep :=
  match draft.stage with
  | .sign =>
      if character = '0' then .more ⟨.zero, draft.negative, [0], [], false, []⟩
      else if character.isDigit then
        .more ⟨.whole, draft.negative, [digitValue character], [], false, []⟩
      else .malformed
  | .zero => if character.isDigit then .malformed else draft.afterWhole character
  | .whole =>
      if character.isDigit then
        .more ⟨.whole, draft.negative, digitValue character :: draft.whole, [], false, []⟩
      else draft.afterWhole character
  | .point =>
      if character.isDigit then
        .more ⟨.fraction, draft.negative, draft.whole, [digitValue character], false, []⟩
      else .malformed
  | .fraction =>
      if character.isDigit then
        .more ⟨.fraction, draft.negative, draft.whole,
          digitValue character :: draft.fraction, false, []⟩
      else if character = 'e' ∨ character = 'E' then
        .more ⟨.mark, draft.negative, draft.whole, draft.fraction, false, []⟩
      else .ended
  | .mark =>
      if character = '+' then
        .more ⟨.markSign, draft.negative, draft.whole, draft.fraction, false, []⟩
      else if character = '-' then
        .more ⟨.markSign, draft.negative, draft.whole, draft.fraction, true, []⟩
      else if character.isDigit then
        .more ⟨.power, draft.negative, draft.whole, draft.fraction, false,
          [digitValue character]⟩
      else .malformed
  | .markSign =>
      if character.isDigit then
        .more ⟨.power, draft.negative, draft.whole, draft.fraction, draft.down,
          [digitValue character]⟩
      else .malformed
  | .power =>
      if character.isDigit then
        .more ⟨.power, draft.negative, draft.whole, draft.fraction, draft.down,
          digitValue character :: draft.power⟩
      else .ended

/-- The token of a literal that ends here; an unfinished one or one out of range is bad. -/
def NumberDraft.token (draft : NumberDraft) : Token :=
  let finished : Bool :=
    match draft.stage with
    | .zero | .whole | .fraction | .power => true
    | _ => false
  let literal : Number.Literal :=
    ⟨draft.negative, draft.whole.reverse,
      if draft.fraction.isEmpty then none else some draft.fraction.reverse,
      if draft.power.isEmpty then none else some (draft.down, draft.power.reverse)⟩
  match finished, literal.value? with
  | true, some value => .number value
  | _, _ => .bad

/-- A finished code of four hexadecimal digits. The first half of a pair asks for the
second, and no half may stand alone. -/
def closeCode (characters : List Char) (high : Option Nat) (value : Nat) :
    List Token × Mode :=
  match high with
  | none =>
      if 0xD800 ≤ value ∧ value < 0xDC00 then ([], .pairSlash characters value)
      else if 0xDC00 ≤ value ∧ value < 0xE000 then ([.bad], .failed)
      else ([], .text (Char.ofNat value :: characters))
  | some first =>
      if 0xDC00 ≤ value ∧ value < 0xE000 then
        ([], .text
          (Char.ofNat ((first - 0xD800) * 0x400 + (value - 0xDC00) + 0x10000) :: characters))
      else ([.bad], .failed)

def escapeChar? (character : Char) : Option Char :=
  match character with
  | '"' => some '"'
  | '\\' => some '\\'
  | '/' => some '/'
  | 'b' => some '\x08'
  | 'f' => some '\x0c'
  | 'n' => some '\n'
  | 'r' => some '\r'
  | 't' => some '\t'
  | _ => none

/-- One step of the machine: the tokens that the character completes and the mode
after it. -/
def step (mode : Mode) (character : Char) : List Token × Mode :=
  match mode with
  | .between => start character
  | .text characters =>
      if character = '"' then ([.text (String.ofList characters.reverse)], .between)
      else if character = '\\' then ([], .escape characters)
      else if character.toNat < 32 then ([.bad], .failed)
      else ([], .text (character :: characters))
  | .escape characters =>
      if character = 'u' then ([], .code characters none 0 0)
      else
        match escapeChar? character with
        | some meant => ([], .text (meant :: characters))
        | none => ([.bad], .failed)
  | .code characters high count value =>
      match Text.hexValue? character with
      | none => ([.bad], .failed)
      | some digit =>
          if count = 3 then closeCode characters high (value * 16 + digit)
          else ([], .code characters high (count + 1) (value * 16 + digit))
  | .pairSlash characters high =>
      if character = '\\' then ([], .pairMark characters high) else ([.bad], .failed)
  | .pairMark characters high =>
      if character = 'u' then ([], .code characters (some high) 0 0) else ([.bad], .failed)
  | .number draft =>
      match draft.step character with
      | .more next => ([], .number next)
      | .malformed => ([.bad], .failed)
      | .ended =>
          match draft.token with
          | .bad => ([.bad], .failed)
          | token => (token :: (start character).1, (start character).2)
  | .word due token =>
      match due with
      | [] => ([.bad], .failed)
      | [last] => if character = last then ([token], .between) else ([.bad], .failed)
      | next :: rest =>
          if character = next then ([], .word rest token) else ([.bad], .failed)
  | .failed => ([], .failed)

/-- The tokens left in a mode when the text ends. -/
def finish (mode : Mode) : List Token :=
  match mode with
  | .between | .failed => []
  | .number draft => [draft.token]
  | _ => [.bad]

def tokensFrom (mode : Mode) : List Char → List Token
  | [] => finish mode
  | character :: rest =>
      (step mode character).1 ++ tokensFrom (step mode character).2 rest

def tokens (text : String) : List Token :=
  tokensFrom .between text.toList

end BlockSchema.Json
