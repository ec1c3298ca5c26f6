import BlockSchema.Number.Reading

/-!
Contract: the tokens of filter text.

The text is read by a machine with one step a character. A step may close the token in
progress and open the next. Comments run from a hash sign to the end of the line.
-/

set_option autoImplicit false

namespace BlockSchema.Filter

/-- A token of filter text. -/
inductive Token where
  | field (name : String)
  | name (text : String)
  | variable (text : String)
  | number (value : Number)
  | text (value : String)
  /-- Punctuation of one or two characters. -/
  | sign (text : String)
  | bad
deriving DecidableEq, Repr

/-- What the machine is in the middle of. -/
inductive Mode where
  | between
  | comment
  | dot
  | word (make : String → Token) (characters : List Char)
  | number (characters : List Char)
  | text (characters : List Char)
  | escape (characters : List Char)
  | code (characters : List Char) (digits value : Nat)
  /-- A sign that the given character may double. -/
  | double (first second : Char)
  | failed

def opensName (character : Char) : Bool :=
  character.isAlpha || character == '_'

def isNameChar (character : Char) : Bool :=
  character.isAlphanum || character == '_'

def signs : List Char :=
  ['[', ']', '(', ')', '\x7b', '\x7d', '|', ',', ':', ';', '-', '+', '*', '%', '<', '>', '?']

/-- The text of characters gathered latest first. -/
def gathered (characters : List Char) : String :=
  String.ofList characters.reverse

def start (character : Char) : List Token × Mode :=
  if character = ' ' ∨ character = '\t' ∨ character = '\n' ∨ character = '\r' then
    ([], .between)
  else if character = '#' then ([], .comment)
  else if character = '.' then ([], .dot)
  else if character = '"' then ([], .text [])
  else if character = '$' then ([], .word .variable [])
  else if character = '/' then ([], .double '/' '/')
  else if character = '=' then ([], .double '=' '=')
  else if character = '!' then ([], .double '!' '=')
  else if character.isDigit then ([], .number [character])
  else if opensName character then ([], .word .name [character])
  else if signs.contains character then ([.sign (String.singleton character)], .between)
  else ([.bad], .failed)

def digitsOf (characters : List Char) : List Nat :=
  characters.map fun character => character.toNat - '0'.toNat

/-- The literal of the characters of a number. -/
def literal? (characters : List Char) : Option Number.Literal :=
  let whole := characters.takeWhile Char.isDigit
  let rest := characters.dropWhile Char.isDigit
  let (fraction, tail) :=
    match rest with
    | '.' :: after => (some (after.takeWhile Char.isDigit), after.dropWhile Char.isDigit)
    | _ => (none, rest)
  let exponent : Option (Option (Bool × List Nat)) :=
    match tail with
    | [] => some none
    | _ :: '-' :: digits => if digits.isEmpty then none else some (some (true, digitsOf digits))
    | _ :: '+' :: digits => if digits.isEmpty then none else some (some (false, digitsOf digits))
    | _ :: digits => if digits.isEmpty then none else some (some (false, digitsOf digits))
  match fraction, exponent with
  | some [], _ => none
  | _, none => none
  | _, some power => some ⟨false, digitsOf whole, fraction.map digitsOf, power⟩

/-- The token of the characters of a number, latest first. -/
def numberToken (characters : List Char) : Token :=
  match (literal? characters.reverse).bind Number.Literal.value? with
  | some value => .number value
  | none => .bad

/-- Whether a number goes on with a character; `characters` are latest first. -/
def continuesNumber (characters : List Char) (character : Char) : Bool :=
  let hasMark := characters.any fun known => known == 'e' || known == 'E'
  character.isDigit ||
    (character == '.' && !hasMark && !characters.contains '.') ||
    ((character == 'e' || character == 'E') && !hasMark) ||
    ((character == '-' || character == '+') &&
      (characters.head? == some 'e' || characters.head? == some 'E'))

def escapeChar? (character : Char) : Option Char :=
  match character with
  | '"' => some '"'
  | '\\' => some '\\'
  | '/' => some '/'
  | 'b' => some '\x08'
  | 'f' => some '\x0c'
  | 'n' => some '\n'
  | 'r' => some '\r'
  | 't' => some '\t'
  | _ => none

/-- A token that ends before a character, and the start of the next. -/
def close (token : Token) (character : Char) : List Token × Mode :=
  (token :: (start character).1, (start character).2)

/-- One step of the machine: the tokens that the character completes and the mode after
it. -/
def step (mode : Mode) (character : Char) : List Token × Mode :=
  match mode with
  | .between => start character
  | .comment => ([], if character = '\n' then .between else .comment)
  | .dot =>
      if opensName character then ([], .word .field [character])
      else if character = '.' then ([.sign ".."], .between)
      else close (.sign ".") character
  | .word make characters =>
      if isNameChar character then ([], .word make (character :: characters))
      else close (make (gathered characters)) character
  | .number characters =>
      if continuesNumber characters character then ([], .number (character :: characters))
      else close (numberToken characters) character
  | .text characters =>
      if character = '"' then ([.text (gathered characters)], .between)
      else if character = '\\' then ([], .escape characters)
      else ([], .text (character :: characters))
  | .escape characters =>
      if character = 'u' then ([], .code characters 0 0)
      else
        match escapeChar? character with
        | some meant => ([], .text (meant :: characters))
        | none => ([.bad], .failed)
  | .code characters digits value =>
      match Text.hexValue? character with
      | none => ([.bad], .failed)
      | some digit =>
          let next := value * 16 + digit
          if digits < 3 then ([], .code characters (digits + 1) next)
          else if 0xD800 ≤ next ∧ next < 0xE000 then ([.bad], .failed)
          else ([], .text (Char.ofNat next :: characters))
  | .double first second =>
      if character = second then ([.sign (String.ofList [first, second])], .between)
      else close (.sign (String.singleton first)) character
  | .failed => ([], .failed)

/-- The tokens left in a mode when the text ends. -/
def finish (mode : Mode) : List Token :=
  match mode with
  | .between | .comment | .failed => []
  | .dot => [.sign "."]
  | .word make characters => [make (gathered characters)]
  | .number characters => [numberToken characters]
  | .double first _ => [.sign (String.singleton first)]
  | .text _ | .escape _ | .code _ _ _ => [.bad]

def tokensFrom (mode : Mode) : List Char → List Token
  | [] => finish mode
  | character :: rest =>
      (step mode character).1 ++ tokensFrom (step mode character).2 rest

def tokens (text : String) : List Token :=
  tokensFrom .between text.toList

end BlockSchema.Filter
