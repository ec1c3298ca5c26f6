import BlockSchema.Document.Tree
import BlockSchema.Document.Yaml.Scalar

/-!
Contract: what YAML scalars stand for.

Only plain scalars stand for anything but their text, unless a tag declares a kind.
The words for nothing, for truth values and for special numbers have three spellings
each. Digits after a leading zero are text.
-/

set_option autoImplicit false

namespace BlockSchema.Yaml

def nullWords : List String := ["null", "Null", "NULL", "~"]

def isNull (text : String) : Bool :=
  nullWords.contains text

def bool? (text : String) : Option Bool :=
  if ["true", "True", "TRUE"].contains text then some true
  else if ["false", "False", "FALSE"].contains text then some false
  else none

/-! ## Integers -/

def digitIn? (base : Nat) (character : Char) : Option Nat :=
  (Text.hexValue? character).bind fun value => if value < base then some value else none

/-- The natural number of at least one digit in a base. -/
def natural? (base : Nat) (digits : List Char) : Option Nat :=
  if digits.isEmpty then none
  else
    digits.foldl
      (fun value? digit =>
        value?.bind fun value => (digitIn? base digit).map fun next => value * base + next)
      (some 0)

/-- Digits that open with a zero which is not alone, after a sign or without one. -/
def isPadded (text : List Char) : Bool :=
  let digits :=
    match text with
    | '-' :: rest => rest
    | '+' :: rest => rest
    | all => all
  match digits with
  | '0' :: next :: rest => (next :: rest).all Char.isDigit
  | _ => false

/-- The magnitude of an integer without its sign: in base sixteen, eight or two after a
mark of the base, else in base ten. -/
def magnitude? (padded : Bool) (text : List Char) : Option Nat :=
  match text with
  | '0' :: 'x' :: digits => natural? 16 digits
  | '0' :: 'o' :: digits => natural? 8 digits
  | '0' :: 'b' :: digits => natural? 2 digits
  | _ => if padded then none else natural? 10 text

/-- The integer of a text, whatever its size. -/
def integer? (text : List Char) : Option Int :=
  match text with
  | '-' :: rest => (magnitude? (isPadded text) rest).map fun value => -(value : Int)
  | '+' :: rest => (magnitude? (isPadded text) rest).map fun value => (value : Int)
  | _ => (magnitude? (isPadded text) text).map fun value => (value : Int)

def isUnsigned : List Char → Bool
  | '-' :: _ => false
  | _ => true

/-- What an integer stands for: beyond a machine word of its sign it is wide, beyond two
words it is none. -/
def integerMeaning? (text : List Char) : Option Meaning :=
  (integer? text).bind fun value =>
    if (0 ≤ value ∧ value < twoTo 64) ∨ (-(twoTo 63 : Int) ≤ value ∧ value < 0) then
      some (.number (.int value))
    else if (0 ≤ value ∧ value < twoTo 128) ∨ (-(twoTo 127 : Int) ≤ value ∧ value < 0) then
      some (.wide (toString value))
    else none

/-- The natural number of a text without a minus sign, within a machine word. -/
def word? (text : List Char) : Option Nat :=
  if !isUnsigned text then none
  else
    (integer? text).bind fun value =>
      if value < twoTo 64 then some value.toNat else none

/-! ## Real numbers -/

def decimalDigit (character : Char) : Nat :=
  character.toNat - '0'.toNat

/-- The exponent of a literal: none when there is none, inside that its sign and
digits. -/
def exponent? : List Char → Option (Option (Bool × List Nat))
  | [] => some none
  | mark :: rest =>
      if mark ≠ 'e' ∧ mark ≠ 'E' then none
      else
        let (down, digits) :=
          match rest with
          | '-' :: digits => (true, digits)
          | '+' :: digits => (false, digits)
          | digits => (false, digits)
        if digits.isEmpty || !digits.all Char.isDigit then none
        else some (some (down, digits.map decimalDigit))

/-- The literal of a real number; a digit must stand before or after the point. -/
def literal? (negative : Bool) (text : List Char) : Option Number.Literal :=
  let whole := text.takeWhile Char.isDigit
  let rest := text.dropWhile Char.isDigit
  let (fraction, tail) :=
    match rest with
    | '.' :: after => (after.takeWhile Char.isDigit, after.dropWhile Char.isDigit)
    | _ => ([], rest)
  if whole.isEmpty && fraction.isEmpty then none
  else
    (exponent? tail).map fun exponent =>
      ⟨negative, whole.map decimalDigit, some (fraction.map decimalDigit), exponent⟩

def infinityWords : List String := [".inf", ".Inf", ".INF"]

def nanWords : List String := [".nan", ".NaN", ".NAN"]

def quietNan : Binary64 := ⟨0x7FF8000000000000⟩

/-- The real number of a text. Digits that run out of the finite range give none. -/
def real? (text : List Char) : Option Binary64 :=
  let word := String.ofList text
  let finite (negative : Bool) (digits : List Char) : Option Binary64 :=
    (literal? negative digits).bind fun literal =>
      if literal.nearest.isFinite then some literal.nearest else none
  if infinityWords.contains word then some (.ofMagnitude false Binary64.infinityMagnitude)
  else if nanWords.contains word then some quietNan
  else
    match text with
    | '+' :: rest =>
        if infinityWords.contains (String.ofList rest) then
          some (.ofMagnitude false Binary64.infinityMagnitude)
        else finite false rest
    | '-' :: rest =>
        if infinityWords.contains (String.ofList rest) then
          some (.ofMagnitude true Binary64.infinityMagnitude)
        else finite true rest
    | _ => finite false text

/-! ## Scalars -/

/-- What the text of a plain scalar without a tag stands for. -/
def plainMeaning (text : String) : Meaning :=
  let characters := text.toList
  if text = "" || isNull text then .null
  else
    match bool? text with
    | some value => .bool value
    | none =>
        match integerMeaning? characters with
        | some meaning => meaning
        | none =>
            match if isPadded characters then none else real? characters with
            | some value => .number (.real value)
            | none => .text text

/-- The tags of the kinds that every format has. -/
def coreTag (name : String) : String := "tag:yaml.org,2002:" ++ name

/-- Whether a tag is one of the document's own. -/
def isOwnTag (tag : String) : Bool :=
  tag.startsWith "!"

def taggedMeaning (style : Style) (tag text : String) : Meaning :=
  if tag = coreTag "bool" then
    match bool? text with
    | some value => .bool value
    | none => .misfit text "a boolean"
  else if tag = coreTag "int" then
    (integerMeaning? text.toList).getD (.misfit text "an integer")
  else if tag = coreTag "float" then
    match real? text.toList with
    | some value => .number (.real value)
    | none => .misfit text "a float"
  else if tag = coreTag "null" then
    if isNull text then .null else .misfit text "null"
  else if isOwnTag tag ∧ style = .plain then plainMeaning text
  else .text text

/-- Whether a scalar may be read as a kind that has a tag. -/
def reads (style : Style) (tag : Option String) (kind : String) : Bool :=
  style == .plain || (style == .literal && tag == some (coreTag kind))

def atomOf (tag : Option String) (style : Style) (text : String) : Atom where
  meaning :=
    match tag with
    | some name => taggedMeaning style name text
    | none => if style = .plain then plainMeaning text else .text text
  text? := some text
  bool? := if reads style tag "bool" then bool? text else none
  natural? := if reads style tag "int" then word? text.toList else none
  absent? :=
    if style ≠ .plain then some false
    else
      match tag with
      | none => some (text = "" || isNull text)
      | some name =>
          if name = coreTag "null" then (if isNull text then some true else none)
          else some false
  blank := style = .plain ∧ text = ""

/-- The tree of a scalar, marked when its tag is the document's own. -/
def scalarTree (tag : Option String) (style : Style) (text : String) : Tree :=
  let tree : Tree := .atom (atomOf tag style text)
  if tag.any isOwnTag then .tagged tree else tree

end BlockSchema.Yaml
