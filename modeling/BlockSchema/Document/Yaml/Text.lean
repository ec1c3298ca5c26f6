/-!
Contract: the characters of YAML text, and places in it.

Line breaks are brought to one form first. What remains of text is a list of
characters with the place of its first one; columns count characters from zero.
-/

set_option autoImplicit false

namespace BlockSchema.Yaml

/-- Whether a character may stand in YAML text at all. -/
def isAllowed (character : Char) : Bool :=
  let code := character.toNat
  character == '\t' || character == '\n' || character == '\r' ||
    (0x20 ≤ code && code ≤ 0x7E) || code == 0x85 || (0xA0 ≤ code && code ≤ 0xD7FF) ||
    (0xE000 ≤ code && code ≤ 0xFFFD) || 0x10000 ≤ code

/-- Brings the line breaks to one form. The two breaks that Unicode adds for lines and
paragraphs stay what they are. -/
def uniformBreaks : List Char → List Char
  | '\r' :: '\n' :: rest => '\n' :: uniformBreaks rest
  | character :: rest =>
      (if character = '\r' ∨ character = '\u0085' then '\n' else character) ::
        uniformBreaks rest
  | [] => []

/-- The characters of a text; none when one of them is not allowed. -/
def characters? (text : String) : Option (List Char) :=
  if text.toList.all isAllowed then some (uniformBreaks text.toList) else none

/-- The mark that may stand before a line, and counts as a column of it. -/
def isByteOrderMark (character : Char) : Bool :=
  character == '\uFEFF'

def isBreak (character : Char) : Bool :=
  character == '\n' || character == '\u2028' || character == '\u2029'

def isBlank (character : Char) : Bool :=
  character == ' ' || character == '\t'

def isNameChar (character : Char) : Bool :=
  character.isAlphanum || character == '_' || character == '-'

/-- Whether a blank, a line break or the end comes next. -/
def atGap : List Char → Bool
  | [] => true
  | character :: _ => isBlank character || isBreak character

/-- Whether a line break or the end comes next. -/
def atLineEnd : List Char → Bool
  | [] => true
  | character :: _ => isBreak character

/-- Whether the text goes on with a document marker, which counts at the start of a
line only. -/
def atMarker : List Char → Bool
  | '-' :: '-' :: '-' :: rest => atGap rest
  | '.' :: '.' :: '.' :: rest => atGap rest
  | _ => false

/-- What remains of a text, and where it starts. -/
structure Cursor where
  rest : List Char
  line : Nat
  column : Nat
deriving Repr, Inhabited

namespace Cursor

def start (text : List Char) : Cursor := ⟨text, 0, 0⟩

/-- The cursor after a number of characters of the line. -/
def skip (cursor : Cursor) (count : Nat) : Cursor :=
  ⟨cursor.rest.drop count, cursor.line, cursor.column + count⟩

/-- The cursor after the characters that satisfy a test, all on the line. -/
def skipWhile (cursor : Cursor) (test : Char → Bool) : Cursor :=
  cursor.skip (cursor.rest.takeWhile test).length

/-- The cursor after the line break that comes next, if one does. -/
def skipBreak (cursor : Cursor) : Cursor :=
  match cursor.rest with
  | character :: rest =>
      if isBreak character then ⟨rest, cursor.line + 1, 0⟩ else cursor
  | [] => cursor

/-- The cursor after the blanks and the comment that end a line; none when something
else stands there. -/
def endLine? (cursor : Cursor) : Option Cursor :=
  let blanks := cursor.skipWhile isBlank
  let comment :=
    match blanks.rest with
    | '#' :: _ => blanks.skipWhile fun character => !isBreak character
    | _ => blanks
  if atLineEnd comment.rest then some comment.skipBreak else none

end Cursor

end BlockSchema.Yaml
