import BlockSchema.Document.Yaml.Text
import BlockSchema.Number.Reading

/-!
Contract: the text of YAML scalars in all five styles.

Text that spans lines is folded: one line break becomes a space, further ones stay.
Between quotes a backslash may escape a character or a line break, and a block scalar
keeps or folds the lines that are indented deep enough. The readers return none for
malformed text.
-/

set_option autoImplicit false

namespace BlockSchema.Yaml

/-- How a scalar is written. -/
inductive Style where
  | plain
  | singleQuoted
  | doubleQuoted
  | literal
  | folded
deriving DecidableEq, Repr, Inhabited

/-- The text of a scalar and what follows it. -/
structure ScalarText where
  text : String
  cursor : Cursor
  /-- The scalar ended after a line break. -/
  brokeLine : Bool
deriving Repr, Inhabited

/-! ## Folding -/

/-- The gap since the last character of a scalar: blanks on its line, or line breaks.
An escaped first break leaves nothing behind. -/
inductive Gap where
  | blanks (characters : List Char)
  | breaks (first : Option Char) (others : List Char)
deriving Repr

def Gap.none : Gap := .blanks []

def Gap.isBroken : Gap → Bool
  | .blanks _ => false
  | .breaks _ _ => true

def Gap.folded : Gap → List Char
  | .blanks characters => characters
  | .breaks (some '\n') [] => [' ']
  | .breaks (some '\n') others => others
  | .breaks first others => first.toList ++ others

/-- The gap after one more blank; blanks that open a line do not count. -/
def Gap.addBlank (gap : Gap) (character : Char) : Gap :=
  match gap with
  | .blanks characters => .blanks (characters ++ [character])
  | .breaks first others => .breaks first others

def Gap.addBreak (gap : Gap) (character : Char) : Gap :=
  match gap with
  | .blanks _ => .breaks (some character) []
  | .breaks first others => .breaks first (others ++ [character])

/-- The text of characters gathered latest first. -/
def gathered (text : List Char) : String :=
  String.ofList text.reverse

/-- Text gathered latest first, continued by a folded gap. -/
def afterGap (text : List Char) (gap : Gap) : List Char :=
  gap.folded.reverse ++ text

/-! ## Plain scalars -/

/-- Characters that end a plain scalar inside brackets. -/
def isFlowIndicator (character : Char) : Bool :=
  character == ',' || character == '[' || character == ']' || character == '\x7b' ||
    character == '\x7d'

/-- Reads a plain scalar. `least` is the least column of its further lines outside
brackets. -/
def plainText (inFlow : Bool) (least : Int) (text : List Char) (gap : Gap)
    (line column : Nat) : List Char → Option ScalarText
  | [] => some ⟨gathered text, ⟨[], line, column⟩, gap.isBroken⟩
  | character :: rest =>
      let finished : ScalarText :=
        ⟨gathered text, ⟨character :: rest, line, column⟩, gap.isBroken⟩
      let resumes := gap.isBroken || !gap.folded.isEmpty
      if isBreak character then
        plainText inFlow least text (gap.addBreak character) (line + 1) 0 rest
      else if isBlank character then
        if gap.isBroken && character == '\t' && (column : Int) < least then none
        else plainText inFlow least text (gap.addBlank character) line (column + 1) rest
      else if gap.isBroken && !inFlow && (column : Int) < least then some finished
      else if resumes && (character == '#' || (column == 0 && atMarker (character :: rest))) then
        some finished
      else if inFlow && character == ':' &&
          (rest.head?.any fun next => isFlowIndicator next || next == '?') then none
      else if character == ':' && atGap rest then some finished
      else if inFlow && isFlowIndicator character then some finished
      else plainText inFlow least (character :: afterGap text gap) .none line (column + 1) rest

/-! ## Quoted scalars -/

/-- What a character after a backslash asks for. -/
inductive Escape where
  | character (meant : Char)
  | code (digits : Nat)
  | unknown
deriving Repr

def escapeOf : Char → Escape
  | '0' => .character '\x00'
  | 'a' => .character '\x07'
  | 'b' => .character '\x08'
  | 't' | '\t' => .character '\t'
  | 'n' => .character '\n'
  | 'v' => .character '\x0b'
  | 'f' => .character '\x0c'
  | 'r' => .character '\r'
  | 'e' => .character '\x1b'
  | ' ' => .character ' '
  | '"' => .character '"'
  | '/' => .character '/'
  | '\\' => .character '\\'
  | 'N' => .character '\u0085'
  | '_' => .character '\u00a0'
  | 'L' => .character '\u2028'
  | 'P' => .character '\u2029'
  | 'x' => .code 2
  | 'u' => .code 4
  | 'U' => .code 8
  | _ => .unknown

/-- What a quoted scalar is in the middle of. -/
inductive QuoteMode where
  | text
  /-- A quote inside single quotes, which is text if another one follows. -/
  | quote
  | escape
  | code (digits value : Nat)
deriving Repr

def quotedText (single : Bool) (mode : QuoteMode) (text : List Char) (gap : Gap)
    (line column : Nat) : List Char → Option ScalarText
  | [] =>
      match mode with
      | .quote => some ⟨gathered text, ⟨[], line, column⟩, false⟩
      | _ => none
  | character :: rest =>
      match mode with
      | .quote =>
          if character = '\'' then
            quotedText single .text ('\'' :: text) .none line (column + 1) rest
          else some ⟨gathered text, ⟨character :: rest, line, column⟩, false⟩
      | .escape =>
          if isBreak character then
            quotedText single .text text (.breaks none []) (line + 1) 0 rest
          else
            match escapeOf character with
            | .character meant =>
                quotedText single .text (meant :: text) .none line (column + 1) rest
            | .code digits =>
                quotedText single (.code digits 0) text .none line (column + 1) rest
            | .unknown => none
      | .code digits value =>
          match Text.hexValue? character with
          | none => none
          | some digit =>
              let code := value * 16 + digit
              if 1 < digits then
                quotedText single (.code (digits - 1) code) text .none line (column + 1) rest
              else if (0xD800 ≤ code ∧ code ≤ 0xDFFF) ∨ 0x10FFFF < code then none
              else quotedText single .text (Char.ofNat code :: text) .none line (column + 1) rest
      | .text =>
          if isBreak character then
            quotedText single .text text (gap.addBreak character) (line + 1) 0 rest
          else if isBlank character then
            quotedText single .text text (gap.addBlank character) line (column + 1) rest
          else if column == 0 && atMarker (character :: rest) then none
          else
            let joined := afterGap text gap
            if character = (if single then '\'' else '"') then
              if single then quotedText single .quote joined .none line (column + 1) rest
              else some ⟨gathered joined, ⟨rest, line, column + 1⟩, false⟩
            else if !single && character == '\\' then
              quotedText single .escape joined .none line (column + 1) rest
            else quotedText single .text (character :: joined) .none line (column + 1) rest

/-! ## Block scalars -/

/-- What happens to the line breaks at the end of a block scalar. -/
inductive Chomping where
  | strip
  | clip
  | keep
deriving DecidableEq, Repr

/-- The header of a block scalar: an indentation given by a digit, and the chomping. -/
structure BlockHeader where
  increment : Option Nat
  chomping : Chomping
deriving DecidableEq, Repr

def chompingOf? : Char → Option Chomping
  | '-' => some .strip
  | '+' => some .keep
  | _ => none

/-- Reads the header of a block scalar: a sign and a digit in either order. -/
def blockHeader? (cursor : Cursor) : Option (BlockHeader × Cursor) :=
  let digit? (character : Char) : Option Nat :=
    if character.isDigit then some (character.toNat - 48) else none
  let finish (increment : Option Nat) (chomping : Chomping) (count : Nat) :=
    if increment = some 0 then none
    else (cursor.skip count).endLine?.map fun next => (⟨increment, chomping⟩, next)
  match cursor.rest with
  | [] => finish none .clip 0
  | first :: rest =>
      match chompingOf? first with
      | some chomping =>
          match rest.head?.bind digit? with
          | some increment => finish (some increment) chomping 2
          | none => finish none chomping 1
      | none =>
          match digit? first with
          | none => finish none .clip 0
          | some increment =>
              match rest.head?.bind chompingOf? with
              | some chomping => finish (some increment) chomping 2
              | none => finish (some increment) .clip 1

/-- A block scalar in progress. -/
structure BlockDraft where
  /-- The text so far, latest first. -/
  text : List Char
  /-- The break that ended the last line of text. -/
  lead : Option Char
  /-- The breaks of the empty lines after it. -/
  empty : List Char
  /-- The last line of text opened with a blank. -/
  opensBlank : Bool
deriving Repr

namespace BlockDraft

/-- The draft with the gap before a new line of text written. -/
def beginLine (draft : BlockDraft) (folded : Bool) (first : Char) : BlockDraft :=
  let joins := folded && draft.lead == some '\n' && !draft.opensBlank && !isBlank first
  let gap :=
    if joins then (if draft.empty.isEmpty then [' '] else draft.empty)
    else draft.lead.toList ++ draft.empty
  ⟨gap.reverse ++ draft.text, none, [], isBlank first⟩

def finish (draft : BlockDraft) (chomping : Chomping) : String :=
  let tail :=
    match chomping with
    | .strip => []
    | .clip => draft.lead.toList
    | .keep => draft.lead.toList ++ draft.empty
  gathered (tail.reverse ++ draft.text)

end BlockDraft

/-- The indentation of a block scalar whose header gives none: that of its first line
of text or of a deeper empty line before it, but deeper than the parent's. -/
def foundIndent (parent : Int) (deepest : Nat) : Nat :=
  max (max deepest (parent + 1).toNat) 1

/-- Reads the lines of a block scalar. `indent` is zero until it is found, `deepest` is
the deepest column so far, and `inLine` tells a line of text from a margin. -/
def blockText (folded : Bool) (chomping : Chomping) (parent : Int) (inLine : Bool)
    (indent deepest : Nat) (draft : BlockDraft) (line column : Nat) :
    List Char → Option ScalarText
  | [] => some ⟨draft.finish chomping, ⟨[], line, column⟩, true⟩
  | character :: rest =>
      if inLine then
        if isBreak character then
          blockText folded chomping parent false indent 0
            { draft with lead := some character } (line + 1) 0 rest
        else
          blockText folded chomping parent true indent 0
            { draft with text := character :: draft.text } line (column + 1) rest
      else
        let inMargin := indent == 0 || column < indent
        let deeper := max deepest column
        if inMargin && character == ' ' then
          blockText folded chomping parent false indent deepest draft line (column + 1) rest
        else if inMargin && character == '\t' then none
        else if isBreak character then
          blockText folded chomping parent false indent deeper
            { draft with empty := draft.empty ++ [character] } (line + 1) 0 rest
        else
          let settled := if indent = 0 then foundIndent parent deeper else indent
          if column = settled then
            let begun := draft.beginLine folded character
            blockText folded chomping parent true settled 0
              { begun with text := character :: begun.text } line (column + 1) rest
          else some ⟨draft.finish chomping, ⟨character :: rest, line, column⟩, true⟩

/-- Reads a block scalar from after its indicator; `parent` is the indentation that it
stands in. -/
def blockScalar (folded : Bool) (parent : Int) (cursor : Cursor) : Option ScalarText :=
  match blockHeader? cursor with
  | none => none
  | some (header, next) =>
      let indent :=
        match header.increment with
        | none => 0
        | some increment => if 0 ≤ parent then parent.toNat + increment else increment
      blockText folded header.chomping parent false indent 0 ⟨[], none, [], false⟩
        next.line next.column next.rest

end BlockSchema.Yaml
