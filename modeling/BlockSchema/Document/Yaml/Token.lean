import BlockSchema.Document.Yaml.Scalar

/-!
Contract: the tokens of YAML text.

Indentation becomes tokens that open and close block collections. A key of one line is
known as a key only when its colon comes, so its tokens are put in afterwards, where
the key began; until then the tokens from there on are withheld. When the text goes
wrong, the withheld tokens are lost and those before them stand.
-/

set_option autoImplicit false

namespace BlockSchema.Yaml

/-- A tag as written: its handle and what follows it. -/
structure TagText where
  handle : String
  suffix : String
deriving DecidableEq, Repr

/-- A token of YAML text. -/
inductive Token where
  | version (major minor : Nat)
  /-- A handle of tags and what it stands for. -/
  | handle (handle meant : String)
  | documentStart
  | documentEnd
  | openBlockList
  | openBlockObject
  | closeBlock
  | openList
  | closeList
  | openObject
  | closeObject
  | item
  | comma
  | key
  | value
  | alias (name : String)
  | anchor (name : String)
  | tag (text : TagText)
  | scalar (style : Style) (text : String)
  | finish
deriving DecidableEq, Repr

/-! ## Names, tags and directives -/

def anchorName? (cursor : Cursor) : Option (String × Cursor) :=
  let name := cursor.rest.takeWhile isNameChar
  let next := cursor.skip name.length
  let ends :=
    match next.rest with
    | [] => true
    | character :: _ =>
        atGap next.rest || "?:,]\x7d%@".toList.contains character || character.toNat == 0x60
  if name.isEmpty || !ends then none else some (String.ofList name, next)

/-- A character of the part of a tag that follows its handle; whole addresses may have
some more. -/
def isTagChar (wide : Bool) (character : Char) : Bool :=
  isNameChar character || ";/?:@&=+$.%!~*'()".toList.contains character ||
    (wide && ",[]".toList.contains character)

/-- How many bytes the character has whose first byte is given. -/
def byteCount? (byte : Nat) : Option Nat :=
  if byte < 0x80 then some 1
  else if 0xC0 ≤ byte ∧ byte < 0xE0 then some 2
  else if 0xE0 ≤ byte ∧ byte < 0xF0 then some 3
  else if 0xF0 ≤ byte ∧ byte < 0xF8 then some 4
  else none

/-- The bits of the first byte that belong to the character's code. -/
def leadBits (byte count : Nat) : Nat :=
  match count with
  | 1 => byte
  | 2 => byte % 0x20
  | 3 => byte % 0x10
  | _ => byte % 0x08

/-- Undoes the percent escapes of a tag. `due` counts the further bytes of a character
whose code so far is `code`. -/
def unescapeTag (due code : Nat) : List Char → Option (List Char)
  | '%' :: high :: low :: rest =>
      match Text.hexValue? high, Text.hexValue? low with
      | some upper, some lower =>
          let byte := upper * 16 + lower
          if due = 0 then
            match byteCount? byte with
            | none => none
            | some 1 => (unescapeTag 0 0 rest).map (Char.ofNat byte :: ·)
            | some count => unescapeTag (count - 1) (leadBits byte count) rest
          else if byte < 0x80 ∨ 0xC0 ≤ byte then none
          else
            let longer := code * 0x40 + byte % 0x40
            if due = 1 then (unescapeTag 0 0 rest).map (Char.ofNat longer :: ·)
            else unescapeTag (due - 1) longer rest
      | _, _ => none
  | character :: rest =>
      if due ≠ 0 ∨ character = '%' then none
      else (unescapeTag 0 0 rest).map (character :: ·)
  | [] => if due = 0 then some [] else none

/-- The part of a tag that follows its handle. -/
def tagRest? (wide : Bool) (cursor : Cursor) : Option (String × Cursor) :=
  let written := cursor.rest.takeWhile (isTagChar wide)
  (unescapeTag 0 0 written).map fun plain =>
    (String.ofList plain, cursor.skip written.length)

/-- The handle that a tag opens with: an exclamation mark, a name, and a second mark if
one closes the name. -/
def tagHandle? (cursor : Cursor) : Option (List Char × Cursor) :=
  match cursor.rest with
  | '!' :: rest =>
      let name := rest.takeWhile isNameChar
      let next := cursor.skip (name.length + 1)
      match next.rest with
      | '!' :: _ => some ('!' :: name ++ ['!'], next.skip 1)
      | _ => some ('!' :: name, next)
  | _ => none

/-- Whether a handle is closed by a mark of its own. -/
def isClosedHandle (handle : List Char) : Bool :=
  decide (1 < handle.length) && handle.getLast? == some '!'

/-- Reads a tag. A handle without a closing mark belongs to the rest of the tag. -/
def tag? (inFlow : Bool) (cursor : Cursor) : Option (TagText × Cursor) :=
  let read : Option (TagText × Cursor) :=
    match cursor.rest with
    | '!' :: '<' :: _ =>
        match tagRest? true (cursor.skip 2) with
        | some (address, next) =>
            match next.rest with
            | '>' :: _ => if address = "" then none else some (⟨"", address⟩, next.skip 1)
            | _ => none
        | none => none
    | _ =>
        match tagHandle? cursor with
        | none => none
        | some (handle, next) =>
            match tagRest? false next with
            | none => none
            | some (suffix, last) =>
                if isClosedHandle handle then
                  if suffix = "" then none
                  else some (⟨String.ofList handle, suffix⟩, last)
                else
                  let whole := String.ofList (handle.drop 1) ++ suffix
                  some (if whole = "" then ⟨"", "!"⟩ else ⟨"!", whole⟩, last)
  read.bind fun (tag, next) =>
    if atGap next.rest || (inFlow && next.rest.head? == some ',') then some (tag, next)
    else none

/-- A number of a version, of at most nine digits. -/
def versionNumber? (cursor : Cursor) : Option (Nat × Cursor) :=
  let digits := cursor.rest.takeWhile Char.isDigit
  if digits.isEmpty || 9 < digits.length then none
  else
    some (digits.foldl (fun value digit => value * 10 + (digit.toNat - 48)) 0,
      cursor.skip digits.length)

/-- Reads the version after the name of its directive. -/
def versionToken? (cursor : Cursor) : Option (Token × Cursor) :=
  (versionNumber? (cursor.skipWhile isBlank)).bind fun (major, next) =>
    match next.rest with
    | '.' :: _ =>
        (versionNumber? (next.skip 1)).map fun (minor, last) => (.version major minor, last)
    | _ => none

/-- Reads a handle and its meaning after the name of the directive. -/
def handleToken? (cursor : Cursor) : Option (Token × Cursor) :=
  (tagHandle? (cursor.skipWhile isBlank)).bind fun (handle, next) =>
    if !(handle == ['!'] || isClosedHandle handle) then none
    else
      match next.rest with
      | character :: _ =>
          if !isBlank character then none
          else
            (tagRest? true (next.skipWhile isBlank)).bind fun (meant, last) =>
              if meant = "" || !atGap last.rest then none
              else some (.handle (String.ofList handle) meant, last)
      | [] => none

def directive? (cursor : Cursor) : Option (Token × Cursor) :=
  let name := cursor.rest.takeWhile isNameChar
  let next := cursor.skip name.length
  let content :=
    if !atGap next.rest then none
    else if name = "YAML".toList then versionToken? next
    else if name = "TAG".toList then handleToken? next
    else none
  content.bind fun (token, last) => last.endLine?.map fun ended => (token, ended)

/-! ## The state of reading -/

/-- A place where a key may have begun. -/
structure KeyStart where
  /-- How many tokens stand before it. -/
  position : Nat
  line : Nat
  column : Nat
  /-- A colon must follow, for nothing but a key can stand there. -/
  required : Bool
deriving Repr

/-- The state of reading tokens. -/
structure Reading where
  cursor : Cursor
  /-- The tokens so far, latest first, and their number. -/
  tokens : List Token
  count : Nat
  /-- The columns of the open block collections, innermost first. -/
  indents : List Int
  /-- The places where keys may have begun, one for each open bracket and one for the
  block level around them, innermost first. -/
  keys : List (Option KeyStart)
  /-- A key may begin at the next token. -/
  allowsKey : Bool
deriving Repr

namespace Reading

def start (text : List Char) : Reading := ⟨.start text, [], 0, [], [none], true⟩

/-- The column of the innermost block collection, -1 outside of all. -/
def indent (reading : Reading) : Int :=
  reading.indents.headD (-1)

def inFlow (reading : Reading) : Bool :=
  decide (1 < reading.keys.length)

def push (reading : Reading) (token : Token) : Reading :=
  { reading with tokens := token :: reading.tokens, count := reading.count + 1 }

/-- Puts a token in where a number of tokens stand before it. -/
def pushAt (reading : Reading) (position : Nat) (token : Token) : Reading :=
  let later := reading.count - position
  { reading with
    tokens := reading.tokens.take later ++ token :: reading.tokens.drop later
    count := reading.count + 1 }

def moveTo (reading : Reading) (cursor : Cursor) : Reading :=
  { reading with cursor := cursor }

/-- Says whether a key may begin at the next token. -/
def allowKey (reading : Reading) (allows : Bool) : Reading :=
  { reading with allowsKey := allows }

/-- Whether a place is too far back for a key: on an earlier line, or more than 1024
characters before. -/
def isStale (cursor : Cursor) (key : KeyStart) : Bool :=
  decide (key.line < cursor.line) || decide (key.column + 1024 < cursor.column)

/-- Gives up the places that are too far back; none when a colon had to follow one. -/
def dropStale? (reading : Reading) : Option Reading :=
  let stale (key? : Option KeyStart) : Bool := key?.any (isStale reading.cursor)
  if reading.keys.any fun key? => stale key? && key?.any KeyStart.required then none
  else
    some { reading with keys := reading.keys.map fun key? => if stale key? then none else key? }

/-- How many tokens stand before the first place where a key may still begin. -/
def settled (reading : Reading) : Nat :=
  reading.keys.foldl
    (fun least key? => key?.elim least fun key => min least key.position) reading.count

/-- Gives up the innermost place; none when a colon had to follow it. -/
def dropKey? (reading : Reading) : Option Reading :=
  match reading.keys with
  | some key :: rest => if key.required then none else some { reading with keys := none :: rest }
  | _ => some reading

def noteKey? (reading : Reading) : Option Reading :=
  if !reading.allowsKey then some reading
  else
    let key : KeyStart :=
      { position := reading.count
        line := reading.cursor.line
        column := reading.cursor.column
        required := !reading.inFlow && reading.indent == (reading.cursor.column : Int) }
    reading.dropKey?.map fun next => { next with keys := some key :: next.keys.drop 1 }

/-- Opens a block collection at a column deeper than the innermost one, with its token
where a number of tokens stand before it. -/
def openBlock (reading : Reading) (column : Int) (position : Nat) (token : Token) : Reading :=
  if reading.inFlow || column ≤ reading.indent then reading
  else { reading.pushAt position token with indents := column :: reading.indents }

/-- Closes the block collections of some columns that are deeper than a given one. -/
def closeFrom (column : Int) : List Int → Reading → Reading
  | [], reading => { reading with indents := [] }
  | innermost :: rest, reading =>
      if column < innermost then closeFrom column rest (reading.push .closeBlock)
      else { reading with indents := innermost :: rest }

/-- Closes the block collections that are deeper than a column. -/
def closeBlocks (reading : Reading) (column : Int) : Reading :=
  if reading.inFlow then reading else closeFrom column reading.indents reading

/-! ## Single tokens -/

def boundary? (reading : Reading) : Option Reading :=
  (reading.closeBlocks (-1)).dropKey?.map fun next => next.allowKey false

/-- The end of the text, which counts as a new line. -/
def finish? (reading : Reading) : Option Reading :=
  reading.boundary?.map fun next => next.push .finish

def readDirective? (reading : Reading) : Option Reading :=
  reading.boundary?.bind fun next =>
    (directive? (next.cursor.skip 1)).map fun (token, cursor) => (next.moveTo cursor).push token

def readMarker? (reading : Reading) (token : Token) : Option Reading :=
  reading.boundary?.map fun next => (next.moveTo (next.cursor.skip 3)).push token

def openBracket? (reading : Reading) (token : Token) : Option Reading :=
  reading.noteKey?.map fun next =>
    ({ next with keys := none :: next.keys, allowsKey := true }.moveTo
      (next.cursor.skip 1)).push token

def closeBracket? (reading : Reading) (token : Token) : Option Reading :=
  reading.dropKey?.map fun next =>
    let outer := if next.inFlow then next.keys.drop 1 else next.keys
    ({ next with keys := outer, allowsKey := false }.moveTo (next.cursor.skip 1)).push token

def readComma? (reading : Reading) : Option Reading :=
  reading.dropKey?.map fun next =>
    ((next.allowKey true).moveTo (next.cursor.skip 1)).push .comma

/-- The sign of a block item or of an explicit key, which opens a block collection where
none is open at its column. -/
def readSign? (reading : Reading) (opening token : Token) (allows : Bool) : Option Reading :=
  if !reading.inFlow && !reading.allowsKey then none
  else
    (reading.openBlock reading.cursor.column reading.count opening).dropKey?.map fun next =>
      ((next.allowKey allows).moveTo (next.cursor.skip 1)).push token

/-- A colon. When a key may have begun on the line, its tokens are put in now. -/
def readColon? (reading : Reading) : Option Reading :=
  let after (next : Reading) : Reading := (next.moveTo (next.cursor.skip 1)).push .value
  match reading.keys with
  | some key :: rest =>
      let keyed := (reading.pushAt key.position .key).openBlock key.column key.position
        .openBlockObject
      some (after { keyed with keys := none :: rest, allowsKey := false })
  | _ =>
      if reading.inFlow then some (after (reading.allowKey false))
      else if !reading.allowsKey then none
      else
        some (after ((reading.openBlock reading.cursor.column reading.count
          .openBlockObject).allowKey true))

def readProperty?
    (reading : Reading)
    (read : Cursor → Option (Token × Cursor)) :
    Option Reading :=
  reading.noteKey?.bind fun next =>
    (read next.cursor).map fun (token, cursor) =>
      ((next.allowKey false).moveTo cursor).push token

def readInline?
    (reading : Reading)
    (style : Style)
    (read : Reading → Option ScalarText) :
    Option Reading :=
  reading.noteKey?.bind fun next =>
    (read (next.allowKey false)).map fun scalar =>
      ((next.allowKey scalar.brokeLine).moveTo scalar.cursor).push (.scalar style scalar.text)

def readBlock? (reading : Reading) (style : Style) : Option Reading :=
  reading.dropKey?.bind fun next =>
    (blockScalar (style == .folded) next.indent (next.cursor.skip 1)).map fun scalar =>
      ((next.allowKey true).moveTo scalar.cursor).push (.scalar style scalar.text)

def readQuoted? (reading : Reading) (style : Style) : Option Reading :=
  reading.readInline? style fun next =>
    let opened := next.cursor.skip 1
    quotedText (style == .singleQuoted) .text [] .none opened.line opened.column opened.rest

def readPlain? (reading : Reading) : Option Reading :=
  reading.readInline? .plain fun next =>
    plainText next.inFlow (next.indent + 1) [] .none next.cursor.line next.cursor.column
      next.cursor.rest

/-- Indicators that a plain scalar cannot begin with. -/
def isIndicator (character : Char) : Bool :=
  "-?:,[]\x7b\x7d#&*!|>'\"%@".toList.contains character || character.toNat == 0x60

/-- Whether a plain scalar begins with a character and what follows it. -/
def beginsPlain (inFlow : Bool) (character : Char) (rest : List Char) : Bool :=
  !(isIndicator character || isBlank character || isBreak character) ||
    (character == '-' && !(rest.head?.any isBlank)) ||
    (!inFlow && (character == '?' || character == ':') && !atGap rest)

/-- Skips blanks, comments, line breaks and marks before lines. A tab counts as a blank
where no key may begin; a line break outside brackets lets a key begin. -/
def skipIdle (inFlow comment allows : Bool) (line column : Nat) :
    List Char → Cursor × Bool
  | [] => (⟨[], line, column⟩, allows)
  | character :: rest =>
      if isBreak character then
        skipIdle inFlow false (allows || !inFlow) (line + 1) 0 rest
      else if comment || character == '#' then
        skipIdle inFlow true allows line (column + 1) rest
      else if column == 0 && isByteOrderMark character then
        skipIdle inFlow false allows line (column + 1) rest
      else if character == ' ' || (character == '\t' && (inFlow || !allows)) then
        skipIdle inFlow false allows line (column + 1) rest
      else (⟨character :: rest, line, column⟩, allows)

def readAt? (reading : Reading) (character : Char) (rest : List Char) : Option Reading :=
  let atStart := reading.cursor.column == 0
  if atStart && character == '%' then reading.readDirective?
  else if atStart && atMarker (character :: rest) then
    reading.readMarker? (if character = '-' then .documentStart else .documentEnd)
  else if character = '[' then reading.openBracket? .openList
  else if character = '\x7b' then reading.openBracket? .openObject
  else if character = ']' then reading.closeBracket? .closeList
  else if character = '\x7d' then reading.closeBracket? .closeObject
  else if character = ',' then reading.readComma?
  else if character = '-' ∧ atGap rest then
    reading.readSign? .openBlockList .item true
  else if character = '?' ∧ (reading.inFlow ∨ atGap rest) then
    reading.readSign? .openBlockObject .key (!reading.inFlow)
  else if character = ':' ∧ (reading.inFlow ∨ atGap rest) then reading.readColon?
  else if character = '*' then
    reading.readProperty? fun cursor =>
      (anchorName? (cursor.skip 1)).map fun (name, next) => (.alias name, next)
  else if character = '&' then
    reading.readProperty? fun cursor =>
      (anchorName? (cursor.skip 1)).map fun (name, next) => (.anchor name, next)
  else if character = '!' then
    reading.readProperty? fun cursor =>
      (tag? reading.inFlow cursor).map fun (text, next) => (.tag text, next)
  else if character = '|' ∧ !reading.inFlow then reading.readBlock? .literal
  else if character = '>' ∧ !reading.inFlow then reading.readBlock? .folded
  else if character = '\'' then reading.readQuoted? .singleQuoted
  else if character = '"' then reading.readQuoted? .doubleQuoted
  else if beginsPlain reading.inFlow character rest then reading.readPlain?
  else none

def next? (reading : Reading) : Option Reading :=
  let (cursor, allows) :=
    skipIdle reading.inFlow false reading.allowsKey reading.cursor.line reading.cursor.column
      reading.cursor.rest
  ((reading.moveTo cursor).allowKey allows).dropStale?.bind fun fresh =>
    match cursor.rest with
    | [] =>
        (if cursor.column = 0 then some fresh
          else (fresh.moveTo ⟨[], cursor.line + 1, 0⟩).dropStale?).bind fun ended =>
          ended.finish?
    | character :: rest => (fresh.closeBlocks cursor.column).readAt? character rest

end Reading

/-! ## All tokens -/

/-- The tokens that stand when the text goes wrong. -/
def standing (reading : Reading) : List Token :=
  reading.tokens.reverse.take reading.settled

/-- Reads tokens up to the end of the text or to where it goes wrong. Every token takes
a character, so a bound on their number loses nothing. -/
def tokensFrom : Nat → Reading → List Token
  | 0, reading => standing reading
  | bound + 1, reading =>
      match reading.dropStale? with
      | none => standing reading
      | some fresh =>
          match fresh.next? with
          | none => standing fresh
          | some next =>
              if next.tokens.head? = some .finish then next.tokens.reverse
              else tokensFrom bound next

/-- The tokens of YAML text; the last one is `finish` unless the text goes wrong. -/
def tokens (text : List Char) : List Token :=
  tokensFrom (text.length + 1) (.start text)

end BlockSchema.Yaml
