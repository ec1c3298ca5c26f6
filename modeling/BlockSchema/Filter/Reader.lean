import BlockSchema.Filter.Basic
import BlockSchema.Filter.Token

/-!
Contract: filters from their text.

Pipes bind least, then commas, alternatives, comparisons, signs and suffixes. The value
of an object's entry holds no comma by itself. The bound that the readers carry counts
how deep they call each other; a text of some number of tokens stays below a small
multiple of it.
-/

set_option autoImplicit false

namespace BlockSchema.Filter

/-- What a reader found, and the tokens after it; none when the text is malformed. -/
abbrev Parsed := Option (Filter × List Token)

def keywords : List String :=
  ["if", "then", "elif", "else", "end", "and", "or", "def", "reduce", "foreach", "try",
   "catch", "label", "import", "include", "as"]

def textLiteral (text : String) : Filter :=
  .literal (.text text)

/-- The key of an object's entry that is a name or a text, with the value it stands for
when none is written. -/
def simpleKey? : Token → Option String
  | .name text | .text text => some text
  | _ => none

mutual

/-- Reads a filter. Commas can be left to the context. -/
def readPipe (bound : Nat) (commas : Bool) (tokens : List Token) : Parsed :=
  match bound with
  | 0 => none
  | bound + 1 => do
      let (first, rest) ← readComma bound commas tokens
      match rest with
      | .sign "|" :: later =>
          let (second, last) ← readPipe bound commas later
          return (.pipe first second, last)
      | _ => return (first, rest)

def readComma (bound : Nat) (commas : Bool) (tokens : List Token) : Parsed :=
  match bound with
  | 0 => none
  | bound + 1 => do
      let (first, rest) ← readAlternative bound tokens
      if commas then readMore bound first rest else return (first, rest)

/-- Reads what follows a comma, if one comes. -/
def readMore (bound : Nat) (first : Filter) (tokens : List Token) : Parsed :=
  match bound, tokens with
  | bound + 1, .sign "," :: later => do
      let (second, rest) ← readAlternative bound later
      readMore bound (.comma first second) rest
  | _, rest => some (first, rest)

def readAlternative (bound : Nat) (tokens : List Token) : Parsed :=
  match bound with
  | 0 => none
  | bound + 1 => do
      let (first, rest) ← readComparison bound tokens
      match rest with
      | .sign "//" :: later =>
          let (second, last) ← readAlternative bound later
          return (.alternative first second, last)
      | _ => return (first, rest)

def readComparison (bound : Nat) (tokens : List Token) : Parsed :=
  match bound with
  | 0 => none
  | bound + 1 => do
      let (left, rest) ← readSigned bound tokens
      match rest with
      | .sign "==" :: later =>
          let (right, last) ← readSigned bound later
          return (.equals left right, last)
      | .sign "!=" :: later =>
          let (right, last) ← readSigned bound later
          return (.differs left right, last)
      | _ => return (left, rest)

def readSigned (bound : Nat) (tokens : List Token) : Parsed :=
  match bound, tokens with
  | bound + 1, .sign "-" :: later => do
      let (operand, rest) ← readSigned bound later
      return (.negate operand, rest)
  | bound + 1, tokens => do
      let (term, rest) ← readTerm bound tokens
      readSuffixes bound term rest
  | 0, _ => none

def readTerm (bound : Nat) (tokens : List Token) : Parsed :=
  match bound with
  | 0 => none
  | bound + 1 =>
      match tokens with
      | .field name :: rest => some (.index .identity (textLiteral name), rest)
      | .sign "." :: .text name :: rest => some (.index .identity (textLiteral name), rest)
      | .sign "." :: rest => some (.identity, rest)
      | .number value :: rest => some (.literal (.number value), rest)
      | .text value :: rest => some (textLiteral value, rest)
      | .variable name :: rest => some (.variable name, rest)
      | .sign "(" :: rest => do
          let (inner, later) ← readPipe bound true rest
          match later with
          | .sign ")" :: last => return (inner, last)
          | _ => none
      | .sign "[" :: .sign "]" :: rest => some (.collect none, rest)
      | .sign "[" :: rest => do
          let (inner, later) ← readPipe bound true rest
          match later with
          | .sign "]" :: last => return (.collect (some inner), last)
          | _ => none
      | .sign "\x7b" :: .sign "\x7d" :: rest => some (.object [], rest)
      | .sign "\x7b" :: rest => do
          let (entries, later) ← readEntries bound rest
          return (.object entries, later)
      | .name "if" :: rest => readConditional bound rest
      | .name name :: .sign "(" :: rest =>
          if keywords.contains name then none
          else do
            let (arguments, later) ← readArguments bound rest
            return (.call name arguments, later)
      | .name name :: rest =>
          if keywords.contains name then none else some (.call name [], rest)
      | _ => none

def readSuffixes (bound : Nat) (term : Filter) (tokens : List Token) : Parsed :=
  match bound with
  | 0 => none
  | bound + 1 =>
      match tokens with
      | .field name :: rest => readSuffixes bound (.index term (textLiteral name)) rest
      | .sign "." :: .text name :: rest =>
          readSuffixes bound (.index term (textLiteral name)) rest
      | .sign "." :: .sign "[" :: rest => readBracket bound term rest
      | .sign "[" :: rest => readBracket bound term rest
      | rest => some (term, rest)

/-- Reads a suffix in brackets and the suffixes after it. -/
def readBracket (bound : Nat) (term : Filter) (tokens : List Token) : Parsed :=
  match bound with
  | 0 => none
  | bound + 1 =>
      match tokens with
      | .sign "]" :: rest => readSuffixes bound (.parts term) rest
      | .sign ":" :: rest => do
          let (high, later) ← readPipe bound true rest
          match later with
          | .sign "]" :: last => readSuffixes bound (.slice term none (some high)) last
          | _ => none
      | _ => do
          let (low, rest) ← readPipe bound true tokens
          match rest with
          | .sign "]" :: later => readSuffixes bound (.index term low) later
          | .sign ":" :: .sign "]" :: later =>
              readSuffixes bound (.slice term (some low) none) later
          | .sign ":" :: later =>
              let (high, last) ← readPipe bound true later
              match last with
              | .sign "]" :: final => readSuffixes bound (.slice term (some low) (some high)) final
              | _ => none
          | _ => none

/-- Reads the entries of an object up to its closing brace. -/
def readEntries (bound : Nat) (tokens : List Token) :
    Option (List (Filter × Filter) × List Token) :=
  match bound with
  | 0 => none
  | bound + 1 => do
      let (entry, rest) ← readEntry bound tokens
      match rest with
      | .sign "\x7d" :: later => return ([entry], later)
      | .sign "," :: later =>
          let (entries, last) ← readEntries bound later
          return (entry :: entries, last)
      | _ => none

/-- Reads an entry of an object. A key by itself takes the part of that name. -/
def readEntry (bound : Nat) (tokens : List Token) :
    Option ((Filter × Filter) × List Token) :=
  match bound with
  | 0 => none
  | bound + 1 =>
      match tokens with
      | .sign "(" :: rest => do
          let (key, later) ← readPipe bound true rest
          match later with
          | .sign ")" :: .sign ":" :: last =>
              let (value, final) ← readPipe bound false last
              return ((key, value), final)
          | _ => none
      | .variable name :: rest => some ((textLiteral name, .variable name), rest)
      | key :: .sign ":" :: rest => do
          let name ← simpleKey? key
          let (value, later) ← readPipe bound false rest
          return ((textLiteral name, value), later)
      | key :: rest => do
          let name ← simpleKey? key
          return ((textLiteral name, .index .identity (textLiteral name)), rest)
      | [] => none

/-- Reads a conditional from after its first word. -/
def readConditional (bound : Nat) (tokens : List Token) : Parsed :=
  match bound with
  | 0 => none
  | bound + 1 => do
      let (condition, rest) ← readPipe bound true tokens
      match rest with
      | .name "then" :: later =>
          let (whenTrue, last) ← readPipe bound true later
          match last with
          | .name "end" :: final => return (.conditional condition whenTrue .identity, final)
          | .name "elif" :: final =>
              let (whenFalse, after) ← readConditional bound final
              return (.conditional condition whenTrue whenFalse, after)
          | .name "else" :: final =>
              let (whenFalse, after) ← readPipe bound true final
              match after with
              | .name "end" :: ended =>
                  return (.conditional condition whenTrue whenFalse, ended)
              | _ => none
          | _ => none
      | _ => none

/-- Reads the arguments of a call up to the closing parenthesis. -/
def readArguments (bound : Nat) (tokens : List Token) : Option (List Filter × List Token) :=
  match bound with
  | 0 => none
  | bound + 1 => do
      let (argument, rest) ← readPipe bound true tokens
      match rest with
      | .sign ")" :: later => return ([argument], later)
      | .sign ";" :: later =>
          let (arguments, last) ← readArguments bound later
          return (argument :: arguments, last)
      | _ => none

end

def ofText? (text : String) : Option Filter :=
  let all := tokens text
  match readPipe (8 * all.length + 8) true all with
  | some (filter, []) => some filter
  | _ => none

end BlockSchema.Filter
