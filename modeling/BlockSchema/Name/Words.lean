import BlockSchema.Unicode.Letter
import BlockSchema.Unicode.Lowering

/-!
Contract: splitting an identifier into words, and its snake case form.

Every character that is not alphanumeric separates segments. Inside a segment a
word ends before an upper case letter that follows a lower case one, and before
the last letter of an upper case run that a lower case letter follows. Characters
without case leave the state of the run as it is. The words are written in lower
case, joined by underscores.
-/

set_option autoImplicit false

namespace BlockSchema.Name

/-- What the characters of the current word have been so far. -/
inductive Run where
  | fresh
  | lower
  | upper
deriving DecidableEq, Repr

def Run.after (run : Run) (character : Char) : Run :=
  if Unicode.isLowercase character then .lower
  else if Unicode.isUppercase character then .upper
  else run

/-- The words of one segment; `word` holds the characters of the word in progress. -/
def segmentWords (run : Run) (word : List Char) : List Char → List (List Char)
  | [] => []
  | [last] => [word ++ [last]]
  | character :: next :: rest =>
      if run.after character = .lower ∧ Unicode.isUppercase next then
        (word ++ [character]) :: segmentWords .fresh [] (next :: rest)
      else if run = .upper ∧ Unicode.isUppercase character ∧ Unicode.isLowercase next then
        word :: segmentWords .fresh [character] (next :: rest)
      else
        segmentWords (run.after character) (word ++ [character]) (next :: rest)

/-- The maximal alphanumeric segments of a text, in order; `segment` holds the
characters of the segment in progress. -/
def segments (segment : List Char) : List Char → List (List Char)
  | [] => [segment]
  | character :: rest =>
      if Unicode.isAlphanumeric character then segments (segment ++ [character]) rest
      else segment :: segments [] rest

def words (text : List Char) : List (List Char) :=
  (segments [] text).flatMap (segmentWords .fresh [])

/-- A word in lower case. A capital sigma that ends the word takes its final form. -/
def lowerWord : List Char → List Char
  | [] => []
  | [last] => if last = 'Σ' then ['ς'] else Unicode.lowerChars last
  | character :: rest => Unicode.lowerChars character ++ lowerWord rest

def joinWords : List (List Char) → List Char
  | [] => []
  | [word] => word
  | word :: rest => word ++ '_' :: joinWords rest

/-- The snake case form of a list of characters. -/
def snakeChars (text : List Char) : List Char :=
  joinWords ((words text).map lowerWord)

def snake (text : String) : String :=
  String.ofList (snakeChars text.toList)

end BlockSchema.Name
