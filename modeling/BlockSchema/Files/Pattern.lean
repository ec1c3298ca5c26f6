/-!
Contract: patterns for the names in file paths.

A star stands for any characters, a question mark for one, brackets for one out of a
set or, after an exclamation mark, outside of it. Two stars alone between slashes stand
for any number of directories. Everything else stands for itself.
-/

set_option autoImplicit false

namespace BlockSchema

/-- What stands for characters of a name. -/
inductive Glyph where
  | exactly (character : Char)
  | anyOne
  | anyRun
  | within (ranges : List (Char × Char))
  | without (ranges : List (Char × Char))
  | anyDepth
deriving DecidableEq, Repr

abbrev NamePattern := List Glyph

/-- What is wrong with a pattern. -/
inductive PatternFault where
  | wildcards
  | recursion
  | range
deriving DecidableEq, Repr

/-- Where a pattern is wrong, and how. -/
structure PatternError where
  position : Nat
  fault : PatternFault
deriving DecidableEq, Repr

def PatternFault.words : PatternFault → String
  | .wildcards => "wildcards are either regular `*` or recursive `**`"
  | .recursion => "recursive wildcards must form a single path component"
  | .range => "invalid range pattern"

def PatternError.message (error : PatternError) : String :=
  "Pattern syntax error near position " ++ toString error.position ++ ": " ++
    error.fault.words

namespace Glyph

/-- The ranges that the characters between brackets stand for. -/
def rangesOf : List Char → List (Char × Char)
  | low :: '-' :: high :: rest => (low, high) :: rangesOf rest
  | character :: rest => (character, character) :: rangesOf rest
  | [] => []

/-- Whether a character is in one of some ranges. -/
def covers (ranges : List (Char × Char)) (character : Char) : Bool :=
  ranges.any fun range => range.1 ≤ character && character ≤ range.2

/-- Whether a character is what a glyph for one character stands for. -/
def admits : Glyph → Char → Bool
  | .exactly expected, character => expected = character
  | .anyOne, _ => true
  | .within ranges, character => covers ranges character
  | .without ranges, character => !covers ranges character
  | .anyRun, _ | .anyDepth, _ => false

/-- The only character that a glyph stands for. -/
def character? : Glyph → Option Char
  | .exactly character => some character
  | _ => none

end Glyph

namespace NamePattern

/-- What is before a closing bracket, and what comes after it. -/
def splitAtClose : List Char → Option (List Char × List Char)
  | [] => none
  | ']' :: rest => some ([], rest)
  | character :: rest => (splitAtClose rest).map fun (inner, after) => (character :: inner, after)

theorem splitAtClose_shortens
    (characters inner after : List Char)
    (found : splitAtClose characters = some (inner, after)) :
    after.length < characters.length := by
  induction characters generalizing inner with
  | nil => simp [splitAtClose] at found
  | cons character rest inductionHypothesis =>
      by_cases close : character = ']'
      · subst close
        simp [splitAtClose] at found
        simp [found.2]
      · simp only [splitAtClose, Option.map_eq_some_iff, Prod.mk.injEq] at found
        obtain ⟨⟨front, back⟩, foundRest, -, same⟩ := found
        have shorter := inductionHypothesis front (same ▸ foundRest)
        simp only [List.length_cons]
        omega

/-- Reads glyphs at a position; a component starts there or goes on. -/
def read (position : Nat) (starts : Bool) :
    List Char → Except PatternError (List Glyph)
  | [] => .ok []
  | '?' :: rest => return .anyOne :: (← read (position + 1) false rest)
  | '*' :: '*' :: '*' :: _ => .error ⟨position + 2, .wildcards⟩
  | '*' :: '*' :: rest =>
      if !starts then .error ⟨position - 1, .recursion⟩
      else
        match rest with
        | [] => .ok [.anyDepth]
        | '/' :: after => return .anyDepth :: (← read (position + 3) true after)
        | _ => .error ⟨position + 2, .recursion⟩
  | '*' :: rest => return .anyRun :: (← read (position + 1) false rest)
  | '[' :: '!' :: first :: rest =>
      match found : splitAtClose rest with
      | none => .error ⟨position, .range⟩
      | some (inner, after) =>
          have := splitAtClose_shortens rest inner after found
          return .without (Glyph.rangesOf (first :: inner)) ::
            (← read (position + 4 + inner.length) false after)
  | '[' :: first :: rest =>
      if first = '!' then .error ⟨position, .range⟩
      else
        match found : splitAtClose rest with
        | none => .error ⟨position, .range⟩
        | some (inner, after) =>
            have := splitAtClose_shortens rest inner after found
            return .within (Glyph.rangesOf (first :: inner)) ::
              (← read (position + 3 + inner.length) false after)
  | ['['] => .error ⟨position, .range⟩
  | character :: rest =>
      return .exactly character :: (← read (position + 1) (character = '/') rest)
termination_by characters => characters.length
decreasing_by all_goals (simp_wf; try omega)

def ofText? (text : String) : Except PatternError NamePattern :=
  read 0 true text.toList

/-- The only name that a pattern stands for, when it has no wildcards. -/
def literal? (pattern : NamePattern) : Option String :=
  (List.mapM Glyph.character? pattern).map String.ofList

/-- Whether a pattern stands for any number of directories. -/
def isRecursive (pattern : NamePattern) : Bool :=
  pattern.contains .anyDepth

/-- Whether the characters of a name are what glyphs stand for. -/
def admits : List Glyph → List Char → Bool
  | [], [] => true
  | [], _ :: _ => false
  | .anyRun :: rest, characters =>
      admits rest characters ||
        (match characters with
        | [] => false
        | _ :: tail => admits (.anyRun :: rest) tail)
  | _ :: _, [] => false
  | glyph :: rest, character :: tail => glyph.admits character && admits rest tail
termination_by glyphs characters => glyphs.length + characters.length

/-- Whether a name is what a pattern stands for. -/
def isFor (pattern : NamePattern) (name : String) : Bool :=
  admits pattern name.toList

end NamePattern

def FilePath.isPattern (path : String) : Bool :=
  path.toList.any fun character => character = '*' || character = '?' || character = '['

end BlockSchema
