import BlockSchema.Number.Binary64

/-!
Contract: numbers read from document text.

A literal is split into its digits once; `Literal.value?` gives the number that
JSON text means by it and `nearest` the number that YAML text means. JSON text
gathers at most one machine word of digits and then scales by a power of ten in
two rounded steps, so its last bit can differ from the nearest number.
-/

set_option autoImplicit false

namespace BlockSchema

/-- The value of a hexadecimal digit in either case. -/
def Text.hexValue? (character : Char) : Option Nat :=
  let code := character.toNat
  if character.isDigit then some (code - '0'.toNat)
  else if 'a' ≤ character ∧ character ≤ 'f' then some (code - 'a'.toNat + 10)
  else if 'A' ≤ character ∧ character ≤ 'F' then some (code - 'A'.toNat + 10)
  else none

/-- A number of a document: an integer of the machine's range or a real. -/
inductive Number where
  | int (value : Int)
  | real (value : Binary64)
deriving DecidableEq, Repr, Inhabited

namespace Number

def maxWord : Nat := twoTo 64 - 1

/-- A number literal: sign, digits before the point, digits after it, and exponent. -/
structure Literal where
  negative : Bool
  whole : List Nat
  fraction : Option (List Nat)
  exponent : Option (Bool × List Nat)
deriving DecidableEq, Repr

/-- Gathers digits while they fit a machine word; the count of the others follows. -/
def gatherWhole (gathered : Nat) : List Nat → Nat × Nat
  | [] => (gathered, 0)
  | digit :: rest =>
      if gathered * 10 + digit ≤ maxWord then gatherWhole (gathered * 10 + digit) rest
      else (gathered, (digit :: rest).length)

/-- Gathers digits after the point while they fit; the count of those taken follows. -/
def gatherFraction (gathered taken : Nat) : List Nat → Nat × Nat
  | [] => (gathered, taken)
  | digit :: rest =>
      if gathered * 10 + digit ≤ maxWord then
        gatherFraction (gathered * 10 + digit) (taken + 1) rest
      else (gathered, taken)

/-- The magnitude of a power of ten, rounded. -/
def tenPower (power : Nat) : Nat :=
  Binary64.ofRatio (tenTo power) 1

/-- Division by a power of ten, in steps of at most `10 ^ 308`. -/
def scaleDown (magnitude : Nat) (power : Nat) : Nat :=
  if power ≤ 308 then Binary64.divMagnitude magnitude (tenPower power)
  else if magnitude = 0 then 0
  else scaleDown (Binary64.divMagnitude magnitude (tenPower 308)) (power - 308)
termination_by power

/-- Multiplication by a power of ten; out of range it has no value. -/
def scaleUp? (magnitude : Nat) (power : Nat) : Option Nat :=
  if power ≤ 308 then
    let scaled := Binary64.mulMagnitude magnitude (tenPower power)
    if scaled < Binary64.infinityMagnitude then some scaled else none
  else if magnitude = 0 then some 0
  else none

/-- A gathered integer scaled by a power of ten. -/
def scale? (gathered : Nat) (power : Int) : Option Nat :=
  let magnitude := Binary64.ofRatio gathered 1
  if 0 ≤ power then scaleUp? magnitude power.toNat
  else some (scaleDown magnitude (-power).toNat)

/-- The natural number with the given decimal digits. -/
def natOfDigits (digits : List Nat) : Nat :=
  digits.foldl (fun value digit => value * 10 + digit) 0

/-- The largest exponent that is taken literally. -/
def maxExponent : Nat := twoTo 31 - 1

/-- The number that JSON text means by a literal; a real out of range has none. -/
def Literal.value? (literal : Literal) : Option Number :=
  let whole := gatherWhole 0 literal.whole
  match literal.fraction, literal.exponent, whole.2 with
  | none, none, 0 =>
      if literal.negative then
        if whole.1 = 0 ∨ twoTo 63 < whole.1 then
          some (.real (Binary64.ofMagnitude true (Binary64.ofRatio whole.1 1)))
        else some (.int (-(whole.1 : Int)))
      else some (.int whole.1)
  | fraction, exponent, skipped =>
      let gathered := gatherFraction whole.1 0 (fraction.getD [])
      let start : Int := (skipped : Int) - gathered.2
      let magnitude? :=
        match exponent with
        | none => scale? gathered.1 start
        | some (down, digits) =>
            let size := natOfDigits digits
            if maxExponent < size then
              if gathered.1 = 0 ∨ down then some 0 else none
            else scale? gathered.1 (if down then start - size else start + size)
      magnitude?.map fun magnitude => .real (Binary64.ofMagnitude literal.negative magnitude)

def Literal.nearest (literal : Literal) : Binary64 :=
  let fraction := literal.fraction.getD []
  let digits := natOfDigits (literal.whole ++ fraction)
  let power : Int :=
    match literal.exponent with
    | none => 0
    | some (down, size) =>
        if down then -(natOfDigits size : Int) else natOfDigits size
  Binary64.ofMagnitude literal.negative
    (Binary64.ofDecimal digits (power - fraction.length))

end Number

end BlockSchema
