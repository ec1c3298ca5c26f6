/-!
Contract: binary floating point numbers of 64 bits, by their words.

A number is its word, so equality of numbers in statements is equality of words
and every operation here is exact arithmetic on natural numbers followed by one
rounding to the nearest representable value, a tie going to the even one.
-/

set_option autoImplicit false

namespace BlockSchema

/-! ## Powers -/

def twoTo (power : Nat) : Nat := Nat.pow 2 power

def tenTo (power : Nat) : Nat := Nat.pow 10 power

/-! ## Numbers by their words -/

/-- A 64-bit floating point number: sign bit, eleven exponent bits, 52 fraction bits. -/
structure Binary64 where
  word : UInt64
deriving DecidableEq, Repr, Inhabited

namespace Binary64

/-- The word of positive infinity, one above the largest finite magnitude. -/
def infinityMagnitude : Nat := 0x7FF0000000000000

def signBit : Nat := 0x8000000000000000

def magnitude (number : Binary64) : Nat :=
  number.word.toNat % signBit

def isNegative (number : Binary64) : Bool :=
  signBit ≤ number.word.toNat

def isNan (number : Binary64) : Bool :=
  infinityMagnitude < number.magnitude

def isFinite (number : Binary64) : Bool :=
  number.magnitude < infinityMagnitude

/-- The number with a given sign and magnitude word. -/
def ofMagnitude (negative : Bool) (magnitude : Nat) : Binary64 :=
  ⟨UInt64.ofNat (if negative then magnitude + signBit else magnitude)⟩

def zero : Binary64 := ⟨0⟩

/-- Numerical agreement: all words that encode no number agree with each other, and
so do the two zeros. -/
def agrees (left right : Binary64) : Bool :=
  (left.isNan && right.isNan) || left == right ||
    (left.magnitude == 0 && right.magnitude == 0)

/-! ## Values of words -/

/-- The fraction digits of a magnitude, with the leading one of a normal number. -/
def significand (magnitude : Nat) : Nat :=
  if magnitude < twoTo 52 then magnitude else magnitude % twoTo 52 + twoTo 52

/-- The power of two that a finite magnitude's significand is scaled by. -/
def exponent (magnitude : Nat) : Int :=
  if magnitude < twoTo 52 then -1074 else (magnitude / twoTo 52 : Nat) - 1075

/-- The quotient rounded to the nearest natural number, a tie to the even one. -/
def roundQuotient (numerator denominator : Nat) : Nat :=
  let quotient := numerator / denominator
  let twice := 2 * (numerator % denominator)
  if twice > denominator || (twice == denominator && quotient % 2 == 1) then quotient + 1
  else quotient

/-- The largest power of two that does not exceed a positive quotient. -/
def floorLog (numerator denominator : Nat) : Int :=
  let guess : Int := (numerator.log2 : Int) - denominator.log2
  let below : Bool :=
    if 0 ≤ guess then decide (numerator < denominator <<< guess.toNat)
    else decide (numerator <<< (-guess).toNat < denominator)
  if below then guess - 1 else guess

/-- The magnitude nearest to a quotient; beyond the finite range it is infinity. -/
def ofRatio (numerator denominator : Nat) : Nat :=
  if numerator = 0 then 0
  else
    let shift := max (floorLog numerator denominator - 52) (-1074)
    let digits :=
      if 0 ≤ shift then roundQuotient numerator (denominator <<< shift.toNat)
      else roundQuotient (numerator <<< (-shift).toNat) denominator
    let word :=
      if digits < twoTo 52 then digits
      else (shift + 1075).toNat * twoTo 52 + (digits - twoTo 52)
    min word infinityMagnitude

/-- The magnitude nearest to `digits * 2 ^ power`. -/
def ofScaled (digits : Nat) (power : Int) : Nat :=
  if 0 ≤ power then ofRatio (digits <<< power.toNat) 1
  else ofRatio digits (1 <<< (-power).toNat)

/-- The product of two finite magnitudes, rounded. -/
def mulMagnitude (left right : Nat) : Nat :=
  ofScaled (significand left * significand right) (exponent left + exponent right)

/-- The quotient of a finite magnitude by a nonzero finite one, rounded. -/
def divMagnitude (left right : Nat) : Nat :=
  let power := exponent left - exponent right
  if 0 ≤ power then ofRatio (significand left <<< power.toNat) (significand right)
  else ofRatio (significand left) (significand right <<< (-power).toNat)

def ofInt (value : Int) : Binary64 :=
  ofMagnitude (decide (value < 0)) (ofRatio value.natAbs 1)

/-- The magnitude nearest to `digits * 10 ^ power`. Powers so far out that the result
is certainly infinite or zero are decided without computing them. -/
def ofDecimal (digits : Nat) (power : Int) : Nat :=
  if digits = 0 then 0
  else if 400 < power then infinityMagnitude
  else if power + (digits.log2 : Int) < -1200 then 0
  else if 0 ≤ power then ofRatio (digits * tenTo power.toNat) 1
  else ofRatio digits (tenTo (-power).toNat)

end Binary64

end BlockSchema
