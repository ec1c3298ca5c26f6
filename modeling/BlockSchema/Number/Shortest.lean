import BlockSchema.Number.Binary64

/-!
Contract: the shortest decimal digits that read back as a given number, and the
layouts in which they are written.

Digits are chosen on ever finer decimal grids: the first grid that has a point in
the interval of reals rounding to the number gives the digits, and of two such
points the nearer one wins. How a point is placed, and where an exponent takes
over, is a decision of each output format and held in a `Layout`.
-/

set_option autoImplicit false

namespace BlockSchema.Shortest

open Binary64

/-- Digits and position: the value is `0.digits * 10 ^ point`. -/
structure Decimal where
  digits : List Char
  point : Int
deriving DecidableEq, Repr

/-- The least `point` with `numerator / denominator < 10 ^ point`, searched upward
from a start that is not too large. -/
def findPoint (numerator denominator : Nat) : Nat → Int → Int
  | 0, point => point
  | steps + 1, point =>
      let below :=
        if 0 ≤ point then decide (numerator < denominator * tenTo point.toNat)
        else decide (numerator * tenTo (-point).toNat < denominator)
      if below then point else findPoint numerator denominator steps (point + 1)

/-- A start for the search of the decimal point, from the binary logarithm. -/
def pointGuess (numerator denominator : Nat) : Int :=
  (floorLog numerator denominator) * 30103 / 100000 - 1

def trimZeros : Nat → Nat → Nat
  | 0, value => value
  | steps + 1, value => if value % 10 = 0 ∧ value ≠ 0 then trimZeros steps (value / 10) else value

/-- The digits of the nearest grid point inside the interval, if there is one. All
amounts are multiples of `1 / denominator`; the grid step is `stepUp / stepDown`. -/
def gridPoint
    (value low high denominator : Nat)
    (closed : Bool)
    (stepUp stepDown : Nat) :
    Option Nat :=
  let count := value * stepDown / (denominator * stepUp)
  let reading (point : Nat) : Nat := point * stepUp * denominator
  let target := value * stepDown
  let inside (point : Nat) : Bool :=
    if closed then low * stepDown ≤ reading point && reading point ≤ high * stepDown
    else low * stepDown < reading point && reading point < high * stepDown
  match inside count, inside (count + 1) with
  | false, false => none
  | true, false => some count
  | false, true => some (count + 1)
  | true, true =>
      let below := target - reading count
      let above := reading (count + 1) - target
      if below < above || (below == above && count % 2 == 0) then some count else some (count + 1)

/-- Searches grids of ever more digits; `left` bounds the number of grids tried. -/
def searchGrids
    (value low high denominator : Nat)
    (closed : Bool)
    (point : Int) :
    Nat → Nat → Nat × Int
  | 0, size => (value, size)
  | left + 1, size =>
      let power := point - size
      let found :=
        if 0 ≤ power then gridPoint value low high denominator closed (tenTo power.toNat) 1
        else gridPoint value low high denominator closed 1 (tenTo (-power).toNat)
      match found with
      | some digits => (digits, power)
      | none => searchGrids value low high denominator closed point left (size + 1)

/-- The shortest decimal of a positive finite magnitude. -/
def ofMagnitude (magnitude : Nat) : Decimal :=
  let digits := significand magnitude
  let power := exponent magnitude - 2
  let narrow := digits = twoTo 52 ∧ twoTo 53 ≤ magnitude
  let unit := if 0 ≤ power then twoTo power.toNat else 1
  let denominator := if 0 ≤ power then 1 else twoTo (-power).toNat
  let value := 4 * digits * unit
  let low := (4 * digits - (if narrow then 1 else 2)) * unit
  let high := (4 * digits + 2) * unit
  let point := findPoint value denominator 8 (pointGuess value denominator)
  let found := searchGrids value low high denominator (digits % 2 == 0) point 20 1
  let trimmed := trimZeros 20 found.1
  let text := Nat.toDigits 10 trimmed
  let whole := Nat.toDigits 10 found.1
  ⟨text, (whole.length : Int) + found.2⟩

/-- Where an exponent takes over: digits are written positionally while the point
lies in the given range. -/
structure Layout where
  lowest : Int
  highest : Int

/-- Text of digits with the point placed by position. -/
def positional (decimal : Decimal) : List Char :=
  let count : Int := decimal.digits.length
  if decimal.point ≤ 0 then
    ['0', '.'] ++ List.replicate (-decimal.point).toNat '0' ++ decimal.digits
  else if count ≤ decimal.point then
    decimal.digits ++ List.replicate (decimal.point - count).toNat '0' ++ ['.', '0']
  else
    decimal.digits.take decimal.point.toNat ++ '.' :: decimal.digits.drop decimal.point.toNat

/-- Text of digits with one digit before the point and an exponent of ten. -/
def scientific (decimal : Decimal) : List Char :=
  let power := decimal.point - 1
  let mantissa :=
    match decimal.digits with
    | [] => ['0']
    | [digit] => [digit]
    | digit :: rest => digit :: '.' :: rest
  mantissa ++ 'e' :: (toString power).toList

/-- The text of a finite number in a layout; zero is `0.0`. -/
def render (layout : Layout) (number : Binary64) : List Char :=
  let sign := if number.isNegative then ['-'] else []
  if number.magnitude = 0 then sign ++ ['0', '.', '0']
  else
    let decimal := ofMagnitude number.magnitude
    if layout.lowest ≤ decimal.point ∧ decimal.point ≤ layout.highest then
      sign ++ positional decimal
    else sign ++ scientific decimal

/-- Numbers inside documents: positional from `0.00001` up to below `10 ^ 16`. -/
def documentLayout : Layout := ⟨-4, 16⟩

/-- Numbers inside messages are always positional. -/
def messageLayout : Layout := ⟨-400, 400⟩

def documentText (number : Binary64) : String :=
  String.ofList (render documentLayout number)

def messageText (number : Binary64) : String :=
  if number.isFinite then String.ofList (render messageLayout number)
  else if number.isNan then "NaN"
  else if number.isNegative then "-inf"
  else "inf"

end BlockSchema.Shortest
