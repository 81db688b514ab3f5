import Tabletop.Binary64

/-!
# Binary numbers in decimal notation

`Decimal.rounded` gives a binary number to a number of decimal digits, `Decimal.shortest` the fewest digits that
identify it among its neighbours.  Both are found by comparing whole numbers.  A decimal is written out either by
position or with an exponent.
-/

namespace Tabletop

def tenTo (k : Nat) : Nat := Nat.pow 10 k

def digitCount (n : Nat) : Nat := (Nat.toDigits 10 n).length

/-- The digits of a number as a fraction behind the point, times `10 ^ point`. -/
structure Decimal where
  digits : List Char
  point : Int
  deriving DecidableEq, Repr

namespace Binary64

/-- The least power of ten above a number that is not zero. -/
def decimalPoint (x : Binary64) : Int :=
  let whole := x.numerator / x.denominator
  if whole ≠ 0 then digitCount whole else 1 - (digitCount ((x.denominator - 1) / x.numerator) : Int)

/-- The nearest whole number to the number times `10 ^ places`, without its sign. -/
def scaled (x : Binary64) (places : Int) : Nat :=
  roundedQuotient (x.numerator * tenTo places.toNat) (x.denominator * tenTo (-places).toNat)

/-- Below the least number with a given exponent, neighbours are twice as close. -/
def isNarrowBelow (x : Binary64) : Bool :=
  x.significand == twoTo 52 && decide (-1074 < x.exponent)

/-- The numbers nearer to this one than to its neighbours lie between `low` and `high` quarters of its last place.
The bounds belong to it if the significand is even. -/
def identifies (x : Binary64) (n : Nat) (places : Int) : Bool :=
  let low := 4 * x.significand - (if x.isNarrowBelow then 1 else 2)
  let high := 4 * x.significand + 2
  let quarters := 4 * n * tenTo (-places).toNat * x.denominator
  let unit := twoTo x.exponent.toNat * tenTo places.toNat
  if x.significand % 2 = 0 then decide (low * unit ≤ quarters) && decide (quarters ≤ high * unit)
  else decide (low * unit < quarters) && decide (quarters < high * unit)

/-- The nearest decimal with a number of places that identifies a number, if there is one.  Only the two decimals
around the number can be. -/
def identified? (x : Binary64) (places : Int) : Option Nat :=
  let nearest := x.scaled places
  let below := x.numerator * tenTo places.toNat / (x.denominator * tenTo (-places).toNat)
  let other := if nearest = below then below + 1 else below
  if x.identifies nearest places then some nearest
  else if x.identifies other places then some other
  else none

end Binary64

namespace Decimal

def zeros (n : Nat) : List Char := List.replicate n '0'

def trimZeros (digits : List Char) : List Char := (digits.reverse.dropWhile (· == '0')).reverse

/-- A decimal of `count` digits, which may have become one more by rounding. -/
def ofScaled (n count : Nat) (point : Int) : Decimal :=
  let digits := Nat.toDigits 10 n
  ⟨digits.take count, point + (digits.length - count : Int)⟩

/-- A number to `count` digits, which is at least one. -/
def rounded (x : Binary64) (count : Nat) : Decimal :=
  if x.significand = 0 then ⟨zeros count, 1⟩
  else ofScaled (x.scaled (count - x.decimalPoint)) count x.decimalPoint

/-- The decimal of `count` digits that identifies a number, if there is one. -/
def identifying? (x : Binary64) (count : Nat) : Option Decimal :=
  (x.identified? (count - x.decimalPoint)).map fun n => ofScaled n count x.decimalPoint

/-- The fewest digits that identify a number; seventeen always do. -/
def shortest (x : Binary64) : Decimal :=
  if x.significand = 0 then ⟨['0'], 1⟩
  else
    let d := ((List.range' 1 17).findSome? (identifying? x)).getD (rounded x 17)
    { d with digits := trimZeros d.digits }

/-! ### Writing -/

/-- The exponent of the first digit. -/
def exponent (d : Decimal) : Int := d.point - 1

/-- The whole part and the digits behind the point. -/
def byPosition (d : Decimal) : List Char × List Char :=
  if d.point ≤ 0 then (['0'], zeros (-d.point).toNat ++ d.digits)
  else
    let n := d.point.toNat
    (d.digits.take n ++ zeros (n - d.digits.length), d.digits.drop n)

def joinPoint (alwaysPoint : Bool) (parts : List Char × List Char) : List Char :=
  if parts.2.isEmpty && !alwaysPoint then parts.1 else parts.1 ++ '.' :: parts.2

/-- An exponent has a sign and at least two digits. -/
def exponentText (e : Int) : List Char :=
  let digits := Nat.toDigits 10 e.natAbs
  (if e < 0 then '-' else '+') :: zeros (2 - digits.length) ++ digits

def withExponent (alwaysPoint : Bool) (d : Decimal) : List Char :=
  joinPoint alwaysPoint (d.digits.take 1, d.digits.drop 1) ++ 'e' :: exponentText d.exponent

end Decimal

namespace Binary64

def signText (x : Binary64) : List Char := if x.negative then ['-'] else []

/-- A number with a fixed number of decimal places, without its sign. -/
def fixed (x : Binary64) (alwaysPoint : Bool) (places : Nat) : List Char :=
  let digits := Nat.toDigits 10 (x.scaled places)
  let digits := Decimal.zeros (places + 1 - digits.length) ++ digits
  Decimal.joinPoint alwaysPoint (digits.take (digits.length - places), digits.drop (digits.length - places))

/-- A number with one digit before the point and an exponent, without its sign. -/
def scientific (x : Binary64) (alwaysPoint : Bool) (places : Nat) : List Char :=
  (Decimal.rounded x (places + 1)).withExponent alwaysPoint

/-- A number to `count` digits, by position if its exponent is at least -4 and below the count.  Zeros at the end are
kept together with the point. -/
def general (x : Binary64) (keepZeros : Bool) (count : Nat) : List Char :=
  let count := max 1 count
  let d := Decimal.rounded x count
  let byPosition := decide (-4 ≤ d.exponent) && decide (d.exponent < count)
  let d := if keepZeros then d else { d with digits := Decimal.trimZeros d.digits }
  if byPosition then Decimal.joinPoint keepZeros d.byPosition
  else
    let d := if d.digits.isEmpty then { d with digits := ['0'] } else d
    d.withExponent keepZeros

/-- The fewest digits that identify a number, by position from `0.0001` up to below `10 ^ 16` and then with at least one
digit behind the point. -/
def text (x : Binary64) : String :=
  let d := Decimal.shortest x
  let body :=
    if -4 ≤ d.exponent ∧ d.exponent < 16 then
      let (whole, fraction) := d.byPosition
      Decimal.joinPoint true (whole, if fraction.isEmpty then ['0'] else fraction)
    else d.withExponent false
  String.ofList (x.signText ++ body)

end Binary64

end Tabletop
