/-!
# Binary floating point numbers

A finite number of 64 bits is a sign, a significand of at most 53 bits and a power of two.  Its value is a quotient of
whole numbers, so whatever is asked of it is answered by exact arithmetic.
-/

namespace Tabletop

def twoTo (k : Nat) : Nat := Nat.pow 2 k

/-- The number `significand * 2 ^ exponent`, below zero if it is negative; zero has a sign too. -/
structure Binary64 where
  negative : Bool
  significand : Nat
  exponent : Int
  deriving DecidableEq, Repr

/-- A quotient rounded to the nearest whole number; of two nearest ones the even one. -/
def roundedQuotient (numerator denominator : Nat) : Nat :=
  let q := numerator / denominator
  let twice := 2 * (numerator % denominator)
  if twice < denominator ∨ (twice = denominator ∧ q % 2 = 0) then q else q + 1

namespace Binary64

def significandBits : Nat := 53

/-- The value without its sign is `numerator / denominator`. -/
def numerator (x : Binary64) : Nat := x.significand * twoTo x.exponent.toNat

def denominator (x : Binary64) : Nat := twoTo (-x.exponent).toNat

/-- Infinities and what is not a number are none. -/
def ofBits? (bits : Nat) : Option Binary64 :=
  let negative := bits / twoTo 63 == 1
  let e := bits / twoTo 52 % twoTo 11
  let fraction := bits % twoTo 52
  if e = 2047 then none
  else if e = 0 then some ⟨negative, fraction, -1074⟩
  else some ⟨negative, fraction + twoTo 52, (e : Int) - 1075⟩

def ofFloat? (x : Float) : Option Binary64 := ofBits? x.toBits.toNat

/-- The number nearest to a natural number; none if that is too large for any. -/
def ofNat? (n : Nat) : Option Binary64 :=
  let shift := n.log2 + 1 - significandBits
  let m := roundedQuotient n (twoTo shift)
  let (m, shift) := if m = twoTo significandBits then (m / 2, shift + 1) else (m, shift)
  if shift ≤ 971 then some ⟨false, m, shift⟩ else none

def ofInt? (n : Int) : Option Binary64 :=
  (ofNat? n.natAbs).map fun x => { x with negative := decide (n < 0) }

def signed (x : Binary64) (n : Nat) : Int := if x.negative then -n else n

/-- The whole part, without the fraction. -/
def truncated (x : Binary64) : Int := x.signed (x.numerator / x.denominator)

def isWhole (x : Binary64) : Bool := x.numerator % x.denominator == 0

/-- The least whole number that is not below the number. -/
def ceiling (x : Binary64) : Int :=
  if x.negative then x.truncated else ((x.numerator + x.denominator - 1) / x.denominator : Nat)

end Binary64

end Tabletop
