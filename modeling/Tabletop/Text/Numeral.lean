import Tabletop.Text.Blank
import Tabletop.Text.Quoted

/-!
# Reading whole numbers

A numeral is an optional sign and decimal digits of any script, single underscores between digits allowed and
white space around the whole.  More than `maxDigits` digits are refused before anything after them is looked at.
-/

namespace Tabletop.Text

/-- The zeros of the decimal digits; each is followed by the other nine digits in order. -/
def decimalZeros : List Nat :=
  [0x0030, 0x0660, 0x06F0, 0x07C0, 0x0966, 0x09E6, 0x0A66, 0x0AE6, 0x0B66, 0x0BE6, 0x0C66, 0x0CE6, 0x0D66,
   0x0DE6, 0x0E50, 0x0ED0, 0x0F20, 0x1040, 0x1090, 0x17E0, 0x1810, 0x1946, 0x19D0, 0x1A80, 0x1A90, 0x1B50,
   0x1BB0, 0x1C40, 0x1C50, 0xA620, 0xA8D0, 0xA900, 0xA9D0, 0xA9F0, 0xAA50, 0xABF0, 0xFF10, 0x104A0,
   0x10D30, 0x11066, 0x110F0, 0x11136, 0x111D0, 0x112F0, 0x11450, 0x114D0, 0x11650, 0x116C0, 0x11730,
   0x118E0, 0x11950, 0x11C50, 0x11D50, 0x11DA0, 0x16A60, 0x16AC0, 0x16B50, 0x1D7CE, 0x1D7D8, 0x1D7E2,
   0x1D7EC, 0x1D7F6, 0x1E140, 0x1E2F0, 0x1E950, 0x1FBF0]

def digitValue? (c : Char) : Option Nat :=
  (decimalZeros.find? fun z => decide (z ≤ c.toNat) && decide (c.toNat ≤ z + 9)).map (c.toNat - ·)

def isDecimalDigit (c : Char) : Bool := (digitValue? c).isSome

/-- The number that digits of any script write. -/
def digitsValue (digits : List Char) : Nat :=
  digits.foldl (fun n c => 10 * n + (digitValue? c).getD 0) 0

inductive Sign where
  | plus
  | minus
  deriving DecidableEq, Repr

def Sign.apply : Sign → Nat → Int
  | plus, n => n
  | minus, n => -n

def splitSign : List Char → Sign × List Char
  | '+' :: rest => (.plus, rest)
  | '-' :: rest => (.minus, rest)
  | text => (.plus, text)

inductive NumeralFault where
  | notANumeral (text : String)
  | tooManyDigits (count : Nat)
  deriving DecidableEq, Repr

def maxDigits : Nat := 4300

/-- The quoted text is cut off after this many characters. -/
def maxQuoted : Nat := 200

namespace NumeralFault

def message : NumeralFault → String
  | notANumeral text =>
    "invalid literal for int() with base 10: " ++ String.ofList ((quoted text.toList).take maxQuoted)
  | tooManyDigits n =>
    s!"Exceeds the limit ({maxDigits} digits) for integer string conversion: value has {n} digits; " ++
      "use sys.set_int_max_str_digits() to increase the limit"

end NumeralFault

def readInteger (text : String) : Except NumeralFault Int :=
  let (sign, body) := splitSign (text.toList.dropWhile isWhiteSpace)
  let inNumeral := fun c => isDecimalDigit c || c == '_'
  let groups := (body.takeWhile inNumeral).splitOn '_'
  if groups.any List.isEmpty then .error (.notANumeral text)
  else if maxDigits < groups.flatten.length then .error (.tooManyDigits groups.flatten.length)
  else if (body.dropWhile inNumeral).all isWhiteSpace then .ok (sign.apply (digitsValue groups.flatten))
  else .error (.notANumeral text)

end Tabletop.Text
