import Tabletop.Value

/-!
# Places of a template

A place of a template tells how the value that goes there is written: a letter stands for the notation, before it may
stand flags, a least width and a precision.  `Figure.ofValue` writes a value in a notation, `Figure.layOut` brings it to
its width.
-/

namespace Tabletop

/-- Why a template cannot be filled. -/
inductive TemplateFault where
  | unfinishedKey
  | unfinishedPlace
  | unknownNotation (letter : Char) (position : Nat)
  | objectWanted
  | indexWanted
  | missingKey (name : String)
  | missingIndex
  | tooFewValues
  | tooManyValues
  | unmeasured (found : String)
  | measureWanted
  | widthTooLarge
  | precisionTooLarge
  | givenWidthTooLarge
  | givenPrecisionTooLarge
  | wholeNumberWanted (letter : Char) (found : String)
  | numberWanted (letter : Char) (found : String)
  | realNumberWanted (found : String)
  | numberTooLarge
  | characterWanted
  | noSuchCharacter
  | noRoom
  deriving DecidableEq, Repr

namespace TemplateFault

def shownLetter (c : Char) : Char :=
  if 0x1F ≤ c.toNat ∧ c.toNat ≤ 0x7E then c else '?'

def message : TemplateFault → String
  | unfinishedKey => "incomplete format key"
  | unfinishedPlace => "incomplete format"
  | unknownNotation letter position =>
    "unsupported format character '" ++ String.ofList [shownLetter letter] ++ "' (0x" ++
      String.ofList (Nat.toDigits 16 letter.toNat) ++ ") at index " ++ toString position
  | objectWanted => "format requires a mapping"
  | indexWanted => "list indices must be integers or slices, not str"
  | missingKey name => Value.quotedText name
  | missingIndex => "0"
  | tooFewValues => "not enough arguments for format string"
  | tooManyValues => "not all arguments converted during string formatting"
  | unmeasured found => "object of type '" ++ found ++ "' has no len()"
  | measureWanted => "* wants int"
  | widthTooLarge => "width too big"
  | precisionTooLarge => "precision too big"
  | givenWidthTooLarge => "Python int too large to convert to C ssize_t"
  | givenPrecisionTooLarge => "Python int too large to convert to C int"
  | wholeNumberWanted letter found =>
    "%" ++ String.ofList [letter] ++ " format: an integer is required, not " ++ found
  | numberWanted letter found =>
    "%" ++ String.ofList [letter] ++ " format: a real number is required, not " ++ found
  | realNumberWanted found => "must be real number, not " ++ found
  | numberTooLarge => "int too large to convert to float"
  | characterWanted => "%c requires int or char"
  | noSuchCharacter => "%c arg not in range(0x110000)"
  | noRoom => ""

end TemplateFault

/-! ### What a place asks for -/

structure Flags where
  /-- Filled up on the right. -/
  left : Bool
  /-- A plus sign before numbers that are not negative. -/
  plus : Bool
  /-- A blank in the place of that sign. -/
  blank : Bool
  /-- The longer form of a notation. -/
  long : Bool
  /-- Numbers are filled up with zeros behind the sign. -/
  zeros : Bool
  deriving DecidableEq, Repr

/-- A number in the template, or the next of the values. -/
inductive Measure where
  | written (n : Nat)
  | given
  deriving DecidableEq, Repr

inductive PlaceKey where
  | name (s : String)
  | unclosed
  deriving DecidableEq, Repr

structure Place where
  key : Option PlaceKey
  flags : Flags
  width : Option Measure
  precision : Option Measure
  /-- The letter of the notation and its position in the template; none if the template ends before it. -/
  letter : Option (Char × Nat)
  deriving DecidableEq, Repr

/-! ### Figures -/

/-- A written value, with what of it stays in front when it is filled up with zeros. -/
structure Figure where
  front : List Char := []
  body : List Char
  isNumber : Bool := false
  deriving DecidableEq, Repr

namespace Figure

def layOut (f : Figure) (flags : Flags) (width : Nat) : List Char :=
  let missing := width - (f.front.length + f.body.length)
  if flags.left then f.front ++ f.body ++ List.replicate missing ' '
  else if flags.zeros && f.isNumber then f.front ++ List.replicate missing '0' ++ f.body
  else List.replicate missing ' ' ++ f.front ++ f.body

def sign (flags : Flags) (negative : Bool) : List Char :=
  if negative then ['-'] else if flags.plus then ['+'] else if flags.blank then [' '] else []

/-! ### Texts -/

def asciiChar (c : Char) : List Char :=
  if c.toNat < 0x80 then [c] else Text.escapeCode c.toNat

/-- The precision is the longest length. -/
def ofText (precision : Option Nat) (text : List Char) : Figure :=
  { body := text.take (precision.getD text.length) }

def ofCharacter : Value → Except TemplateFault Figure
  | .text s =>
    match s.toList with
    | [c] => .ok { body := [c] }
    | _ => .error .characterWanted
  | v =>
    match v.asInteger? with
    | none => .error .characterWanted
    | some n =>
      if 0 ≤ n ∧ n < 0x110000 then .ok { body := [Char.ofNat n.toNat] } else .error .noSuchCharacter

/-! ### Whole numbers -/

/-- Nothing is filled up to this length. -/
def room : Nat := 1000000000

def checkRoom (length : Nat) : Except TemplateFault Unit :=
  if length < room then .ok () else .error .noRoom

/-- The precision is the least number of digits; the long form names a base other than ten. -/
def ofWhole (flags : Flags) (precision : Option Nat) (letter : Char) (n : Int) : Figure :=
  let base := if letter = 'o' then 8 else if letter = 'x' ∨ letter = 'X' then 16 else 10
  let digits := Nat.toDigits base n.natAbs
  let digits := Decimal.zeros (precision.getD 0 - digits.length) ++ digits
  let marker := if flags.long && base != 10 then ['0', letter] else []
  { front := sign flags (n < 0) ++ marker
    body := if letter = 'X' then digits.map Char.toUpper else digits
    isNumber := true }

/-- In decimal notation a fraction is cut off. -/
def whole (letter : Char) : Value → Except TemplateFault Int
  | .real x => .ok x.truncated
  | v =>
    match v.asInteger? with
    | some n => .ok n
    | none => .error (.numberWanted letter v.kindName)

def exactWhole (letter : Char) (v : Value) : Except TemplateFault Int :=
  match v.asInteger? with
  | some n => .ok n
  | none => .error (.wholeNumberWanted letter v.kindName)

/-! ### Numbers with a point -/

def real : Value → Except TemplateFault Binary64
  | .real x => .ok x
  | v =>
    match v.asInteger? with
    | none => .error (.realNumberWanted v.kindName)
    | some n =>
      match Binary64.ofInt? n with
      | some x => .ok x
      | none => .error .numberTooLarge

/-- Six digits unless a precision is given; a capital letter is also that of the exponent. -/
def ofReal (flags : Flags) (precision : Option Nat) (letter : Char) (x : Binary64) : Figure :=
  let count := precision.getD 6
  let body :=
    match letter.toLower with
    | 'e' => x.scientific flags.long count
    | 'f' => x.fixed flags.long count
    | _ => x.general flags.long count
  { front := sign flags x.negative
    body := if letter.isUpper then body.map Char.toUpper else body
    isNumber := true }

/-! ### Notations -/

/-- A value in the notation of a letter, which stands at a position of the template. -/
def ofValue (flags : Flags) (precision : Option Nat) (letter : Char) (position : Nat) (v : Value) :
    Except TemplateFault Figure :=
  match letter with
  | 's' => .ok (ofText precision v.shown.toList)
  | 'r' => .ok (ofText precision v.inner.toList)
  | 'a' => .ok (ofText precision (v.inner.toList.flatMap asciiChar))
  | 'c' => ofCharacter v
  | 'd' | 'i' | 'u' => do
    let n ← whole letter v
    checkRoom (precision.getD 0)
    return ofWhole flags precision letter n
  | 'o' | 'x' | 'X' => do
    let n ← exactWhole letter v
    checkRoom (precision.getD 0)
    return ofWhole flags precision letter n
  | 'e' | 'E' | 'f' | 'F' | 'g' | 'G' => do
    let x ← real v
    checkRoom (precision.getD 0)
    return ofReal flags precision letter x
  | _ => .error (.unknownNotation letter position)

end Figure

end Tabletop
