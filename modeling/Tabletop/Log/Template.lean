import Tabletop.Fields
import Tabletop.Log.Place

/-!
# Templates

A template is a text with places for values.  A percent sign opens a place; two of them are a percent sign.

    place := '%' ('(' key ')')? flag* width? ('.' precision?)? ('h' | 'l' | 'L')? letter

Places are filled from the left.  A place without a key takes the next of the values, a place with a key the value of
that key, for which the values have to be an object.  A width or a precision that is written as an asterisk takes a
value before.
-/

namespace Tabletop

inductive Piece where
  | plain (c : Char)
  | place (p : Place)
  deriving DecidableEq, Repr

abbrev Template := List Piece

namespace Template

/-! ### Reading -/

/-- The key that starts here and the text behind the parenthesis that closes it, if one does. -/
def splitKey : Nat → List Char → Option (List Char × List Char)
  | _, [] => none
  | 0, ')' :: rest => some ([], rest)
  | depth, c :: rest =>
    let depth := if c = '(' then depth + 1 else if c = ')' then depth - 1 else depth
    (splitKey depth rest).map fun (name, after) => (c :: name, after)

def key : List Char → Option PlaceKey × List Char
  | '(' :: rest =>
    match splitKey 0 rest with
    | some (name, after) => (some (.name (String.ofList name)), after)
    | none => (some .unclosed, [])
  | text => (none, text)

def isFlag (c : Char) : Bool := c == '-' || c == '+' || c == ' ' || c == '#' || c == '0'

def flags (text : List Char) : Flags :=
  { left := text.contains '-', plus := text.contains '+', blank := text.contains ' ',
    long := text.contains '#', zeros := text.contains '0' }

def measure : List Char → Option Measure × List Char
  | '*' :: rest => (some .given, rest)
  | text =>
    match text.takeWhile Char.isDigit with
    | [] => (none, text)
    | digits => (some (.written (Nat.ofDigitChars 10 digits 0)), text.dropWhile Char.isDigit)

/-- A point with nothing behind it is a precision of zero. -/
def precision : List Char → Option Measure × List Char
  | '.' :: rest =>
    let (m, rest) := measure rest
    (some (m.getD (.written 0)), rest)
  | text => (none, text)

/-- One letter for the size of a number may stand before the letter of the notation and means nothing. -/
def skipSize : List Char → List Char
  | c :: rest => if c = 'h' ∨ c = 'l' ∨ c = 'L' then rest else c :: rest
  | [] => []

/-- The place whose percent sign was just read, and the text behind it.  The template is `length` characters long. -/
def place (length : Nat) (text : List Char) : Place × List Char :=
  let (key, text) := key text
  let flags := flags (text.takeWhile isFlag)
  let (width, text) := measure (text.dropWhile isFlag)
  let (precision, text) := precision text
  match skipSize text with
  | [] => (⟨key, flags, width, precision, none⟩, [])
  | letter :: rest => (⟨key, flags, width, precision, some (letter, length - rest.length - 1)⟩, rest)

/-- The pieces of a text, at most `room` of them. -/
def ofTextWithin (length : Nat) : Nat → List Char → Template
  | 0, _ => []
  | _ + 1, [] => []
  | room + 1, '%' :: '%' :: rest => .plain '%' :: ofTextWithin length room rest
  | room + 1, '%' :: rest =>
    let (p, rest) := place length rest
    .place p :: ofTextWithin length room rest
  | room + 1, c :: rest => .plain c :: ofTextWithin length room rest

def ofText (text : List Char) : Template := ofTextWithin text.length text.length text

/-! ### Values -/

/-- The values for a template: those that have not been taken yet, and what keys are looked up in. -/
structure Supply where
  keyed : Option Value
  waiting : List Value

namespace Supply

/-- A value on its own.  Only objects have keys, but a list is asked for them too. -/
def ofValue (v : Value) : Supply :=
  match v with
  | .object _ | .list _ => ⟨some v, [v]⟩
  | _ => ⟨none, [v]⟩

/-- Values one after the other, unless there is one object with fields alone. -/
def ofValues : List Value → Supply
  | [.object (f :: fields)] => ofValue (.object (f :: fields))
  | values => ⟨none, values⟩

def take (s : Supply) : Except TemplateFault (Value × Supply) :=
  match s.waiting with
  | v :: rest => .ok (v, { s with waiting := rest })
  | [] => .error .tooFewValues

/-- The value of a key is the only one that waits. -/
def select (s : Supply) (key : Option PlaceKey) : Except TemplateFault Supply :=
  match key, s.keyed with
  | none, _ => .ok s
  | some _, none => .error .objectWanted
  | some .unclosed, _ => .error .unfinishedKey
  | some (.name name), some (.object fields) =>
    match Fields.last? fields name with
    | some v => .ok { s with waiting := [v] }
    | none => .error (.missingKey name)
  | some (.name _), some _ => .error .indexWanted

/-- A measure that has to lie below a bound, one fault for a written one and another for a value. -/
def measure (s : Supply) (bound : Nat) (written given : TemplateFault) :
    Option Measure → Except TemplateFault (Option Int × Supply)
  | none => .ok (none, s)
  | some (.written n) => if n < bound then .ok (some n, s) else .error written
  | some .given => do
    let (v, s) ← s.take
    match v.asInteger? with
    | none => .error .measureWanted
    | some n => if -bound ≤ n ∧ n < bound then .ok (some n, s) else .error given

end Supply

/-! ### Filling -/

def widthBound : Nat := twoTo 63
def precisionBound : Nat := twoTo 31

/-- A negative width fills up on the right, a negative precision is zero. -/
def fillPlace (p : Place) (s : Supply) : Except TemplateFault (List Char × Supply) := do
  let s ← s.select p.key
  let (width, s) ← s.measure widthBound .widthTooLarge .givenWidthTooLarge p.width
  let (precision, s) ← s.measure precisionBound .precisionTooLarge .givenPrecisionTooLarge p.precision
  match p.letter with
  | none => .error .unfinishedPlace
  | some (letter, position) =>
    let (v, s) ← s.take
    let figure ← Figure.ofValue p.flags (precision.map Int.toNat) letter position v
    let width := width.getD 0
    Figure.checkRoom width.natAbs
    let flags := if width < 0 then { p.flags with left := true } else p.flags
    return (figure.layOut flags width.natAbs, s)

/-- All values have to be taken unless they have keys. -/
def fill : Template → Supply → Except TemplateFault (List Char)
  | [], s => if s.waiting.isEmpty || s.keyed.isSome then .ok [] else .error .tooManyValues
  | .plain c :: rest, s => return c :: (← fill rest s)
  | .place p :: rest, s => do
    let (text, s) ← fillPlace p s
    return text ++ (← fill rest s)

end Template

/-- Fills the places of a text. -/
def fillText (text : String) (s : Template.Supply) : Except TemplateFault String :=
  (Template.fill (Template.ofText text.toList) s).map String.ofList

end Tabletop
