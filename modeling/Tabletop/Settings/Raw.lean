import Tabletop.Binary64
import Tabletop.Settings.Basic
import Tabletop.Text.Blank

/-!
# Reading single settings

A setting is given as a text, a number, a truth value or something else, and is read as what its field holds.
Texts of numbers may have a sign, leading zeros, single underscores between digits, a fraction of zeros and white
space around them; texts of truth values are a few words in any case.
-/

namespace Tabletop

inductive RawSetting where
  | text (s : String)
  | integer (n : Int)
  /-- A number written with a point. -/
  | real (x : Binary64)
  | boolean (b : Bool)
  | other
  deriving DecidableEq, Repr

inductive SettingFault where
  | notAnInteger
  | tooLongInteger
  | fractionalInteger
  | notABoolean
  | notAChoice
  | belowMinimum
  | aboveMaximum
  | textExpected
  | integerExpected
  | booleanExpected
  deriving DecidableEq, Repr

namespace SettingFault

def code : SettingFault → String
  | notAnInteger => "int_parsing"
  | tooLongInteger => "int_parsing_size"
  | fractionalInteger => "int_from_float"
  | notABoolean => "bool_parsing"
  | notAChoice => "literal_error"
  | belowMinimum => "greater_than_equal"
  | aboveMaximum => "less_than_equal"
  | textExpected => "string_type"
  | integerExpected => "int_type"
  | booleanExpected => "bool_type"

end SettingFault

/-! ### Texts of numbers -/

namespace IntegerText

/-- A plus sign may stand in front, but not in front of a minus. -/
def skipPlus : List Char → List Char
  | '+' :: '-' :: _ => []
  | '+' :: rest => rest
  | text => text

def isNonzeroDigit (c : Char) : Bool := c.isDigit && c != '0'

/-- The text from its first digit that counts.  A minus may stand behind zeros. -/
def skipZeros : List Char → Option (List Char)
  | '0' :: rest =>
    let isFiller := fun c => c == '0' || c == '_'
    let endsInZero := (rest.takeWhile isFiller).getLast? != some '_'
    match rest.dropWhile isFiller with
    | [] => if endsInZero then some ['0'] else none
    | '.' :: more => if endsInZero then some ('0' :: '.' :: more) else none
    | c :: more => if isNonzeroDigit c || c == '-' then some (c :: more) else none
  | c :: rest => if isNonzeroDigit c then some (c :: rest) else none
  | [] => none

/-- Skips zeros behind a minus sign or at the start. -/
def skipSignedZeros : List Char → Option (List Char)
  | '-' :: rest => (skipZeros rest).map ('-' :: ·)
  | text => skipZeros text

/-- A fraction is cut off if it holds zeros and nothing else. -/
def cutFraction (text : List Char) : List Char :=
  let fraction := (text.dropWhile (· != '.')).tail
  if !fraction.isEmpty && fraction.all (· == '0') then text.takeWhile (· != '.') else text

/-- Single underscores are left out. -/
def joinGroups (text : List Char) : Option (List Char) :=
  let groups := text.splitOn '_'
  if groups.any List.isEmpty then none else some groups.flatten

/-- A number has at most this many digits. -/
def maxDigits : Nat := 4300

/-- The number that digits without a leading zero write.  Too many digits are a fault of their own, whatever follows
them. -/
def natural : List Char → Except SettingFault Nat
  | ['0'] => .ok 0
  | text =>
    let digits := text.takeWhile Char.isDigit
    if !text.head?.any isNonzeroDigit then .error .notAnInteger
    else if maxDigits < digits.length then .error .tooLongInteger
    else if digits.length = text.length then .ok (Nat.ofDigitChars 10 digits 0)
    else .error .notAnInteger

/-- A plain number is written without anything that does not count. -/
def plain : List Char → Except SettingFault Int
  | '-' :: digits => do return -(← natural digits : Nat)
  | digits => do return (← natural digits : Nat)

/-- What is left of a text without all that does not count. -/
def clean? (text : List Char) : Option (List Char) :=
  (skipSignedZeros (skipPlus (Text.trim Text.isWhiteSpace text))).bind fun number =>
    joinGroups (cutFraction number)

/-- The number that a text writes once it is clean. -/
def cleaned? (text : List Char) : Option Int :=
  (clean? text).bind fun number => (plain number).toOption

/-- A text that begins with too many digits is told apart only as it stands. -/
def read (text : String) : Except SettingFault Int :=
  match plain text.toList with
  | .ok n => .ok n
  | .error .tooLongInteger => .error .tooLongInteger
  | .error _ =>
    match cleaned? text.toList with
    | some n => .ok n
    | none => .error .notAnInteger

end IntegerText

/-! ### Fields -/

namespace RawSetting

def asText : RawSetting → Except SettingFault String
  | text s => .ok s
  | _ => .error .textExpected

/-- Whole numbers with a point have to fit into 64 bits with their sign. -/
def realBound : Int := 9223372036854775808

def wholeReal (x : Binary64) : Except SettingFault Int :=
  if !x.isWhole then .error .fractionalInteger
  else if -realBound < x.truncated ∧ x.truncated < realBound then .ok x.truncated
  else .error .tooLongInteger

def asInteger : RawSetting → Except SettingFault Int
  | text s => IntegerText.read s
  | integer n => .ok n
  | real x => wholeReal x
  | boolean b => .ok (if b then 1 else 0)
  | other => .error .integerExpected

def yesWords : List String := ["1", "true", "t", "yes", "y", "on"]

def noWords : List String := ["0", "false", "f", "no", "n", "off"]

def integerAsBoolean (n : Int) : Except SettingFault Bool :=
  if n = 1 then .ok true else if n = 0 then .ok false else .error .notABoolean

def asBoolean : RawSetting → Except SettingFault Bool
  | text s =>
    if yesWords.contains s.toLower then .ok true
    else if noWords.contains s.toLower then .ok false
    else .error .notABoolean
  | integer n => integerAsBoolean n
  | real x =>
    match wholeReal x with
    | .ok n => integerAsBoolean n
    | .error _ => .error .booleanExpected
  | boolean b => .ok b
  | other => .error .booleanExpected

def asTransport : RawSetting → Except SettingFault Transport
  | text s =>
    match Transport.ofName? s with
    | some t => .ok t
    | none => .error .notAChoice
  | _ => .error .notAChoice

def atLeast (minimum : Int) (raw : RawSetting) : Except SettingFault Int := do
  let n ← raw.asInteger
  if n < minimum then .error .belowMinimum else .ok n

def within (minimum maximum : Int) (raw : RawSetting) : Except SettingFault Int := do
  let n ← raw.atLeast minimum
  if maximum < n then .error .aboveMaximum else .ok n

end RawSetting

end Tabletop
