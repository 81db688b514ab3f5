/-!
# Why a formula is refused

Every cause is a constructor of `Fault`; its stable code, its wording and the position it points at are
functions of the cause.  Positions index into the normal form of the formula; a cause that belongs to a whole
term or to the whole formula has none.
-/

namespace Tabletop

/-! ### Limits -/

def maxCount : Nat := 1000
def maxSides : Nat := 10000

/-- The largest product of a term's count and its sides. -/
def maxOutcomeSpace : Nat := 1000000

/-- The largest number that may be written in a formula. -/
def maxNumber : Nat := 1000000

def maxNesting : Nat := 100

/-- The longest formula, counted in characters of its normal form. -/
def maxLength : Nat := 10000

/-- Results of an operator have at most this many decimal digits. -/
def maxResultDigits : Nat := 1000

inductive Fault where
  | emptyExpression
  | expressionTooLong (length : Nat)
  | unexpectedCharacter (found : Char) (position : Nat)
  | expectedNumberOrDice (position : Nat)
  | expectedNumber (position : Nat)
  | missingDiceSides (position : Nat)
  | missingModifierValue (letter : Char) (position : Nat)
  | numberTooLarge (value : Nat) (position : Nat)
  | nestingTooDeep (position : Nat)
  | missingClosingParenthesis (openedAt position : Nat)
  | diceCountOutOfRange (count : Int)
  | diceSidesOutOfRange (sides : Int)
  | outcomeSpaceTooLarge (count sides : Int)
  | resultTooLarge
  deriving DecidableEq, Repr

namespace Fault

def code : Fault → String
  | emptyExpression => "EMPTY_EXPRESSION"
  | expressionTooLong _ => "EXPRESSION_TOO_LONG"
  | unexpectedCharacter _ _ => "UNEXPECTED_CHARACTER"
  | expectedNumberOrDice _ => "EXPECTED_NUMBER_OR_DICE"
  | expectedNumber _ => "EXPECTED_NUMBER"
  | missingDiceSides _ => "MISSING_DICE_SIDES"
  | missingModifierValue _ _ => "MISSING_MODIFIER_VALUE"
  | numberTooLarge _ _ => "NUMBER_TOO_LARGE"
  | nestingTooDeep _ => "NESTING_TOO_DEEP"
  | missingClosingParenthesis _ _ => "MISSING_CLOSING_PARENTHESIS"
  | diceCountOutOfRange _ => "DICE_COUNT_OUT_OF_RANGE"
  | diceSidesOutOfRange _ => "DICE_SIDES_OUT_OF_RANGE"
  | outcomeSpaceTooLarge _ _ => "OUTCOME_SPACE_TOO_LARGE"
  | resultTooLarge => "RESULT_TOO_LARGE"

def position : Fault → Option Nat
  | unexpectedCharacter _ p => some p
  | expectedNumberOrDice p => some p
  | expectedNumber p => some p
  | missingDiceSides p => some p
  | missingModifierValue _ p => some p
  | numberTooLarge _ p => some p
  | nestingTooDeep p => some p
  | missingClosingParenthesis _ p => some p
  | _ => none

/-- The wording without code and position. -/
def detail : Fault → String
  | emptyExpression => "Expression is empty. Example: '2d6+3' or 'd20'"
  | expressionTooLong n => s!"Expression is {n} characters long (limit {maxLength})"
  | unexpectedCharacter c _ => s!"Unexpected character '{c}'"
  | expectedNumberOrDice _ => "Expected a number or dice notation"
  | expectedNumber _ => "Expected a number"
  | missingDiceSides _ => "Expected number of sides, '%' or 'F' after 'd'"
  | missingModifierValue c _ => s!"Expected a number after '{c}'"
  | numberTooLarge n _ => s!"Number {n} exceeds the limit of {maxNumber}"
  | nestingTooDeep _ => s!"Parentheses may be nested at most {maxNesting} levels deep"
  | missingClosingParenthesis p _ => s!"Expected ')' to close '(' opened at position {p}"
  | diceCountOutOfRange n => s!"Dice count must be between 1 and {maxCount} (got {n})"
  | diceSidesOutOfRange n => s!"Dice sides must be between 1 and {maxSides} (got {n})"
  | outcomeSpaceTooLarge n s =>
    s!"{n}d{s} has too many possible outcomes (count x sides must not exceed {maxOutcomeSpace})"
  | resultTooLarge => s!"Result has more than {maxResultDigits} digits"

/-- The written form of a report: code in brackets, wording, and the position when there is one. -/
def report (code detail : String) (position : Option Int) : String :=
  s!"[{code}] {detail}" ++
    match position with
    | none => ""
    | some p => s!" at position {p}"

def message (f : Fault) : String :=
  report f.code f.detail (f.position.map Int.ofNat)

end Fault

end Tabletop
