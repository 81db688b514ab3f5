import Tabletop.Dice.Roll
import Tabletop.Formula.Written

/-!
# Formulas

A formula is the syntax tree of a dice expression as it is written: numbers, dice, groups in parentheses and the
operators between them.  `Formula.text` writes it, `Formula.evaluate` works it out from left to right, all dice
drawing from the one source in the order of the text.
-/

namespace Tabletop

/-- An operator as it is written; three symbols stand for multiplication. -/
inductive Symbol where
  | plus
  | minus
  | star
  | cross
  | dot
  deriving DecidableEq, Repr

namespace Symbol

def char : Symbol → Char
  | plus => '+'
  | minus => '-'
  | star => '*'
  | cross => '×'
  | dot => '·'

def operator : Symbol → Operator
  | plus => .add
  | minus => .subtract
  | star => .multiply
  | cross => .multiply
  | dot => .multiply

end Symbol

inductive Formula where
  | literal (negative : Bool) (number : Numeral)
  | dice (written : WrittenDice)
  | group (inner : Formula)
  | binary (symbol : Symbol) (left right : Formula)
  deriving DecidableEq, Repr

namespace Formula

def text : Formula → List Char
  | literal negative n => signText negative ++ n.digits
  | dice d => d.text
  | group inner => '(' :: text inner ++ [')']
  | binary symbol left right => text left ++ symbol.char :: text right

def literalValue (negative : Bool) (n : Numeral) : Int :=
  if negative then -(n.value : Int) else n.value

def evaluate {σ : Type} [RandomSource σ] : Formula → Roller σ Outcome
  | literal negative n => pure (.literal (literalValue negative n))
  | dice d => d.term.roll
  | group inner => do
    let o ← evaluate inner
    return o.group
  | binary symbol left right => do
    let a ← evaluate left
    let b ← evaluate right
    a.combine symbol.operator b

end Formula

end Tabletop
