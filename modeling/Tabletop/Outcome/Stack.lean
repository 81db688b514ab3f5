import Tabletop.Dice.Roll

/-!
# Outcomes on a stack

Outcomes can be put together step by step, the operands of an operator lying on top of a stack.  A step that ends
in a fault leaves the stack as it was; so does a step that finds too few outcomes.
-/

namespace Tabletop

inductive StackStep where
  | push (o : Outcome)
  | throwDice (term : DiceTerm)
  | duplicate
  | group
  | combine (op : Operator)
  deriving DecidableEq, Repr

namespace StackStep

/-- The right operand lies above the left one. -/
def run {σ : Type} [RandomSource σ] : StackStep → List Outcome → Roller σ (List Outcome)
  | push o, stack => return o :: stack
  | throwDice t, stack => do
    let o ← t.roll
    return o :: stack
  | duplicate, o :: stack => return o :: o :: stack
  | group, o :: stack => return o.group :: stack
  | combine op, right :: left :: stack => do
    let o ← left.combine op right
    return o :: stack
  | _, stack => return stack

end StackStep

end Tabletop
