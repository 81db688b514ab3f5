import Tabletop.Fault

/-!
# Outcomes

An outcome is what a formula, or a part of one, came to: its total, the faces drawn for it in order, the formula
in canonical form and a breakdown that shows the steps.  The three operators refuse a total whose decimal form is
longer than `maxResultDigits`; numbers and groups are never refused.
-/

namespace Tabletop

structure Outcome where
  total : Int
  rolls : List Int
  expression : String
  breakdown : String
  deriving DecidableEq, Repr

inductive Operator where
  | add
  | subtract
  | multiply
  deriving DecidableEq, Repr

namespace Operator

def apply : Operator → Int → Int → Int
  | add, a, b => a + b
  | subtract, a, b => a - b
  | multiply, a, b => a * b

def symbol : Operator → String
  | add => "+"
  | subtract => "-"
  | multiply => "*"

end Operator

namespace Outcome

def literal (value : Int) : Outcome :=
  ⟨value, [], toString value, toString value⟩

/-- Parentheses change how the outcome is written and nothing else. -/
def group (o : Outcome) : Outcome :=
  { o with expression := "(" ++ o.expression ++ ")" }

/-- The first total that is too long to be a result. -/
def resultBound : Nat := Nat.pow 10 maxResultDigits

def checkResult (total : Int) : Except Fault Unit :=
  if resultBound ≤ total.natAbs then .error .resultTooLarge else .ok ()

/-- Factors are set in parentheses, the parts of a sum or a difference are not. -/
def steps (op : Operator) (left right : String) : String :=
  match op with
  | .add => left ++ " + " ++ right
  | .subtract => left ++ " - " ++ right
  | .multiply => "(" ++ left ++ ") * (" ++ right ++ ")"

def combine (op : Operator) (left right : Outcome) : Except Fault Outcome := do
  let total := op.apply left.total right.total
  checkResult total
  return {
    total
    rolls := left.rolls ++ right.rolls
    expression := left.expression ++ op.symbol ++ right.expression
    breakdown := steps op left.breakdown right.breakdown ++ " = " ++ toString total }

@[simp] theorem total_group (o : Outcome) : o.group.total = o.total := rfl

@[simp] theorem rolls_group (o : Outcome) : o.group.rolls = o.rolls := rfl

theorem checkResult_eq_ok_iff {total : Int} : checkResult total = .ok () ↔ total.natAbs < resultBound := by
  unfold checkResult
  split <;> simp <;> omega

/-- An operator gives the result of the arithmetic on the totals and the faces of both sides in order. -/
theorem combine_eq_ok {op : Operator} {left right o : Outcome} (h : combine op left right = .ok o) :
    o.total = op.apply left.total right.total ∧ o.rolls = left.rolls ++ right.rolls ∧
      o.total.natAbs < resultBound := by
  unfold combine at h
  cases hc : checkResult (op.apply left.total right.total) with
  | error f => simp [hc, bind, Except.bind] at h
  | ok u =>
    simp only [hc, bind, Except.bind, pure, Except.pure, Except.ok.injEq] at h
    subst h
    exact ⟨rfl, rfl, checkResult_eq_ok_iff.mp hc⟩

end Outcome

end Tabletop
