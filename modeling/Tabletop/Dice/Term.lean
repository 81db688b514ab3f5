import Tabletop.Fault

/-!
# Dice terms

A term such as `-4d6k3` throws a number of dice of one kind.  This module holds the term, the bounds it has to
meet before a die is thrown, and its canonical form: modifiers appear at most once each, in the order keep, drop,
explode, reroll.
-/

namespace Tabletop

/-- What happens to thrown dice; every modifier is optional. -/
structure Modifiers where
  keep : Option Int := none
  drop : Option Int := none
  explode : Bool := false
  explodeOn : Option Int := none
  reroll : Option Int := none
  deriving DecidableEq, Repr

inductive DiceKind where
  | sided (sides : Int) (modifiers : Modifiers)
  | percentile
  | fudge
  deriving DecidableEq, Repr

structure DiceTerm where
  count : Int
  kind : DiceKind
  negative : Bool := false
  deriving DecidableEq, Repr

/-! ### Canonical form -/

namespace Modifiers

/-- Exploding on the highest face is written `!`, exploding from a face on `e` and that face. -/
def explosionText (m : Modifiers) : String :=
  if m.explode then
    match m.explodeOn with
    | none => "!"
    | some n => "e" ++ toString n
  else ""

private def valueText (letter : String) : Option Int → String
  | none => ""
  | some n => letter ++ toString n

def text (m : Modifiers) : String :=
  valueText "k" m.keep ++ valueText "d" m.drop ++ m.explosionText ++ valueText "r" m.reroll

end Modifiers

def DiceKind.text : DiceKind → String
  | sided sides m => toString sides ++ m.text
  | percentile => "%"
  | fudge => "F"

def DiceTerm.text (t : DiceTerm) : String :=
  (if t.negative then "-" else "") ++ toString t.count ++ "d" ++ t.kind.text

/-! ### Bounds -/

namespace DiceTerm

def percentileSides : Nat := 100

def checkCount (count : Int) : Except Fault Unit :=
  if 1 ≤ count ∧ count ≤ maxCount then .ok () else .error (.diceCountOutOfRange count)

def checkSides (sides : Int) : Except Fault Unit :=
  if 1 ≤ sides ∧ sides ≤ maxSides then .ok () else .error (.diceSidesOutOfRange sides)

def checkOutcomeSpace (count sides : Int) : Except Fault Unit :=
  if count * sides ≤ maxOutcomeSpace then .ok () else .error (.outcomeSpaceTooLarge count sides)

/-- The count is looked at first, then the sides, then their product. -/
def checkBounds (count sides : Int) : Except Fault Unit := do
  checkCount count
  checkSides sides
  checkOutcomeSpace count sides

/-- Fudge dice have no sides to look at. -/
def check (t : DiceTerm) : Except Fault Unit :=
  match t.kind with
  | .sided sides _ => checkBounds t.count sides
  | .percentile => checkBounds t.count percentileSides
  | .fudge => checkCount t.count

end DiceTerm

end Tabletop
