import Tabletop.Dice.Source
import Tabletop.Dice.Term
import Tabletop.Outcome

/-!
# Throwing dice

A die keeps the faces that were drawn for it: a chain of a first face and its explosions, and the fresh face of a
reroll if there was one.  `DiceTerm.roll` checks the bounds, throws the dice one after the other, selects the
values to keep and sums them; a term that is out of bounds draws nothing.
-/

namespace Tabletop

/-- A computation that draws faces and may end in a fault; what was drawn before the fault stays drawn. -/
abbrev Roller (σ : Type) := ExceptT Fault (StateM σ)

/-- Explosions add at most this many faces to a die. -/
def maxExplosions : Nat := 100

def subtotal (values : List Int) : Int := values.foldr (· + ·) 0

/-! ### One die -/

structure Die where
  chain : List Int
  fresh : Option Int := none
  deriving DecidableEq, Repr

namespace Die

/-- A fresh face replaces the sum of the chain. -/
def value (d : Die) : Int := d.fresh.getD (subtotal d.chain)

def faces (d : Die) : List Int := d.chain ++ d.fresh.toList

end Die

section
variable {σ : Type} [RandomSource σ]

def drawFace (low high : Int) : StateM σ Int :=
  fun source => RandomSource.draw low high source

/-- The faces that follow `face` while each reaches the threshold and the room lasts. -/
def explosions (sides threshold : Int) : Nat → Int → StateM σ (List Int)
  | 0, _ => pure []
  | room + 1, face =>
    if threshold ≤ face then do
      let next ← drawFace 1 sides
      let more ← explosions sides threshold room next
      return next :: more
    else pure []

def throwChain (sides : Int) (m : Modifiers) : StateM σ (List Int) := do
  let first ← drawFace 1 sides
  if m.explode then
    let more ← explosions sides (m.explodeOn.getD sides) maxExplosions first
    return first :: more
  else return [first]

/-- A chain is thrown again at most once, as one plain face. -/
def throwDie (sides : Int) (m : Modifiers) : StateM σ Die := do
  let chain ← throwChain sides m
  if m.reroll.any (fun r => decide (subtotal chain ≤ r)) then
    let fresh ← drawFace 1 sides
    return { chain, fresh := some fresh }
  else return { chain }

def throwMany {α : Type} (throw : StateM σ α) : Nat → StateM σ (List α)
  | 0 => pure []
  | n + 1 => do
    let first ← throw
    let more ← throwMany throw n
    return first :: more

end

/-! ### Keeping and dropping -/

def ascending (values : List Int) : List Int :=
  values.mergeSort (fun a b => decide (a ≤ b))

def descending (values : List Int) : List Int :=
  values.mergeSort (fun a b => decide (b ≤ a))

theorem ascending_perm (values : List Int) : (ascending values).Perm values :=
  List.mergeSort_perm values _

theorem descending_perm (values : List Int) : (descending values).Perm values :=
  List.mergeSort_perm values _

theorem ascending_sorted (values : List Int) : (ascending values).Pairwise (· ≤ ·) := by
  have h : (ascending values).Pairwise (fun a b => decide (a ≤ b)) :=
    List.pairwise_mergeSort (fun a b c => by simpa using Int.le_trans)
      (fun a b => by simpa using Int.le_total a b) values
  simpa using h

theorem descending_sorted (values : List Int) : (descending values).Pairwise (fun a b => b ≤ a) := by
  have h : (descending values).Pairwise (fun a b => decide (b ≤ a)) :=
    List.pairwise_mergeSort (fun a b c => by simpa using fun h₁ h₂ => Int.le_trans h₂ h₁)
      (fun a b => by simpa using Int.le_total b a) values
  simpa using h

/-- Where a cut at `n` falls in `length` places; a negative cut is counted from the end. -/
def cutAt (n : Int) (length : Nat) : Nat :=
  if 0 ≤ n then n.toNat else (n + length).toNat

namespace Modifiers

/-- The values that count, in the order in which they are shown; keeping wins over dropping. -/
def select (m : Modifiers) (values : List Int) : Option (List Int) :=
  match m.keep, m.drop with
  | some k, _ => some ((descending values).take (cutAt k values.length))
  | none, some d => some ((ascending values).drop (cutAt d values.length))
  | none, none => none

end Modifiers

/-! ### Terms -/

def listText (values : List Int) : String :=
  "[" ++ ", ".intercalate (values.map toString) ++ "]"

def fudgeGlyph (face : Int) : String :=
  if face < 0 then "[-]" else if face = 0 then "[ ]" else "[+]"

namespace DiceTerm

def signed (t : DiceTerm) (n : Int) : Int :=
  if t.negative then -n else n

/-- The outcome of dice with numbered sides that fell as given. -/
def ofDice (t : DiceTerm) (m : Modifiers) (dice : List Die) : Outcome :=
  let values := dice.map Die.value
  let kept := m.select values
  let total := t.signed (subtotal (kept.getD values))
  { total
    rolls := dice.flatMap Die.faces
    expression := t.text
    breakdown :=
      listText values ++ (match kept with | none => "" | some k => " → " ++ listText k) ++
        " = " ++ toString total }

/-- The outcome of Fudge dice that fell as given. -/
def ofFudge (t : DiceTerm) (faces : List Int) : Outcome :=
  let total := t.signed (subtotal faces)
  { total
    rolls := faces
    expression := t.text
    breakdown := " ".intercalate (faces.map fudgeGlyph) ++ " = " ++ toString total }

def throwAll {σ : Type} [RandomSource σ] (t : DiceTerm) : StateM σ Outcome :=
  match t.kind with
  | .sided sides m => t.ofDice m <$> throwMany (throwDie sides m) t.count.toNat
  | .percentile => t.ofDice {} <$> throwMany (throwDie percentileSides {}) t.count.toNat
  | .fudge => t.ofFudge <$> throwMany (drawFace (-1) 1) t.count.toNat

def roll {σ : Type} [RandomSource σ] (t : DiceTerm) : Roller σ Outcome := do
  t.check
  ExceptT.lift t.throwAll

end DiceTerm

end Tabletop
