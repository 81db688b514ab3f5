import Tabletop.Dice.Term

/-!
# Numbers and dice as they are written

The same dice can be written in many ways: with zeros in front of a number, without a count, with modifiers in any
order and more than once.  The types here keep what is written; `value`, `applyTo` and `term` say what it means, and
`text` is the writing itself, in normal form.
-/

namespace Tabletop

/-! ### Numbers -/

structure Numeral where
  digits : List Char
  deriving DecidableEq, Repr

namespace Numeral

def value (n : Numeral) : Nat := Nat.ofDigitChars 10 n.digits 0

end Numeral

/-! ### Modifiers -/

/-- The two marks of exploding dice mean the same. -/
inductive ExplosionMark where
  | bang
  | letter
  deriving DecidableEq, Repr

def ExplosionMark.char : ExplosionMark → Char
  | bang => '!'
  | letter => 'e'

inductive Modifier where
  | keep (n : Numeral)
  | drop (n : Numeral)
  | explode (mark : ExplosionMark) (threshold : Option Numeral)
  | reroll (n : Numeral)
  deriving DecidableEq, Repr

namespace Modifier

def text : Modifier → List Char
  | keep n => 'k' :: n.digits
  | drop n => 'd' :: n.digits
  | explode mark none => [mark.char]
  | explode mark (some n) => mark.char :: n.digits
  | reroll n => 'r' :: n.digits

/-- Of two modifiers of one kind the later one holds, but a mark without threshold leaves an earlier threshold as it
is. -/
def applyTo (m : Modifiers) : Modifier → Modifiers
  | keep n => { m with keep := some n.value }
  | drop n => { m with drop := some n.value }
  | explode _ none => { m with explode := true }
  | explode _ (some n) => { m with explode := true, explodeOn := some n.value }
  | reroll n => { m with reroll := some n.value }

/-- What a row of modifiers comes to. -/
def merge (row : List Modifier) : Modifiers := row.foldl applyTo {}

end Modifier

/-! ### Dice -/

inductive WrittenKind where
  | sided (sides : Numeral) (modifiers : List Modifier)
  | percentile
  | fudge
  deriving DecidableEq, Repr

namespace WrittenKind

def text : WrittenKind → List Char
  | sided sides modifiers => sides.digits ++ modifiers.flatMap Modifier.text
  | percentile => ['%']
  | fudge => ['f']

def kind : WrittenKind → DiceKind
  | sided sides modifiers => .sided sides.value (Modifier.merge modifiers)
  | percentile => .percentile
  | fudge => .fudge

end WrittenKind

structure WrittenDice where
  negative : Bool
  count : Option Numeral
  kind : WrittenKind
  deriving DecidableEq, Repr

def signText (negative : Bool) : List Char := if negative then ['-'] else []

namespace WrittenDice

def countText (d : WrittenDice) : List Char :=
  match d.count with
  | none => []
  | some n => n.digits

def text (d : WrittenDice) : List Char :=
  signText d.negative ++ d.countText ++ 'd' :: d.kind.text

/-- A count that is not written is one. -/
def term (d : WrittenDice) : DiceTerm :=
  { count := ((d.count.map Numeral.value).getD 1 : Nat)
    kind := d.kind.kind
    negative := d.negative }

end WrittenDice

end Tabletop
