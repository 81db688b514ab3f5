import Tabletop.Formula.Normal
import Tabletop.Formula.Reader

/-!
# Rolling a text

`Formula.roll` brings a text into normal form and works it out while it is read, in one pass and without a tree: a
term is thrown as soon as it is complete, and an operator is applied as soon as its right operand is.  A text that
is no formula is therefore worked out as far as it was complete; a fault of an earlier part comes first, and the faces
drawn until then stay drawn.
-/

namespace Tabletop

/-- Works out the part of a formula that starts at a cursor; also gives the cursor behind it. -/
abbrev Passage (σ : Type) := Cursor → Roller σ (Outcome × Cursor)

namespace Formula

variable {σ : Type} [RandomSource σ]

def rollTerm (c : Cursor) : Roller σ (Outcome × Cursor) := do
  let negative := c.next? == some '-'
  let (count, c₁) ← numeral? (if negative then c.skip else c)
  if c₁.next? == some 'd' then
    let (kind, c₂) ← kind c₁.skip
    let dice : WrittenDice := { negative, count, kind }
    let o ← dice.term.roll
    return (o, c₂)
  else
    match count with
    | none => throw (.expectedNumberOrDice c.position)
    | some n => return (.literal (literalValue negative n), c₁)

/-- Joins operands to `left` from the left on, at most `room` of them. -/
def rollJoined (symbol? : Char → Option Symbol) (operand : Passage σ) : Nat → Outcome → Passage σ
  | 0, left, c => return (left, c)
  | room + 1, left, c =>
    match c.next?.bind symbol? with
    | none => return (left, c)
    | some symbol => do
      let (right, c') ← operand c.skip
      let joined ← left.combine symbol.operator right
      rollJoined symbol? operand room joined c'

def rollChain (symbol? : Char → Option Symbol) (operand : Passage σ) (c : Cursor) :
    Roller σ (Outcome × Cursor) := do
  let (first, c') ← operand c
  rollJoined symbol? operand c'.rest.length first c'

/-- A group, whose inside is worked out by `inside`, or a term; without `inside` no group may be opened. -/
def rollFactor (inside : Option (Passage σ)) (c : Cursor) : Roller σ (Outcome × Cursor) :=
  if c.next? = some '(' then
    match inside with
    | none => throw (.nestingTooDeep c.position)
    | some expression => do
      let (inner, c') ← expression c.skip
      if c'.next? = some ')' then return (inner.group, c'.skip)
      else throw (.missingClosingParenthesis c.position c'.position)
  else rollTerm c

def rollSum (inside : Option (Passage σ)) : Passage σ :=
  rollChain additive? (rollChain multiplicative? (rollFactor inside))

def rollExpression : Nat → Passage σ
  | 0 => rollSum none
  | room + 1 => rollSum (some (rollExpression room))

/-- Works out a text in normal form. -/
def rollNormal (text : List Char) : Roller σ Outcome :=
  if text.isEmpty then throw .emptyExpression
  else if maxLength < text.length then throw (.expressionTooLong text.length)
  else do
    let (o, c) ← rollExpression maxNesting (.start text)
    match c.next? with
    | none => return o
    | some found => throw (.unexpectedCharacter found c.position)

def roll (text : String) : Roller σ Outcome :=
  rollNormal (normalize text)

end Formula

end Tabletop
