import Tabletop.Formula.Basic

/-!
# Reading formulas

    expression  := product (('+' | '-') product)*
    product     := factor (('*' | '×' | '·') factor)*
    factor      := '(' expression ')' | term
    term        := '-'? (number | number? 'd' kind)
    kind        := '%' | 'f' | number modifier*
    modifier    := ('k' | 'd' | 'r') number | ('!' | 'e') number?

A formula is read from its normal form, one character ahead.  Reading draws nothing.  Where it breaks off, a
`Break` says why and lists the parts that were complete by then, in the order of the text: whoever rolls the
formula has already rolled those.

Nesting is bounded by the argument `room` of `expression`, the number of parentheses that may still be opened.
-/

namespace Tabletop

/-! ### Cursors -/

/-- A place in a text: its index and the characters from there on. -/
structure Cursor where
  position : Nat
  rest : List Char
  deriving DecidableEq, Repr

namespace Cursor

def start (text : List Char) : Cursor := ⟨0, text⟩

def skip (c : Cursor) : Cursor := ⟨c.position + 1, c.rest.tail⟩

def next? (c : Cursor) : Option Char := c.rest.head?

def atDigit (c : Cursor) : Bool := c.next?.any Char.isDigit

/-- The digits from the cursor on. -/
def digits (c : Cursor) : List Char := c.rest.takeWhile Char.isDigit

def skipDigits (c : Cursor) : Cursor :=
  ⟨c.position + c.digits.length, c.rest.dropWhile Char.isDigit⟩

theorem digits_append (c : Cursor) : c.digits ++ c.skipDigits.rest = c.rest :=
  List.takeWhile_append_dropWhile

theorem isDigit_of_mem_digits {c : Cursor} {d : Char} (h : d ∈ c.digits) : d.isDigit :=
  List.all_eq_true.mp List.all_takeWhile d h

theorem atDigit_skipDigits (c : Cursor) : c.skipDigits.atDigit = false := by
  simp only [atDigit, next?, skipDigits]
  cases h : c.rest.dropWhile Char.isDigit with
  | nil => rfl
  | cons d rest =>
    have := List.head?_dropWhile_not Char.isDigit c.rest
    simpa [h] using this

end Cursor

structure Break where
  completed : List Formula
  fault : Fault
  deriving DecidableEq, Repr

namespace Break

/-- The break as seen by who had read `f` before. -/
def after (f : Formula) (b : Break) : Break := { b with completed := f :: b.completed }

end Break

abbrev Reading (α : Type) := Except Break (α × Cursor)

namespace Formula

/-! ### Numbers and modifiers -/

/-- The number whose digits start at the cursor. -/
def numeral (c : Cursor) : Except Fault (Numeral × Cursor) :=
  let n : Numeral := ⟨c.digits⟩
  if n.digits.isEmpty then .error (.expectedNumber c.position)
  else if maxNumber < n.value then .error (.numberTooLarge n.value c.position)
  else .ok (n, c.skipDigits)

def numeral? (c : Cursor) : Except Fault (Option Numeral × Cursor) := do
  if c.atDigit then
    let (n, c) ← numeral c
    return (some n, c)
  else return (none, c)

/-- The number that has to follow the letter of a modifier. -/
def modifierValue (letter : Char) (c : Cursor) : Except Fault (Numeral × Cursor) :=
  if c.atDigit then numeral c else .error (.missingModifierValue letter c.position)

def modifier? (c : Cursor) : Except Fault (Option Modifier × Cursor) := do
  match c.next? with
  | some 'k' =>
    let (n, c) ← modifierValue 'k' c.skip
    return (some (.keep n), c)
  | some 'd' =>
    let (n, c) ← modifierValue 'd' c.skip
    return (some (.drop n), c)
  | some 'r' =>
    let (n, c) ← modifierValue 'r' c.skip
    return (some (.reroll n), c)
  | some '!' =>
    let (n, c) ← numeral? c.skip
    return (some (.explode .bang n), c)
  | some 'e' =>
    let (n, c) ← numeral? c.skip
    return (some (.explode .letter n), c)
  | _ => return (none, c)

/-- All modifiers from the cursor on, at most `room` of them. -/
def modifiersWithin : Nat → Cursor → Except Fault (List Modifier × Cursor)
  | 0, c => .ok ([], c)
  | room + 1, c => do
    match ← modifier? c with
    | (none, c) => return ([], c)
    | (some m, c) =>
      let (ms, c) ← modifiersWithin room c
      return (m :: ms, c)

/-- A modifier takes at least one character, so the rest of the text bounds their number. -/
def modifiers (c : Cursor) : Except Fault (List Modifier × Cursor) :=
  modifiersWithin c.rest.length c

/-! ### Terms -/

/-- What follows the letter of a dice term. -/
def kind (c : Cursor) : Except Fault (WrittenKind × Cursor) := do
  match c.next? with
  | some '%' => return (.percentile, c.skip)
  | some 'f' => return (.fudge, c.skip)
  | _ =>
    if c.atDigit then
      let (sides, c) ← numeral c
      let (ms, c) ← modifiers c
      return (.sided sides ms, c)
    else throw (.missingDiceSides c.position)

/-- A number or a dice term, negated by a minus in front. -/
def term (c : Cursor) : Except Fault (Formula × Cursor) := do
  let negative := c.next? == some '-'
  let (count, c₁) ← numeral? (if negative then c.skip else c)
  if c₁.next? == some 'd' then
    let (kind, c₂) ← kind c₁.skip
    return (.dice { negative, count, kind }, c₂)
  else
    match count with
    | none => throw (.expectedNumberOrDice c.position)
    | some n => return (.literal negative n, c₁)

/-! ### Operators and groups -/

def additive? : Char → Option Symbol
  | '+' => some .plus
  | '-' => some .minus
  | _ => none

def multiplicative? : Char → Option Symbol
  | '*' => some .star
  | '×' => some .cross
  | '·' => some .dot
  | _ => none

/-- Operands joined to `left` from the left on, at most `room` of them. -/
def joinWithin (symbol? : Char → Option Symbol) (operand : Cursor → Reading Formula) :
    Nat → Formula → Cursor → Reading Formula
  | 0, left, c => .ok (left, c)
  | room + 1, left, c =>
    match c.next?.bind symbol? with
    | none => .ok (left, c)
    | some symbol =>
      match operand c.skip with
      | .error b => .error (b.after left)
      | .ok (right, c') => joinWithin symbol? operand room (.binary symbol left right) c'

/-- One operand and all that operators join to it; every operator takes a character of the rest. -/
def chain (symbol? : Char → Option Symbol) (operand : Cursor → Reading Formula) (c : Cursor) :
    Reading Formula :=
  match operand c with
  | .error b => .error b
  | .ok (first, c') => joinWithin symbol? operand c'.rest.length first c'

/-- A group, whose inside is read by `inside`, or a term; without `inside` no group may be opened. -/
def factor (inside : Option (Cursor → Reading Formula)) (c : Cursor) : Reading Formula :=
  if c.next? = some '(' then
    match inside with
    | none => .error ⟨[], .nestingTooDeep c.position⟩
    | some expression =>
      match expression c.skip with
      | .error b => .error b
      | .ok (inner, c') =>
        if c'.next? = some ')' then .ok (.group inner, c'.skip)
        else .error ⟨[inner], .missingClosingParenthesis c.position c'.position⟩
  else (term c).mapError (⟨[], ·⟩)

def sum (inside : Option (Cursor → Reading Formula)) : Cursor → Reading Formula :=
  chain additive? (chain multiplicative? (factor inside))

def expression : Nat → Cursor → Reading Formula
  | 0 => sum none
  | room + 1 => sum (some (expression room))

/-! ### Whole formulas -/

/-- The formula that is the whole of a text in normal form. -/
def read (text : List Char) : Except Break Formula :=
  if text.isEmpty then .error ⟨[], .emptyExpression⟩
  else if maxLength < text.length then .error ⟨[], .expressionTooLong text.length⟩
  else
    match expression maxNesting (.start text) with
    | .error b => .error b
    | .ok (f, c) =>
      match c.next? with
      | none => .ok f
      | some found => .error ⟨[f], .unexpectedCharacter found c.position⟩

end Formula

end Tabletop
