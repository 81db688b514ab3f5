import Tabletop.Formula.Reader

/-!
# The grammar of formulas

`Derives` says which texts in normal form are formulas, and with which tree:

    expression  := product (('+' | '-') product)*
    product     := factor (('*' | '×' | '·') factor)*
    factor      := '(' expression ')' | '-'? (number | number? 'd' kind)
    kind        := '%' | 'f' | number modifier*
    modifier    := ('k' | 'd' | 'r') number | ('!' | 'e') number?

A number is a row of at least one digit, of any length.  The grammar knows no bounds; `Formula.numerals`,
`Formula.nesting` and `Formula.diceTerms` list what bounds are laid on.
-/

namespace Tabletop

/-! ### Numbers in a tree -/

def Numeral.IsNumber (n : Numeral) : Prop := n.digits ≠ [] ∧ ∀ c ∈ n.digits, c.isDigit

def Modifier.numerals : Modifier → List Numeral
  | keep n => [n]
  | drop n => [n]
  | explode _ threshold => threshold.toList
  | reroll n => [n]

def WrittenKind.numerals : WrittenKind → List Numeral
  | sided sides modifiers => sides :: modifiers.flatMap Modifier.numerals
  | percentile => []
  | fudge => []

def WrittenDice.numerals (d : WrittenDice) : List Numeral := d.count.toList ++ d.kind.numerals

namespace Formula

def numerals : Formula → List Numeral
  | literal _ n => [n]
  | dice d => d.numerals
  | group inner => numerals inner
  | binary _ left right => numerals left ++ numerals right

/-- How deep groups stand inside each other. -/
def nesting : Formula → Nat
  | literal _ _ => 0
  | dice _ => 0
  | group inner => nesting inner + 1
  | binary _ left right => max (nesting left) (nesting right)

def diceTerms : Formula → List DiceTerm
  | literal _ _ => []
  | dice d => [d.term]
  | group inner => diceTerms inner
  | binary _ left right => diceTerms left ++ diceTerms right

/-! ### Derivations -/

inductive Nonterminal where
  | expression
  | product
  | factor

/-- `Derives k s f`: the text `s` is a part of the kind `k`, with the tree `f`.  Sums and products lean to the left. -/
inductive Derives : Nonterminal → List Char → Formula → Prop where
  | literal (negative : Bool) {n : Numeral} (h : n.IsNumber) :
      Derives .factor (signText negative ++ n.digits) (.literal negative n)
  | dice {d : WrittenDice} (h : ∀ n ∈ d.numerals, n.IsNumber) :
      Derives .factor (signText d.negative ++ d.countText ++ 'd' :: d.kind.text) (.dice d)
  | group {s : List Char} {f : Formula} (h : Derives .expression s f) :
      Derives .factor ('(' :: s ++ [')']) (.group f)
  | factor {s : List Char} {f : Formula} (h : Derives .factor s f) : Derives .product s f
  | times {s t : List Char} {l r : Formula} {c : Char} {symbol : Symbol} (hl : Derives .product s l)
      (hc : multiplicative? c = some symbol) (hr : Derives .factor t r) :
      Derives .product (s ++ c :: t) (.binary symbol l r)
  | product {s : List Char} {f : Formula} (h : Derives .product s f) : Derives .expression s f
  | plus {s t : List Char} {l r : Formula} {c : Char} {symbol : Symbol} (hl : Derives .expression s l)
      (hc : additive? c = some symbol) (hr : Derives .product t r) :
      Derives .expression (s ++ c :: t) (.binary symbol l r)

theorem Derives.ne_nil {k : Nonterminal} {s : List Char} {f : Formula} (h : Derives k s f) : s ≠ [] := by
  induction h with
  | literal negative h => exact List.append_ne_nil_of_right_ne_nil _ h.1
  | dice h => simp
  | group h ih => simp
  | factor h ih => exact ih
  | times hl hc hr ihl ihr => simp
  | product h ih => exact ih
  | plus hl hc hr ihl ihr => simp

end Formula

end Tabletop
