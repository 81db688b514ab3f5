import Tabletop.Text.Lowercase.Table

/-!
# Lower case

Every character is replaced by its lower case.  Two characters need more than the table: `İ` becomes an `i` with a
dot above it, and a capital sigma becomes the final `ς` when it ends a word, that is when a cased character stands
before it and none after it, case-ignorable characters between them left out of account.
-/

namespace Tabletop.Text

def isCased (c : Char) : Bool := inRanges casedRanges c.toNat

def isCaseIgnorable (c : Char) : Bool := inRanges caseIgnorableRanges c.toNat

def lowerCode (n : Nat) : Nat :=
  match caseRuns.find? (·.contains n) with
  | none => n
  | some r => r.lower n

def lowerChar (c : Char) : Char := Char.ofNat (lowerCode c.toNat)

/-- The nearest character that is not case-ignorable is cased. -/
def meetsCased (cs : List Char) : Bool :=
  (cs.dropWhile isCaseIgnorable).head?.any isCased

/-- The lower case of `c` between the characters `before` it, the nearest first, and those `after` it. -/
def lowerBetween (before : List Char) (c : Char) (after : List Char) : List Char :=
  if c = 'İ' then ['i', '\u0307']
  else if c = 'Σ' then [if meetsCased before && !meetsCased after then 'ς' else 'σ']
  else [lowerChar c]

def lowercaseAfter : List Char → List Char → List Char
  | _, [] => []
  | before, c :: after => lowerBetween before c after ++ lowercaseAfter (c :: before) after

def lowercase (text : List Char) : List Char := lowercaseAfter [] text

end Tabletop.Text
