/-!
# Blank characters

`isWhiteSpace` is the property White_Space of the Unicode standard.  `isBlank` adds the four separators U+001C to
U+001F, which part fields of a text just as blanks part words.
-/

namespace Tabletop.Text

def isWhiteSpace (c : Char) : Bool :=
  let n := c.toNat
  decide (0x09 ≤ n ∧ n ≤ 0x0D) || n == 0x20 || n == 0x85 || n == 0xA0 || n == 0x1680 ||
    decide (0x2000 ≤ n ∧ n ≤ 0x200A) || n == 0x2028 || n == 0x2029 || n == 0x202F || n == 0x205F || n == 0x3000

def isSeparator (c : Char) : Bool :=
  decide (0x1C ≤ c.toNat ∧ c.toNat ≤ 0x1F)

def isBlank (c : Char) : Bool := isWhiteSpace c || isSeparator c

/-- The text without the characters of a class at its ends. -/
def trim (class? : Char → Bool) (text : List Char) : List Char :=
  ((text.dropWhile class?).reverse.dropWhile class?).reverse

end Tabletop.Text
