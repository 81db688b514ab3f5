import Tabletop.Text.Blank

/-!
# Lines of a text

Besides the usual ones the Unicode standard knows further characters that end a line; a carriage return and the line
feed behind it end one line together.
-/

namespace Tabletop.Text

def isLineBreak (c : Char) : Bool :=
  let n := c.toNat
  decide (0x0A ≤ n ∧ n ≤ 0x0D) || decide (0x1C ≤ n ∧ n ≤ 0x1E) || n == 0x85 || n == 0x2028 || n == 0x2029

/-- The lines of a text without what ends them.  Nothing is a line behind the last line break. -/
def lines : List Char → List (List Char)
  | [] => []
  | '\r' :: '\n' :: rest => [] :: lines rest
  | c :: rest =>
    if isLineBreak c then [] :: lines rest
    else
      match lines rest with
      | [] => [[c]]
      | line :: more => (c :: line) :: more

def trimEnd (class? : Char → Bool) (text : List Char) : List Char := (text.reverse.dropWhile class?).reverse

end Tabletop.Text
