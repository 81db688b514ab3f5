import Tabletop.Text.Blank
import Tabletop.Text.Lowercase

/-!
# The normal form of a formula's text

Formulas are read in lower case and without blanks.  Case is resolved first, so blanks still part words when the
form of a sigma is chosen.
-/

namespace Tabletop.Formula

def normalize (text : String) : List Char :=
  (Text.lowercase text.toList).filter fun c => !Text.isBlank c

end Tabletop.Formula
