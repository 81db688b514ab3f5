/-!
# Named fields

Fields in the order in which their names came first.  Setting a field that is there keeps its place.
-/

namespace Tabletop.Fields

variable {α : Type}

/-- Sets a field that is there to its new value and puts any other at the end. -/
def set (fields : List (String × α)) (f : String × α) : List (String × α) :=
  if fields.any (·.1 == f.1) then fields.map fun g => if g.1 == f.1 then f else g
  else fields ++ [f]

def setAll (fields newer : List (String × α)) : List (String × α) :=
  newer.foldl set fields

/-- Of fields with one name the first. -/
def first? (fields : List (String × α)) (name : String) : Option α :=
  (fields.find? fun f => f.1 == name).map Prod.snd

/-- Of fields with one name the last. -/
def last? (fields : List (String × α)) (name : String) : Option α :=
  (fields.reverse.find? fun f => f.1 == name).map Prod.snd

end Tabletop.Fields
