import Tabletop.Value

/-!
# Attributes of records

A logger may be given attributes for its record, which do not show on lines.  They are taken over key by key: the keys
of an object are the names of its fields, the keys of a list are its own items, each of which has to be an index into
the list.  No key may be one that the record has already, from the start or from a key before.
-/

namespace Tabletop

inductive AttributeFault where
  /-- A value of this kind holds no keys at all. -/
  | withoutKeys (kind : String)
  | takenKey (key : String)
  /-- A value of this kind may change and is no key for that reason. -/
  | changeableKey (kind : String)
  /-- The characters of a text are keys that stand for nothing. -/
  | characterKey
  | indexWanted (kind : String)
  | indexTooLarge
  | indexOutside
  deriving DecidableEq, Repr

def AttributeFault.message : AttributeFault → String
  | withoutKeys kind => "'" ++ kind ++ "' object is not iterable"
  | takenKey key => Value.quotedText ("Attempt to overwrite " ++ key ++ " in LogRecord")
  | changeableKey kind => "unhashable type: '" ++ kind ++ "'"
  | characterKey => "string indices must be integers, not 'str'"
  | indexWanted kind => "list indices must be integers or slices, not " ++ kind
  | indexTooLarge => "cannot fit 'int' into an index-sized integer"
  | indexOutside => "list index out of range"

namespace Attributes

/-- The attributes that a record has from the start. -/
def keptNames : List String :=
  ["message", "asctime", "name", "msg", "args", "levelname", "levelno", "pathname", "filename", "module",
   "exc_info", "exc_text", "stack_info", "lineno", "funcName", "created", "msecs", "relativeCreated", "thread",
   "threadName", "processName", "process"]

def nameFault? (name : String) : Option AttributeFault :=
  if keptNames.contains name then some (.takenKey (Value.quotedText name)) else none

/-- Whether a key is one of the numbers; a number with a point is if it is whole. -/
def isAmong (numbers : List Int) : Value → Bool
  | .real x => x.isWhole && numbers.contains x.truncated
  | key => key.asInteger?.any numbers.contains

def indexBound : Nat := twoTo 63

/-- An index counts from the end if it is negative. -/
def indexFault? (length : Nat) (index : Int) : Option AttributeFault :=
  if index < -indexBound ∨ indexBound ≤ index then some .indexTooLarge
  else if index < -length ∨ length ≤ index then some .indexOutside
  else none

/-- The first fault among keys of a list of a length, after other keys. -/
def itemsFault? (length : Nat) : List Int → List Value → Option AttributeFault
  | _, [] => none
  | before, key :: rest =>
    match key with
    | .list _ | .object _ => some (.changeableKey key.kindName)
    | .text name => (nameFault? name).or (some (.indexWanted key.kindName))
    | key =>
      if isAmong before key then some (.takenKey key.inner)
      else match key.asInteger? with
        | none => some (.indexWanted key.kindName)
        | some index => (indexFault? length index).or (itemsFault? length (index :: before) rest)

/-- The first fault among attributes. -/
def fault? : Value → Option AttributeFault
  | .null => none
  | .object fields => fields.findSome? fun f => nameFault? f.1
  | .list items => itemsFault? items.length [] items
  | .text s => if s.isEmpty then none else some .characterKey
  | v => some (.withoutKeys v.kindName)

end Attributes

end Tabletop
