import Tabletop.Log.Attributes
import Tabletop.Log.Level
import Tabletop.Log.Template

/-!
# Events and records

An event is what is reported: a text, values for its places, and fields.  It becomes a record, whose text is final.  An
event without values is taken as it is, whatever its text looks like.

The server reports its own events, to which the values bound as context are added.  Other parts report theirs under the
name of a logger; their fields are no fields of the record but tell the logger what to add, and it knows four of them.
One of the four holds attributes for the record, under keys that the record does not use itself.
-/

namespace Tabletop

structure Record where
  level : Level
  event : String
  fields : List (String × Value)
  deriving Repr

structure Event where
  /-- The name by which the level was called. -/
  call : String
  level : Level
  text : String
  values : List Value
  fields : List (String × Value)
  deriving Repr

inductive EventFault where
  | unfilled (fault : TemplateFault)
  /-- A field goes by the name of another part of the event. -/
  | repeatedPart (receiver part : String)
  | unknownPart (receiver part : String)
  /-- The depth of the caller is of a kind that is no number. -/
  | numberWanted (kind : String)
  | attributes (fault : AttributeFault)
  deriving DecidableEq, Repr

namespace EventFault

def message : EventFault → String
  | unfilled fault => fault.message
  | repeatedPart receiver part => receiver ++ "() got multiple values for argument '" ++ part ++ "'"
  | unknownPart receiver part => receiver ++ "() got an unexpected keyword argument '" ++ part ++ "'"
  | numberWanted kind => "'>' not supported between instances of '" ++ kind ++ "' and 'int'"
  | attributes fault => fault.message

end EventFault

namespace Event

def filled (text : String) (s : Template.Supply) : Except EventFault String :=
  (fillText text s).mapError .unfilled

/-- The first fault among the fields of an event. -/
def checkFields (fault? : String × Value → Option EventFault) (fields : List (String × Value)) :
    Except EventFault Unit :=
  match fields.findSome? fault? with
  | none => .ok ()
  | some fault => .error fault

/-! ### The server's own events -/

/-- A field of this name holds the values of an event that has no others. -/
def valuesName : String := "positional_args"

/-- A call has another name as well, by which its faults go. -/
def receiver (call : String) : String :=
  "BoundLogger." ++ (if call == "warn" then "warning" else call)

def ownFault? (call : String) (f : String × Value) : Option EventFault :=
  if f.1 == "self" || f.1 == "event" then some (.repeatedPart (receiver call) f.1)
  else if f.1 == "method_name" then some (.repeatedPart "BoundLogger._proxy_to_logger" f.1)
  else none

/-- The values that a field holds.  It may hold one object for keys, alone or in a list. -/
def supplyOf : Value → Except TemplateFault Template.Supply
  | .list [.object (f :: fields)] => .ok (.ofValue (.object (f :: fields)))
  | .object [_] => .error .missingIndex
  | .boolean b => .error (.unmeasured (Value.boolean b).kindName)
  | .integer n => .error (.unmeasured (Value.integer n).kindName)
  | .real x => .error (.unmeasured (Value.real x).kindName)
  | v => .ok (.ofValue v)

/-- The text of an own event, and whether its field of values was used up. -/
def ownText (e : Event) (held : Option Value) : Except EventFault (String × Bool) := do
  if !e.values.isEmpty then
    return (← filled e.text (.ofValues e.values), true)
  match held with
  | none | some .null => return (e.text, false)
  | some v =>
    if v.isEmpty then return (e.text, true)
    let s ← (supplyOf v).mapError .unfilled
    return (← filled e.text s, true)

/-- The context is added before the text is filled and again after it. -/
def record (e : Event) (context : List (String × Value)) : Except EventFault Record := do
  checkFields (ownFault? e.call) e.fields
  let fields := Fields.setAll context e.fields
  let (event, used) ← e.ownText (Fields.last? fields valuesName)
  let fields := if used then fields.filter fun f => f.1 != valuesName else fields
  return { level := e.level, event, fields := Fields.setAll context fields }

/-! ### Events of other parts -/

/-- What a logger is told by fields. -/
def loggerParts : List String := ["exc_info", "extra", "stack_info", "stacklevel"]

/-- The call has a receiver and a text, whether or not the event is admitted. -/
def callFault? (call : String) (f : String × Value) : Option EventFault :=
  if f.1 == "self" || f.1 == "msg" then some (.repeatedPart ("Logger." ++ call) f.1) else none

def loggerFault? (f : String × Value) : Option EventFault :=
  if f.1 == "level" || f.1 == "args" then some (.repeatedPart "Logger._log" f.1)
  else if loggerParts.contains f.1 then none
  else some (.unknownPart "Logger._log" f.1)

/-- The caller is looked for at a depth, which has to be a number. -/
def depthFault? : String × Value → Option EventFault
  | ("stacklevel", .boolean _) | ("stacklevel", .integer _) | ("stacklevel", .real _) => none
  | ("stacklevel", v) => some (.numberWanted v.kindName)
  | _ => none

def extraFault? : String × Value → Option EventFault
  | ("extra", v) => (Attributes.fault? v).map .attributes
  | _ => none

/-- The record of an event from another part.  An event that cannot be filled leaves none. -/
def foreignRecord? (e : Event) (context : List (String × Value)) : Except EventFault (Option Record) := do
  checkFields loggerFault? e.fields
  checkFields depthFault? e.fields
  checkFields extraFault? e.fields
  let text := if e.values.isEmpty then .ok e.text else filled e.text (.ofValues e.values)
  return text.toOption.map fun event => { level := e.level, event, fields := context }

end Event

end Tabletop
