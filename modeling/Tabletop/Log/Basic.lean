import Tabletop.Log.Event
import Tabletop.Settings.Basic
import Tabletop.Text.Lines

/-!
# Logs

A log has a threshold, below which records are left out, and a form: objects for machines or lines for a console.
Values bound as context go with every record, and a field of the record wins over a context value of the same name.
-/

namespace Tabletop

structure Log where
  threshold : Nat
  json : Bool
  context : List (String × Value) := []
  deriving Repr

inductive LogLine where
  | object (fields : List (String × Value))
  | console (text : String)
  deriving Repr

namespace Log

def ofSettings : Option Settings → Except LevelFault Log
  | none => .ok { threshold := Level.info.severity, json := false }
  | some s => do return { threshold := ← Level.threshold s.logLevel, json := s.logJson }

def admits (log : Log) (level : Level) : Bool :=
  decide (log.threshold ≤ level.severity)

/-! ### Fields -/

/-- Fields of these names steer the log and are not shown. -/
def hiddenNames : List String := ["timestamp", "exc_info", "stack_info", "_record", "_from_structlog"]

/-- The fields of a record and its context without event and level. -/
def fields (log : Log) (r : Record) : List (String × Value) :=
  (Fields.setAll log.context r.fields).filter fun f =>
    !hiddenNames.contains f.1 && f.1 != "event" && f.1 != "level"

def objectLine (log : Log) (r : Record) : List (String × Value) :=
  log.fields r ++ [("event", .text r.event), ("level", .text r.level.name)]

/-! ### Consoles -/

def padRight (width : Nat) (s : String) : String :=
  s ++ String.ofList (List.replicate (width - s.length) ' ')

/-- Names of loggers stand in brackets before the other fields. -/
def loggerNames : List String := ["logger", "logger_name"]

/-- Fields that stand behind all others on lines of their own. -/
def appendedNames : List String := ["stack", "exception"]

def loggerTexts (fields : List (String × Value)) : List String :=
  loggerNames.filterMap fun name => (Fields.last? fields name).map fun v => "[" ++ v.shown ++ "]"

/-- The other fields are listed in the order of their names. -/
def fieldTexts (fields : List (String × Value)) : List String :=
  let named := fields.filter fun f => !loggerNames.contains f.1 && !appendedNames.contains f.1
  (named.mergeSort fun a b => decide (a.1 ≤ b.1)).map fun f => f.1 ++ "=" ++ f.2.word

def headText (fields : List (String × Value)) (r : Record) : String :=
  let columns := ["[" ++ padRight 9 r.level.name ++ "]", padRight 30 r.event]
  let text := " ".intercalate (columns ++ loggerTexts fields ++ fieldTexts fields)
  String.ofList (Text.trimEnd (· == ' ') text.toList)

/-- What stands between two appended fields. -/
def separator : String := "\n\n" ++ String.ofList (List.replicate 79 '=') ++ "\n"

/-- The text of an appended field; none for a value that is no text. -/
def appended? (fields : List (String × Value)) (name : String) : Option (Option String) :=
  match Fields.last? fields name with
  | none | some .null => some none
  | some (.text s) => some (some s)
  | some _ => none

/-- The text of a record, if it has one. -/
def consoleText? (log : Log) (r : Record) : Option String := do
  let fields := log.fields r
  let stack ← appended? fields "stack"
  let exception ← appended? fields "exception"
  let head := headText fields r
  match stack, exception with
  | none, none => return head
  | some stack, none => return head ++ "\n" ++ stack
  | none, some exception => return head ++ "\n" ++ exception
  | some stack, some exception => return head ++ "\n" ++ stack ++ separator ++ "\n" ++ exception

/-- The lines of a text that ends in a line break, without the blanks at their ends. -/
def textLines (text : String) : List String :=
  (Text.lines (text ++ "\n").toList).map fun line => String.ofList (Text.trimEnd Text.isBlank line)

/-! ### Lines -/

def recordLines (log : Log) (r : Record) : List LogLine :=
  if log.json then [.object (log.objectLine r)]
  else (((log.consoleText? r).map textLines).getD []).map .console

def lines (log : Log) (records : List Record) : List LogLine :=
  (records.filter fun r => log.admits r.level).flatMap log.recordLines

/-! ### Reports -/

/-- The logger of the database and those below it leave out what is less than a warning. -/
def isDatabaseLogger (logger : String) : Bool :=
  logger == "sqlalchemy" || "sqlalchemy.".isPrefixOf logger

def admitsFrom (log : Log) (logger : String) (level : Level) : Bool :=
  log.admits level && (!isDatabaseLogger logger || decide (Level.warning.severity ≤ level.severity))

/-- The lines of an event, from the server itself or from the part with a logger.  Whether an own event can be filled
does not depend on the threshold. -/
def report (log : Log) (logger : Option String) (e : Event) : Except EventFault (List LogLine) := do
  match logger with
  | none => return log.lines [← e.record log.context]
  | some logger =>
    Event.checkFields (Event.callFault? e.call) e.fields
    if log.admitsFrom logger e.level then
      return log.lines (← e.foreignRecord? log.context).toList
    else return []

end Log

end Tabletop
