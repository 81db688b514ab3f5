import Tabletop.Value

/-!
# Levels of a log

A level has a severity.  An event is reported by the name of a call, which stands for a level; a threshold is set by
the name of a level in any case.
-/

namespace Tabletop

inductive Level where
  | debug
  | info
  | warning
  | error
  | critical
  deriving DecidableEq, Repr

namespace Level

def name : Level → String
  | debug => "debug"
  | info => "info"
  | warning => "warning"
  | error => "error"
  | critical => "critical"

def severity : Level → Nat
  | debug => 10
  | info => 20
  | warning => 30
  | error => 40
  | critical => 50

/-- The calls that report events; some levels have two. -/
def calls : List (String × Level) :=
  [("debug", debug), ("info", info), ("warning", warning), ("warn", warning), ("error", error),
   ("exception", error), ("critical", critical), ("fatal", critical)]

def ofCall? (call : String) : Option Level :=
  (calls.find? fun c => c.1 == call).map Prod.snd

/-! ### Thresholds -/

/-- Upper case, as far as names need it. -/
def upper (c : Char) : List Char :=
  if c = 'ı' then ['I'] else if c = 'ſ' then ['S'] else if c = 'ﬅ' ∨ c = 'ﬆ' then ['S', 'T'] else [c.toUpper]

/-- The layout of lines that goes by the name `BASIC_FORMAT`. -/
def basicFormat : String := "%(levelname)s:%(name)s:%(message)s"

/-- The layouts that go by the name `_STYLES`, each with its sign, its kind and its form of the same line. -/
def styles : List (String × String × String) :=
  [("%", "PercentStyle", basicFormat),
   ("\x7b", "StrFormatStyle", "\x7blevelname\x7d:\x7bname\x7d:\x7bmessage\x7d"),
   ("$", "StringTemplateStyle", "$\x7blevelname\x7d:$\x7bname\x7d:$\x7bmessage\x7d")]

def styleText (style : String × String × String) : String :=
  Value.quotedText style.1 ++ ": (<class 'logging." ++ style.2.1 ++ "'>, " ++ Value.quotedText style.2.2 ++ ")"

end Level

inductive LevelFault where
  | missing
  | notALevel (text : String)
  | noTextAtAll
  deriving DecidableEq, Repr

def LevelFault.message : LevelFault → String
  | missing => "No level"
  | notALevel text => "Unknown level: " ++ Value.quotedText text
  | noTextAtAll =>
    "Level not an integer or a valid string: \x7b" ++ ", ".intercalate (Level.styles.map Level.styleText) ++ "\x7d"

/-- The severity that a name stands for in any case.  An unknown name stands for `INFO`; the names of layouts stand for
no severity. -/
def Level.threshold (name : String) : Except LevelFault Nat :=
  match String.ofList (name.toList.flatMap upper) with
  | "NOTSET" => .ok 0
  | "DEBUG" => .ok debug.severity
  | "WARN" | "WARNING" => .ok warning.severity
  | "ERROR" => .ok error.severity
  | "CRITICAL" | "FATAL" => .ok critical.severity
  | "BASIC_FORMAT" => .error (.notALevel basicFormat)
  | "_STYLES" => .error .noTextAtAll
  | _ => .ok info.severity

end Tabletop
