import Tabletop.History
import Tabletop.Limiter.Basic
import Tabletop.Settings.Load
import Tabletop.Value

/-!
# Replies

What a session answers to a command.  A refused command has a cause, and its wording is a function of the cause.
-/

namespace Tabletop

/-- The text of a successful roll; an empty description counts as none. -/
def rollText (o : Outcome) (description : Option String) : String :=
  "🎲 **" ++ o.expression ++ "**" ++
    (match description with
    | none => ""
    | some d => if d.isEmpty then "" else " *(" ++ d ++ ")*") ++
    "\n\n" ++ o.breakdown ++ "\n\n**Result: " ++ toString o.total ++ "**"

def examples : String :=
  "Examples:\n" ++
  "- Basic: `2d6`, `d20`, `d%`, `4dF`\n" ++
  "- Modifiers: `4d6k3`, `3d6!`, `2d10e8`, `4d6r1`\n" ++
  "- Math: `d20+5`, `2d6+1d4-2`, `3*(2d6+1)`\n" ++
  "- Complex: `(2d6+3)*2+1d4`, `3d8k2+d4`"

inductive Refusal where
  /-- The full window, its limit and the whole seconds until it has room. -/
  | rateLimited (window : Window) (limit : Int) (seconds : Int)
  | badFormula (fault : Fault)
  | endlessWait
  | historyDisabled
  | badHistory (fault : HistoryFault)
  | badDate (fault : DateFault)
  deriving DecidableEq, Repr

namespace Refusal

def message : Refusal → String
  | rateLimited window limit seconds =>
    "[RATE_LIMITED] Too many rolls this " ++ window.name ++ " (limit " ++ toString limit ++
      "). Try again in " ++ toString seconds ++ "s."
  | badFormula fault => "Invalid dice expression: " ++ fault.message ++ "\n\n" ++ examples
  | historyDisabled => "[HISTORY_DISABLED] Roll history is not enabled on this server."
  | endlessWait => "cannot convert float infinity to integer"
  | badHistory fault => fault.message
  | badDate fault => fault.message

end Refusal

inductive Reply where
  | configured (rateLimit history : Bool)
  | invalidSettings (faults : List FieldFault)
  | done
  | caller (name : String)
  | text (s : String)
  | entries (entries : List Entry)
  | refused (cause : Refusal)
  | page (body : Value)
  deriving Repr

end Tabletop
