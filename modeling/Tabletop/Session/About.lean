import Tabletop.Calendar
import Tabletop.Fault
import Tabletop.Settings.Basic
import Tabletop.Value

/-!
# What a server says about itself

The bodies of two pages: one describes the server, its limits and the forms of dice it knows, the other says that
it is up and gives the time.
-/

namespace Tabletop.About

def version : String := "0.1.0"

def texts (items : List String) : Value := .list (items.map .text)

def textFields (items : List (String × String)) : Value :=
  .object (items.map fun f => (f.1, .text f.2))

def transports : Value := texts (Transport.all.map Transport.name)

def endpoints : Value := textFields
  [("streamable_http", "/mcp"),
   ("sse", "/sse"),
   ("messages", "/messages/"),
   ("health", "/health"),
   ("info", "/info")]

def diceForms : Value := textFields
  [("basic", "NdX (e.g. 2d6, d20, d%)"),
   ("fudge", "NdF (FATE dice: -1, 0, +1)"),
   ("keep_drop", "NdXkY (keep highest Y), NdXdY (drop lowest Y)"),
   ("exploding", "NdX! (explode on max), NdXeY (explode on Y+)"),
   ("reroll", "NdXrY (reroll once if result <= Y)"),
   ("math", "+, -, * (also x and middle dot), parentheses")]

def limits : Value := .object
  [("dice_count", .integer maxCount),
   ("dice_sides", .integer maxSides),
   ("numbers", .integer maxNumber),
   ("outcome_space", .integer maxOutcomeSpace),
   ("nesting_depth", .integer maxNesting),
   ("expression_length", .integer maxLength),
   ("result_digits", .integer maxResultDigits)]

def info (s : Settings) (rateLimit history : Bool) : Value := .object
  [("name", .text s.serverName),
   ("version", .text version),
   ("description", .text "A Model Context Protocol server for rolling dice with advanced notation"),
   ("transports", transports),
   ("endpoints", endpoints),
   ("tools", texts ["roll", "roll_history"]),
   ("rate_limit", .object
     [("enabled", .boolean rateLimit),
      ("per_minute", .integer s.rateLimitPerMinute),
      ("per_hour", .integer s.rateLimitPerHour),
      ("per_day", .integer s.rateLimitPerDay)]),
   ("history", .object [("enabled", .boolean history)]),
   ("dice_notation", diceForms),
   ("limits", limits)]

def health (now : Moment) : Value := .object
  [("status", .text "healthy"),
   ("timestamp", .text (now.text ++ "Z")),
   ("version", .text version),
   ("transports", transports)]

end Tabletop.About
