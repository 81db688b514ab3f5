/-!
# Settings

What a server may be told: how it is reached, how it logs, whether rolls are limited and whether they are
remembered.  The defaults are those of the fields.
-/

namespace Tabletop

inductive Transport where
  | stdio
  | sse
  | streamableHttp
  deriving DecidableEq, Repr

namespace Transport

def all : List Transport := [stdio, sse, streamableHttp]

def name : Transport → String
  | stdio => "stdio"
  | sse => "sse"
  | streamableHttp => "streamable-http"

/-- Names are taken exactly as they are written. -/
def ofName? (name : String) : Option Transport :=
  all.find? fun t => t.name == name

end Transport

structure Settings where
  serverName : String := "dice-mcp-server"
  transport : Transport := .stdio
  host : String := "127.0.0.1"
  tcpPort : Int := 8000
  /-- Headers of a proxy are believed only behind a proxy that sets them. -/
  trustForwardedHeaders : Bool := false
  logLevel : String := "INFO"
  logJson : Bool := false
  rateLimitEnabled : Bool := false
  rateLimitPerMinute : Int := 30
  rateLimitPerHour : Int := 500
  rateLimitPerDay : Int := 2000
  historyEnabled : Bool := false
  databaseUrl : String := "sqlite:///./dice_history.sqlite3"
  historyMaxEntries : Int := 100
  deriving DecidableEq, Repr

end Tabletop
