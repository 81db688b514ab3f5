import Tabletop.Settings.File
import Tabletop.Settings.Raw
import Tabletop.Text.Lowercase

/-!
# Loading settings

Settings come from named values; names are taken without regard to case, a field that is not named keeps its default,
and names of no field are passed over.  Either all values are good, or every field with a bad value is reported once,
in the order of the names.

In an environment the names of settings follow `dice_mcp_`.  A file of variables stands behind the environment.
-/

namespace Tabletop

structure FieldFault where
  field : String
  fault : SettingFault
  deriving DecidableEq, Repr

namespace Settings

open RawSetting

/-! ### From named values -/

/-- Values with the faults found on the way to them. -/
abbrev Checked := StateM (List FieldFault)

def field {α : Type} (find? : String → Option RawSetting) (name : String) (default : α)
    (read : RawSetting → Except SettingFault α) : Checked α :=
  match find? name with
  | none => pure default
  | some raw =>
    match read raw with
    | .ok value => pure value
    | .error fault => do
      modify (⟨name, fault⟩ :: ·)
      return default

def fields (find? : String → Option RawSetting) : Checked Settings := do
  let d : Settings := {}
  return {
    serverName := ← field find? "server_name" d.serverName asText
    transport := ← field find? "transport" d.transport asTransport
    host := ← field find? "host" d.host asText
    tcpPort := ← field find? "port" d.tcpPort (within 1 65535)
    trustForwardedHeaders := ← field find? "trust_forwarded_headers" d.trustForwardedHeaders asBoolean
    logLevel := ← field find? "log_level" d.logLevel asText
    logJson := ← field find? "log_json" d.logJson asBoolean
    rateLimitEnabled := ← field find? "rate_limit_enabled" d.rateLimitEnabled asBoolean
    rateLimitPerMinute := ← field find? "rate_limit_per_minute" d.rateLimitPerMinute (atLeast 0)
    rateLimitPerHour := ← field find? "rate_limit_per_hour" d.rateLimitPerHour (atLeast 0)
    rateLimitPerDay := ← field find? "rate_limit_per_day" d.rateLimitPerDay (atLeast 0)
    historyEnabled := ← field find? "history_enabled" d.historyEnabled asBoolean
    databaseUrl := ← field find? "database_url" d.databaseUrl asText
    historyMaxEntries := ← field find? "history_max_entries" d.historyMaxEntries (atLeast 1) }

def ofLookup (find? : String → Option RawSetting) : Except (List FieldFault) Settings :=
  let (settings, faults) := (fields find?).run []
  if faults.isEmpty then .ok settings
  else .error (faults.mergeSort fun a b => decide (a.field ≤ b.field))

def foldName (name : String) : String :=
  String.ofList (Text.lowercase name.toList)

def foldNames {α : Type} (values : List (String × α)) : List (String × α) :=
  values.map fun v => (foldName v.1, v.2)

/-- Of values whose names differ only in case the first counts. -/
def ofValues (values : List (String × RawSetting)) : Except (List FieldFault) Settings :=
  ofLookup (Fields.first? (foldNames values))

/-! ### From an environment -/

def fieldNames : List String :=
  ["server_name", "transport", "host", "port", "trust_forwarded_headers", "log_level", "log_json",
   "rate_limit_enabled", "rate_limit_per_minute", "rate_limit_per_hour", "rate_limit_per_day",
   "history_enabled", "database_url", "history_max_entries"]

def variablePrefix : String := "dice_mcp_"

/-- The environment wins over the file, and in both the last of names that differ only in case counts.  A name that
the file binds to nothing is not given. -/
def load (environment : List (String × String)) (file : Option String) :
    Except (List FieldFault) Settings :=
  let inFile := (file.map (File.contents environment)).getD []
  ofLookup fun name =>
    let name := variablePrefix ++ name
    match Fields.last? (foldNames environment) name with
    | some value => some (.text value)
    | none => (Fields.last? (foldNames inFile) name).join.map .text

end Settings

end Tabletop
