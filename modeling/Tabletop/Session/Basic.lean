import Tabletop.Caller
import Tabletop.Disk
import Tabletop.Formula.Roll
import Tabletop.Log.Basic
import Tabletop.Reply
import Tabletop.Session.About

/-!
# Sessions

A session is a running server: its settings, the limiter and the history if they are on, the disk, the source of
faces, the two clocks and the request that is being served.  `Session.run` carries out one command; it gives the reply,
the log records in the order in which they arise, and the session after it.

New settings close the database that is open and open the one that they name.

A roll passes the limiter, then is read and worked out, then is recorded, then is answered; whatever refuses it
leaves the later parts untouched.  The calendar clock may be set to a date that is in no calendar; whoever looks at it
then fails.
-/

namespace Tabletop

structure Session (τ σ : Type) where
  settings : Settings
  limiter : Option (Limiter τ)
  history : Option History
  /-- The files as they are but for the one that the history may have open. -/
  disk : Disk
  source : σ
  clock : τ
  date : Except DateFault Moment
  request : Option Request

inductive Command (τ : Type) where
  | configure (values : List (String × RawSetting))
  | setClock (reading : τ)
  | setDate (date : Except DateFault Moment)
  | setRequest (request : Option Request)
  | roll (expression : String) (description : Option String)
  | listHistory (limit : Int)
  | info
  | health

structure Step (τ σ : Type) where
  reply : Reply
  records : List Record
  session : Session τ σ

namespace Session

variable {τ σ : Type} [Add τ] [Sub τ] [LE τ] [LT τ] [DecidableLE τ] [DecidableLT τ] [ClockTime τ]
variable [RandomSource σ]

/-! ### Set-up -/

def limiterOf (settings : Settings) (clock : τ) : Option (Limiter τ) :=
  if settings.rateLimitEnabled then
    some (Limiter.start
      { perMinute := settings.rateLimitPerMinute
        perHour := settings.rateLimitPerHour
        perDay := settings.rateLimitPerDay } clock)
  else none

def historyOf (settings : Settings) (disk : Disk) : Option History :=
  if settings.historyEnabled then some (disk.connect settings.databaseUrl settings.historyMaxEntries) else none

/-- A session with the default settings, outside any request.  Without a disk all databases are in memory. -/
def start (source : σ) (clock : τ) (date : Moment) (disk : Disk := .inMemory) : Session τ σ :=
  { settings := {}, limiter := none, history := none, disk, source, clock, date := .ok date, request := none }

/-- The disk after the session has closed its database. -/
def atRest (s : Session τ σ) : Disk :=
  match s.history with
  | none => s.disk
  | some history => s.disk.keep s.settings.databaseUrl history

def withSettings (s : Session τ σ) (settings : Settings) : Session τ σ :=
  { s with
    settings
    limiter := limiterOf settings s.clock
    history := historyOf settings s.atRest
    disk := s.atRest }

/-- A history that is on says that it is ready; all databases are SQLite ones. -/
def readyRecords (settings : Settings) : List Record :=
  if settings.historyEnabled then
    [{ level := .info
       event := "history.ready"
       fields := [("dialect", .text "sqlite"), ("max_entries", .integer settings.historyMaxEntries)] }]
  else []

/-- Settings that are not all good change nothing. -/
def configure (s : Session τ σ) (values : List (String × RawSetting)) : Step τ σ :=
  match Settings.ofValues values with
  | .error faults => ⟨.invalidSettings faults, [], s⟩
  | .ok settings =>
    ⟨.configured settings.rateLimitEnabled settings.historyEnabled, readyRecords settings,
      s.withSettings settings⟩

def caller (s : Session τ σ) : String :=
  match s.request with
  | none => Request.localName
  | some r => r.identity s.settings.trustForwardedHeaders

/-! ### Rolling -/

/-- Without a limiter every call is allowed. -/
def consultLimiter (s : Session τ σ) (client : String) : Decision τ × Session τ σ :=
  match s.limiter with
  | none => (.allowed, s)
  | some limiter =>
    let (decision, limiter) := limiter.check client s.clock
    (decision, { s with limiter := some limiter })

/-- Records an outcome if there is a history; also gives the number of rows pruned. -/
def remember (s : Session τ σ) (client : String) (o : Outcome) (description : Option String) :
    Except Refusal (Nat × Session τ σ) :=
  match s.history with
  | none => .ok (0, s)
  | some history => do
    let now ← s.date.mapError .badDate
    let added ← (history.record client o description now).mapError .badHistory
    return (added.pruned, { s with history := some added.history })

def deniedRecord (client : String) (window : Window) (limit : Int) : Record :=
  { level := .warning
    event := "server.roll.rate_limited"
    fields := [("client_id", .text client), ("window", .text window.name), ("limit", .integer limit)] }

def rejectedRecord (client : String) (fault : Fault) : Record :=
  { level := .info
    event := "server.roll.rejected"
    fields :=
      [("client_id", .text client), ("code", .text fault.code),
       ("position", .ofOption (fun p => .integer p) fault.position)] }

def parsedRecord (o : Outcome) : Record :=
  { level := .debug
    event := "dice.parse.ok"
    fields :=
      [("expression", .text o.expression), ("total", .integer o.total),
       ("roll_count", .integer o.rolls.length)] }

def prunedRecords (client : String) (rows : Nat) : List Record :=
  if rows = 0 then []
  else
    [{ level := .debug
       event := "history.pruned"
       fields := [("client_id", .text client), ("rows", .integer rows)] }]

def rolledRecord (client : String) (o : Outcome) : Record :=
  { level := .info
    event := "server.roll.ok"
    fields :=
      [("client_id", .text client), ("expression", .text o.expression), ("total", .integer o.total)] }

/-- A roll that the limiter has let through. -/
def rollAdmitted (s : Session τ σ) (client expression : String) (description : Option String) :
    Step τ σ :=
  match (Formula.roll expression).run.run s.source with
  | (.error fault, source) =>
    ⟨.refused (.badFormula fault), [rejectedRecord client fault], { s with source }⟩
  | (.ok o, source) =>
    let s := { s with source }
    match s.remember client o description with
    | .error cause => ⟨.refused cause, [parsedRecord o], s⟩
    | .ok (pruned, s) =>
      ⟨.text (rollText o description),
        parsedRecord o :: prunedRecords client pruned ++ [rolledRecord client o], s⟩

/-- The wording of a denial gives whole seconds. -/
def denial (window : Window) (limit : Int) (retryAfter : τ) : Refusal :=
  match ClockTime.ceiling retryAfter with
  | some seconds => .rateLimited window limit seconds
  | none => .endlessWait

def roll (s : Session τ σ) (expression : String) (description : Option String) : Step τ σ :=
  let client := s.caller
  match s.consultLimiter client with
  | (.denied window limit retryAfter, s) =>
    ⟨.refused (denial window limit retryAfter), [deniedRecord client window limit], s⟩
  | (.allowed, s) => s.rollAdmitted client expression description

/-! ### Listing -/

def listHistory (s : Session τ σ) (limit : Int) : Reply :=
  match s.history with
  | none => .refused .historyDisabled
  | some history =>
    match history.recent s.caller (min limit s.settings.historyMaxEntries) with
    | .ok entries => .entries entries
    | .error fault => .refused (.badHistory fault)

/-! ### Pages -/

def health (s : Session τ σ) : Reply :=
  match s.date with
  | .ok now => .page (About.health now)
  | .error fault => .refused (.badDate fault)

/-! ### Commands -/

def run (s : Session τ σ) : Command τ → Step τ σ
  | .configure values => s.configure values
  | .setClock reading => ⟨.done, [], { s with clock := reading }⟩
  | .setDate date => ⟨.done, [], { s with date }⟩
  | .setRequest request =>
    let s := { s with request }
    ⟨.caller s.caller, [], s⟩
  | .roll expression description => s.roll expression description
  | .listHistory limit => ⟨s.listHistory limit, [], s⟩
  | .info => ⟨.page (About.info s.settings s.limiter.isSome s.history.isSome), [], s⟩
  | .health => ⟨s.health, [], s⟩

end Session

end Tabletop
