import Tabletop.Proofs.History.Files
import Tabletop.Proofs.Session.Run

/-!
# What the databases of a session should have

A success is a roll that was answered with a text.  An archive has lists of entries and nothing else: those in the files,
and those that the database in use had when it was opened.  Together with the successes since then it says what the
database should have now (`Archive.lists`); new settings put this into its file and take out what the next database has
(`Archive.reopen`).  `Session.archive` follows a session from the lists in the files at its start.
-/

namespace Tabletop

/-! ### Successes -/

/-- A roll that was answered with a text. -/
structure Success where
  client : String
  text : String
  outcome : Outcome
  description : Option String
  date : Moment
  deriving DecidableEq

namespace Success

def entry (r : Success) : Entry := History.entryOf r.outcome r.description r.date

/-- What the rolls of a client came to, the newest first. -/
def entriesOf (log : List Success) (client : String) : List Entry :=
  ((log.filter fun r => r.client == client).map entry).reverse

theorem entriesOf_snoc (log : List Success) (r : Success) (client : String) :
    entriesOf (log ++ [r]) client = if r.client = client then r.entry :: entriesOf log client else entriesOf log client := by
  unfold entriesOf
  rw [List.filter_append]
  by_cases hclient : r.client = client
  · simp [hclient]
  · simp [hclient]

end Success

namespace Session

variable {τ σ : Type} [Add τ] [Sub τ] [LE τ] [LT τ] [DecidableLE τ] [DecidableLT τ] [ClockTime τ]
variable [RandomSource σ]

/-- What a roll came to, if it was answered with a text. -/
def successOf (s : Session τ σ) (expression : String) (description : Option String) : Reply → Option Success
  | .text text =>
    match ((Formula.roll expression).run.run s.source).1, s.date with
    | .ok outcome, .ok date => some { client := s.caller, text, outcome, description, date }
    | _, _ => none
  | _ => none

/-- What a command adds to the log of successes. -/
def success? (s : Session τ σ) : Command τ → Option Success
  | .roll expression description => s.successOf expression description (s.roll expression description).reply
  | _ => none

end Session

/-! ### Archives -/

structure Archive where
  filed : String → Lists
  held : Lists

namespace Archive

/-- What the database in use should have: what it had when it was opened, until a client's next success cuts its list. -/
def lists (a : Archive) (settings : Settings) (log : List Success) : Lists := fun client =>
  if (Success.entriesOf log client).isEmpty then a.held client
  else (Success.entriesOf log client ++ a.held client).take settings.historyMaxEntries.toNat

/-- As far as a list is never cut, it goes on from the successes to what was there before. -/
theorem take_lists (a : Archive) {settings : Settings} {n : Nat} (hn : n ≤ settings.historyMaxEntries.toNat)
    (log : List Success) (client : String) :
    (a.lists settings log client).take n = (Success.entriesOf log client ++ a.held client).take n := by
  unfold lists
  split
  · rename_i hempty
    rw [List.isEmpty_iff.mp hempty, List.nil_append]
  · rw [List.take_take, Nat.min_eq_left hn]

/-- The history that a session with these settings should have open. -/
def ledger (a : Archive) (database : Database) (settings : Settings) (log : List Success) : Ledger :=
  ⟨database.medium, settings.historyMaxEntries, a.lists settings log⟩

/-- One more success takes the first place of its client's list, and the list is cut. -/
theorem ledger_snoc (a : Archive) (database : Database) (settings : Settings) (log : List Success) (r : Success) :
    a.ledger database settings (log ++ [r]) =
      (a.ledger database settings log).set r.client
        ((r.entry :: (a.ledger database settings log).list r.client).take settings.historyMaxEntries.toNat) := by
  unfold ledger Ledger.set
  congr 1
  funext client
  by_cases hclient : client = r.client
  · subst hclient
    have hlist : a.lists settings (log ++ [r]) r.client =
        (r.entry :: (Success.entriesOf log r.client ++ a.held r.client)).take settings.historyMaxEntries.toNat := by
      unfold lists
      rw [Success.entriesOf_snoc, if_pos rfl]
      rfl
    rw [hlist, if_pos rfl]
    cases hroom : settings.historyMaxEntries.toNat with
    | zero => simp
    | succ n => rw [List.take_succ_cons, List.take_succ_cons, a.take_lists (by omega)]
  · rw [if_neg hclient]
    unfold lists
    rw [Success.entriesOf_snoc, if_neg (Ne.symm hclient)]

/-- The lists in the files after the database in use was closed. -/
def shelved (a : Archive) (database : String → Database) (settings : Settings) (log : List Success) : String → Lists :=
  if settings.historyEnabled then (database settings.databaseUrl).shelve a.filed (a.lists settings log) else a.filed

/-- The archive when new settings have closed the database in use and opened theirs. -/
def reopen (a : Archive) (database : String → Database) (settings : Settings) (log : List Success) (new : Settings) :
    Archive :=
  ⟨a.shelved database settings log, (database new.databaseUrl).lists (a.shelved database settings log)⟩

end Archive

namespace Session

variable {τ σ : Type} [Add τ] [Sub τ] [LE τ] [LT τ] [DecidableLE τ] [DecidableLT τ] [ClockTime τ]
variable [RandomSource σ]

/-- The archive after one more command; only new settings change it. -/
def rearchive (s : Session τ σ) (a : Archive) (log : List Success) (c : Command τ) : Archive :=
  match c.newSettings? with
  | none => a
  | some settings => a.reopen s.disk.database s.settings log settings

def archiveFrom (s : Session τ σ) (a : Archive) (log : List Success) : List (Command τ) → Archive
  | [] => a
  | c :: rest => (s.run c).session.archiveFrom (s.rearchive a log c) (s.extend success? log c) rest

/-- The archive after a row of commands, `filed` being what stood in the files before them. -/
def archive (s : Session τ σ) (filed : String → Lists) (commands : List (Command τ)) : Archive :=
  s.archiveFrom ⟨filed, fun _ => []⟩ [] commands

end Session

end Tabletop
