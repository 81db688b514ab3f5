import Tabletop.Proofs.Session.Archive
import Tabletop.Proofs.Settings.Range

/-!
# The history of a session is the log of its successful rolls

A session that remembers rolls lists what was answered with a text since the settings were put in force, then what its
database had when they were, and nothing else (`listHistory_eq_log`).  `Mirrors` carries the proof: of every client the
history has what the archive says it should, the files have the lists of the archive, and what is kept of a success is what
was answered.  Settings that lead to the database in use reopen its history as it is (`Mirrors.history_withSettings`).
-/

namespace Tabletop

namespace Session

variable {τ σ : Type}

/-! ### The invariant -/

/-- The history, if there is one, and the files are as the archive says. -/
structure Mirrors (settings : Settings) (disk : Disk) (history : Option History) (a : Archive) (log : List Success) :
    Prop where
  room : 1 ≤ settings.historyMaxEntries
  isSome : history.isSome = settings.historyEnabled
  follows : ∀ h ∈ history, History.Follows h (a.ledger (disk.database settings.databaseUrl) settings log)
  filed : disk.Holds a.filed
  held : disk.database settings.databaseUrl = .memory → ∀ client, a.held client = []
  text : ∀ r ∈ log, r.text = rollText r.outcome r.description

theorem Mirrors.started {source : σ} {clock : τ} {date : Moment} {disk : Disk} {filed : String → Lists}
    (hdisk : disk.Holds filed) :
    Mirrors (start source clock date disk).settings disk (start source clock date disk).history
      ⟨filed, fun _ => []⟩ [] :=
  ⟨Settings.inRange_default.historyMaxEntries, rfl, by simp [start], hdisk, fun _ _ => rfl, by simp⟩

/-! ### What is listed -/

variable {s : Session τ σ} {a : Archive} {log : List Success}

private theorem exists_history (hm : Mirrors s.settings s.disk s.history a log)
    (henabled : s.settings.historyEnabled = true) :
    ∃ h, s.history = some h ∧
      History.Follows h (a.ledger (s.disk.database s.settings.databaseUrl) s.settings log) := by
  have hsome := hm.isSome
  rw [henabled] at hsome
  obtain ⟨h, hhistory⟩ := Option.isSome_iff_exists.mp hsome
  exact ⟨h, hhistory, hm.follows h hhistory⟩

theorem Mirrors.listHistory (hm : Mirrors s.settings s.disk s.history a log)
    (henabled : s.settings.historyEnabled = true) (limit : Int) :
    s.listHistory limit =
      if History.fits (min limit s.settings.historyMaxEntries) then
        .entries (if limit < 0 then a.lists s.settings log s.caller
          else (Success.entriesOf log s.caller ++ a.held s.caller).take
            (min limit s.settings.historyMaxEntries).toNat)
      else .refused (.badHistory .numberTooLarge) := by
  obtain ⟨h, hhistory, hfollows⟩ := exists_history hm henabled
  unfold Session.listHistory
  rw [hhistory]
  simp only [hfollows.recent_eq]
  cases History.fits (min limit s.settings.historyMaxEntries) with
  | false => rfl
  | true =>
    -- There is room for an entry at least, so it is for a negative limit that everything is taken.
    have hroom := hm.room
    have hneg : min limit s.settings.historyMaxEntries < 0 ↔ limit < 0 := by omega
    simp only [if_true, hneg, Archive.ledger, a.take_lists (Int.toNat_le_toNat (Int.min_le_right _ _))]

/-! ### Closing and opening -/

theorem database_atRest (s : Session τ σ) : s.atRest.database = s.disk.database := by
  unfold atRest
  split
  · rfl
  · exact Disk.keep_database _ _ _

/-- Once the session has closed its database, the files have what the archive says. -/
theorem Mirrors.atRest (hm : Mirrors s.settings s.disk s.history a log) :
    s.atRest.Holds (a.shelved s.disk.database s.settings log) := by
  have hsome := hm.isSome
  unfold Session.atRest Archive.shelved
  cases hhistory : s.history with
  | none =>
    rw [hhistory] at hsome
    rw [← hsome]
    exact hm.filed
  | some h =>
    rw [hhistory] at hsome
    rw [← hsome]
    exact hm.filed.keep (hm.follows h hhistory) s.settings.databaseUrl

/-- Settings in force begin with an empty log, and with the lists that the files have by then. -/
theorem Mirrors.configured (hm : Mirrors s.settings s.disk s.history a log) {settings : Settings}
    (hroom : 1 ≤ settings.historyMaxEntries) :
    Mirrors settings s.atRest (historyOf settings s.atRest) (a.reopen s.disk.database s.settings log settings) [] := by
  refine ⟨hroom, ?_, ?_, hm.atRest, ?_, by simp⟩
  · unfold historyOf
    cases settings.historyEnabled <;> rfl
  · intro h hh
    have hfollows := hm.atRest.connect settings.databaseUrl settings.historyMaxEntries
    rw [database_atRest] at hfollows ⊢
    rw [eq_connect_of_historyOf hh]
    exact hfollows
  · intro hmemory client
    rw [database_atRest] at hmemory
    show (s.disk.database settings.databaseUrl).lists _ client = []
    rw [hmemory]
    rfl

/-- Settings that lead to the database in use reopen its history. -/
theorem Mirrors.history_withSettings (hm : Mirrors s.settings s.disk s.history a log) {settings : Settings}
    (hsame : s.disk.database settings.databaseUrl = s.disk.database s.settings.databaseUrl)
    (hstays : settings.historyEnabled = s.settings.historyEnabled) :
    (s.withSettings settings).history = s.history.map fun h => h.reopen settings.historyMaxEntries := by
  have hsome := hm.isSome
  show historyOf settings s.atRest = _
  unfold historyOf Session.atRest
  cases hhistory : s.history with
  | none =>
    rw [hhistory, ← hstays] at hsome
    rw [← hsome]
    rfl
  | some h =>
    rw [hhistory, ← hstays] at hsome
    rw [← hsome]
    exact congrArg some (Disk.connect_keep (hm.follows h hhistory).medium hsame _)

/-! ### One command -/

theorem Mirrors.snoc {settings : Settings} {disk : Disk} {history history' : Option History} {r : Success}
    (hm : Mirrors settings disk history a log) (htext : r.text = rollText r.outcome r.description)
    (hsome : history'.isSome = history.isSome)
    (hfollows : ∀ h' ∈ history',
      History.Follows h' (a.ledger (disk.database settings.databaseUrl) settings (log ++ [r]))) :
    Mirrors settings disk history' a (log ++ [r]) := by
  refine ⟨hm.room, hsome.trans hm.isSome, hfollows, hm.filed, hm.held, ?_⟩
  intro r' hr'
  rcases List.mem_append.mp hr' with hlog | hnew
  · exact hm.text r' hlog
  · rw [List.mem_singleton.mp hnew]
    exact htext

theorem Mirrors.record {settings : Settings} {disk : Disk} {h : History} {r : Success} {added : History.Addition}
    (hm : Mirrors settings disk (some h) a log) (htext : r.text = rollText r.outcome r.description)
    (hrecord : h.record r.client r.outcome r.description r.date = .ok added) :
    Mirrors settings disk (some added.history) a (log ++ [r]) := by
  refine hm.snoc htext rfl ?_
  rintro h' ⟨⟩
  obtain ⟨-, hfollows⟩ :=
    (hm.follows h rfl).record (History.isReadable_of_record hrecord) r.client r.description r.date
  rw [History.eq_of_record hrecord, Archive.ledger_snoc]
  exact hfollows

variable [Add τ] [Sub τ] [LE τ] [LT τ] [DecidableLE τ] [DecidableLT τ] [ClockTime τ]
variable [RandomSource σ]

/-- A roll is in the log exactly if the history has it. -/
theorem Mirrors.roll (hm : Mirrors s.settings s.disk s.history a log) (expression : String)
    (description : Option String) :
    Mirrors (s.roll expression description).session.settings (s.roll expression description).session.disk
      (s.roll expression description).session.history a
      (log ++ (s.success? (.roll expression description)).toList) := by
  have hstep := s.roll_step expression description
  show Mirrors _ _ _ _ (log ++ (s.successOf expression description (s.roll expression description).reply).toList)
  generalize s.roll expression description = step at hstep ⊢
  cases hstep with
  | denied hlimiter hcheck => simpa [successOf] using hm
  | malformed hadmits hroll => simpa [successOf] using hm
  | unrecorded hadmits hroll hforgets => simpa [successOf] using hm
  | rolled hadmits hroll hremembers =>
    -- The text was made of the outcome that was recorded, and at the same date.
    unfold successOf
    rw [hroll]
    cases hremembers with
    | off hhistory =>
      rw [hhistory] at hm
      cases hdate : s.date with
      | error fault => simpa using hm
      | ok now => exact hm.snoc rfl rfl (by simp)
    | recorded hhistory hdate hrecord =>
      rw [hhistory] at hm
      rw [hdate]
      exact hm.record rfl hrecord

theorem Mirrors.run (hm : Mirrors s.settings s.disk s.history a log) (c : Command τ) :
    Mirrors (s.run c).session.settings (s.run c).session.disk (s.run c).session.history (s.rearchive a log c)
      (s.extend success? log c) := by
  cases c with
  | roll expression description => exact hm.roll expression description
  | configure values =>
    cases hvalues : Settings.ofValues values with
    | error faults =>
      have hnone : (Command.configure values : Command τ).newSettings? = none := Command.newSettings?_of_error hvalues
      rw [extend_of_unobserved hnone rfl, s.run_configure_of_error hvalues]
      unfold rearchive
      rw [hnone]
      exact hm
    | ok settings =>
      have hnew : (Command.configure values : Command τ).newSettings? = some settings := Command.newSettings?_of_ok hvalues
      rw [extend_of_newSettings hnew, s.run_configure_of_ok hvalues]
      unfold rearchive
      rw [hnew]
      exact hm.configured (Settings.inRange_of_ofValues hvalues).historyMaxEntries
  | _ =>
    rw [extend_of_unobserved rfl rfl]
    exact hm

theorem Mirrors.after (hm : Mirrors s.settings s.disk s.history a log) (commands : List (Command τ)) :
    Mirrors (s.after commands).settings (s.after commands).disk (s.after commands).history
      (s.archiveFrom a log commands) (s.logFrom success? log commands) := by
  induction commands generalizing s a log with
  | nil => exact hm
  | cons c rest ih => exact ih (hm.run c)

/-- What is answered with a text while rolls are remembered has a date. -/
theorem Mirrors.isSome_success (hm : Mirrors s.settings s.disk s.history a log)
    (henabled : s.settings.historyEnabled = true) (expression : String) (description : Option String) :
    (s.success? (.roll expression description)).isSome ↔ ∃ text, (s.roll expression description).reply = .text text := by
  obtain ⟨h, hhistory, -⟩ := exists_history hm henabled
  have hstep := s.roll_step expression description
  show (s.successOf expression description (s.roll expression description).reply).isSome ↔ _
  generalize s.roll expression description = step at hstep ⊢
  cases hstep with
  | denied hlimiter hcheck => simp [successOf]
  | malformed hadmits hroll => simp [successOf]
  | unrecorded hadmits hroll hforgets => simp [successOf]
  | rolled hadmits hroll hremembers =>
    cases hremembers with
    | off hnone => rw [hhistory] at hnone; cases hnone
    | recorded _ hdate hrecord => simp [successOf, hroll, hdate]

/-! ### Sessions -/

variable {source : σ} {clock : τ} {date : Moment} {disk : Disk} {filed : String → Lists} {commands : List (Command τ)}

theorem mirrors_of_after (hdisk : disk.Holds filed) (hs : (start source clock date disk).after commands = s) :
    Mirrors s.settings s.disk s.history ((start source clock date disk).archive filed commands)
      ((start source clock date disk).log success? commands) := by
  rw [← hs]
  exact (Mirrors.started hdisk).after commands

theorem database_run (s : Session τ σ) (c : Command τ) : (s.run c).session.disk.database = s.disk.database := by
  cases c with
  | roll expression description =>
    have hstep := s.roll_step expression description
    show (s.roll expression description).session.disk.database = s.disk.database
    generalize s.roll expression description = step at hstep ⊢
    cases hstep <;> rfl
  | configure values =>
    cases hvalues : Settings.ofValues values with
    | error faults => rw [s.run_configure_of_error hvalues]
    | ok settings =>
      rw [s.run_configure_of_ok hvalues]
      exact s.database_atRest
  | _ => rfl

theorem database_after (s : Session τ σ) (commands : List (Command τ)) :
    (s.after commands).disk.database = s.disk.database := by
  induction commands generalizing s with
  | nil => rfl
  | cons c rest ih => exact (ih _).trans (s.database_run c)

/-- While rolls are remembered, a client is shown what its rolls came to that were answered with a text since the
settings were put in force, and behind that what their database had of it by then: the newest first, no more than asked
for and no more than are kept.  A database in memory had nothing; a file had what was kept when it was last open, and the
session in turn leaves its lists there.  Only a number that the table does not take is refused. -/
theorem listHistory_eq_log (hdisk : disk.Holds filed) (hs : (start source clock date disk).after commands = s)
    (hlog : (start source clock date disk).log success? commands = log)
    (harchive : (start source clock date disk).archive filed commands = a)
    (henabled : s.settings.historyEnabled = true) :
    (∀ r ∈ log, r.text = rollText r.outcome r.description ∧
        r.entry.stamp.text = (Stamp.universal { r.date with microsecond := 0 }).text) ∧
      (∀ expression description, (s.success? (.roll expression description)).isSome ↔
        ∃ text, (s.run (.roll expression description)).reply = .text text) ∧
      (disk.database s.settings.databaseUrl = .memory → ∀ client, a.held client = []) ∧
      s.atRest.Holds (a.shelved disk.database s.settings log) ∧
      ∀ limit, (s.run (.listHistory limit)).reply =
        if History.fits (min limit s.settings.historyMaxEntries) then
          .entries (if limit < 0 then a.lists s.settings log s.caller
            else (Success.entriesOf log s.caller ++ a.held s.caller).take
              (min limit s.settings.historyMaxEntries).toNat)
        else .refused (.badHistory .numberTooLarge) := by
  have hm := mirrors_of_after hdisk hs
  have hdatabase : s.disk.database = disk.database := by
    rw [← hs]
    exact database_after _ commands
  rw [hlog, harchive] at hm
  rw [← hdatabase]
  exact ⟨fun r hr => ⟨hm.text r hr, rfl⟩, hm.isSome_success henabled, hm.held, hm.atRest, hm.listHistory henabled⟩

private def tuesday : Moment := { year := 2024, month := 1, day := 2, hour := 21, microsecond := 500000 }

private def inFile : List (String × RawSetting) :=
  [("history_enabled", .boolean true), ("database_url", .text "sqlite:///rolls.db"), ("history_max_entries", .integer 2)]

/-- Two clients; one of the first client's rolls is no formula.  The file is closed and opened again in between. -/
private def evening : List (Command Int) :=
  [.configure inFile, .roll "d6+1" none, .setRequest (some ⟨[], some "b"⟩), .roll "3" none, .setRequest none,
    .roll "2d" none, .configure [], .configure inFile, .setDate (.ok { tuesday with hour := 22 }),
    .roll "d6" (some "bonus")]

private def begun : Session Int Script := start (Script.ofFaces [2, 5]) 0 tuesday .blank

private def played : Session Int Script := begun.after evening

theorem listHistory_eq_log_evening :
    Disk.blank.Holds (fun _ _ => []) ∧ played.settings.historyEnabled = true ∧
      (begun.log success? evening).map Success.text = ["🎲 **1d6** *(bonus)*\n\n[5] = 5\n\n**Result: 5**"] ∧
      (played.run (.listHistory 5)).reply =
        .entries [⟨"1d6", some "bonus", 5, "[5] = 5", .universal { tuesday with hour := 22 }⟩,
          ⟨"1d6+1", none, 3, "[2] = 2 + 1 = 3", .universal tuesday⟩] := by
  have hblank : Disk.blank.Holds fun _ _ => [] := .of_empty fun _ => rfl
  have henabled : played.settings.historyEnabled = true := by decide +kernel
  obtain ⟨-, -, -, -, hlist⟩ := listHistory_eq_log (s := played) hblank rfl rfl rfl henabled
  refine ⟨hblank, henabled, by decide +kernel, (hlist 5).trans ?_⟩
  rw [if_pos (by decide +kernel)]
  exact congrArg Reply.entries (by decide +kernel)

/-- With room for too many entries, nothing that was rolled still comes to no empty list; and what a file has when settings
are put in force is listed although nothing was rolled since. -/
theorem listHistory_ne_log :
    (((start (Script.ofFaces []) (0 : Int) tuesday).after
        [.configure [("history_enabled", .boolean true), ("history_max_entries", .integer 9223372036854775808)]]).run
      (.listHistory 9223372036854775808)).reply ≠ .entries [] ∧
      ((begun.after [.configure inFile, .roll "3" none, .configure inFile]).run (.listHistory 10)).reply ≠
        .entries [] := by
  constructor
  · intro hreply
    have hnone := congrArg Reply.refusal? hreply
    revert hnone
    decide +kernel
  · intro hreply
    have hentries := congrArg Reply.entries? hreply
    revert hentries
    decide +kernel

end Session

end Tabletop
