import Tabletop.Proofs.Formula.Draws
import Tabletop.Proofs.History.Ledger
import Tabletop.Proofs.Log.Reporting
import Tabletop.Proofs.Session.Run

/-!
# What a log tells of a session

Every roll that is denied, is no formula, or is answered says so by one record (`Tells`): it names the client that the limiter
and the history were asked for, and it goes with the reply.  A roll that cannot be recorded has none.

`Session.serve` carries out commands at a level and reports every record to the log of that level.  No report fails, so the
replies are those of the session alone; at a higher level the records below it leave no lines, and every other line is the
same (`log_tells_and_never_interferes`).
-/

namespace Tabletop

namespace Session

variable {τ σ : Type} [Add τ] [Sub τ] [LE τ] [LT τ] [DecidableLE τ] [DecidableLT τ] [ClockTime τ]
variable [RandomSource σ]

/-! ### How a roll says that it ended -/

/-- The events that say how a roll ended. -/
def endingEvents : List String := ["server.roll.rate_limited", "server.roll.rejected", "server.roll.ok"]

def isEnding (r : Record) : Bool := endingEvents.contains r.event

/-- How many faces a text draws. -/
def drawn (s : Session τ σ) (expression : String) : Nat :=
  ((Formula.roll expression).run.run (Recorded.start s.source)).2.draws

/-- The reply to a roll, the records before the last, and the record by which it says how it ended. -/
inductive Tells (s : Session τ σ) (expression : String) (description : Option String) :
    Reply → List Record → Option Record → Prop where
  | limited {window : Window} {limit : Int} {retryAfter : τ}
      (hdecision : (s.consultLimiter s.caller).1 = .denied window limit retryAfter) :
      s.Tells expression description (.refused (denial window limit retryAfter)) []
        (some {
          level := .warning
          event := "server.roll.rate_limited"
          fields := [("client_id", .text s.caller), ("window", .text window.name), ("limit", .integer limit)] })
  | rejected {limiter : Option (Limiter τ)} {source : σ} {fault : Fault} (hadmits : s.Admits limiter)
      (hroll : (Formula.roll expression).run.run s.source = (.error fault, source)) :
      s.Tells expression description (.refused (.badFormula fault)) []
        (some {
          level := .info
          event := "server.roll.rejected"
          fields := [("client_id", .text s.caller), ("code", .text fault.code),
            ("position", .ofOption (fun p => .integer p) fault.position)] })
  | answered {limiter : Option (Limiter τ)} {source : σ} {o : Outcome} {history : Option History} {pruned : Nat}
      (hadmits : s.Admits limiter) (hroll : (Formula.roll expression).run.run s.source = (.ok o, source))
      (hremembers : s.Remembers o description history pruned) :
      s.Tells expression description (.text (rollText o description))
        ({ level := .debug
           event := "dice.parse.ok"
           fields := [("expression", .text o.expression), ("total", .integer o.total),
             ("roll_count", .integer (s.drawn expression))] } ::
          if pruned = 0 then [] else
            [{ level := .debug
               event := "history.pruned"
               fields := [("client_id", .text s.caller), ("rows", .integer pruned)] }])
        (some {
          level := .info
          event := "server.roll.ok"
          fields := [("client_id", .text s.caller), ("expression", .text o.expression), ("total", .integer o.total)] })
  | unrecorded {limiter : Option (Limiter τ)} {source : σ} {o : Outcome} {cause : Refusal} (hadmits : s.Admits limiter)
      (hroll : (Formula.roll expression).run.run s.source = (.ok o, source)) (hforgets : s.Forgets o description cause) :
      s.Tells expression description (.refused cause)
        [{ level := .debug
           event := "dice.parse.ok"
           fields := [("expression", .text o.expression), ("total", .integer o.total),
             ("roll_count", .integer (s.drawn expression))] }]
        none

omit [Add τ] [Sub τ] [LE τ] [LT τ] [DecidableLE τ] [DecidableLT τ] [ClockTime τ] in
/-- The faces of an outcome are those that were drawn for it. -/
theorem drawn_eq {s : Session τ σ} {expression : String} {o : Outcome} {source : σ}
    (hroll : (Formula.roll expression).run.run s.source = (.ok o, source)) : s.drawn expression = o.rolls.length := by
  unfold drawn
  rcases hrecorded : (Formula.roll expression).run.run (Recorded.start s.source) with ⟨result, r⟩
  obtain ⟨faces, hfaces, hplain, hdrawn, -⟩ := (Formula.traces_roll expression).run_recorded hrecorded
  obtain ⟨rfl, -⟩ := Prod.mk.inj (hplain.symm.trans hroll)
  show r.drawn.length = _
  rw [hdrawn, hfaces o rfl, List.length_append, List.length_reverse]
  rfl

omit [Add τ] [Sub τ] [LE τ] [LT τ] [DecidableLE τ] [DecidableLT τ] [ClockTime τ] [RandomSource σ] in
/-- What is said to be pruned are the caller's rows for which there is no room any more. -/
theorem Remembers.pruned_eq {s : Session τ σ} {h : History} (hhistory : s.history = some h)
    (hfalling : History.Falling h.rows) {o : Outcome} {description : Option String} {history : Option History}
    {pruned : Nat} (hremembers : s.Remembers o description history pruned) :
    pruned = (h.rowsOf s.caller).length + 1 - h.maxEntries.toNat := by
  cases hremembers with
  | off hnone => rw [hhistory] at hnone; cases hnone
  | @recorded _ now added hsame hdate hrecord =>
    obtain rfl := Option.some.inj (hhistory.symm.trans hsame)
    have hnew := History.falling_withRow hfalling s.caller o description now
    rw [History.eq_of_record hrecord]
    show ((h.withRow s.caller o description now).prune s.caller).1 = _
    rw [History.fst_prune hnew, History.rowsOf_withRow hfalling, if_pos rfl]
    rfl

theorem exists_tells (s : Session τ σ) (expression : String) (description : Option String) :
    ∃ before last, s.Tells expression description (s.roll expression description).reply before last ∧
      (s.roll expression description).records = before ++ last.toList := by
  have hstep := s.roll_step expression description
  generalize s.roll expression description = step at hstep ⊢
  cases hstep with
  | denied hlimiter hcheck => exact ⟨_, _, .limited (consultLimiter_of_denied hlimiter hcheck), rfl⟩
  | malformed hadmits hroll => exact ⟨_, _, .rejected hadmits hroll, rfl⟩
  | unrecorded hadmits hroll hforgets =>
    refine ⟨_, _, .unrecorded hadmits hroll hforgets, ?_⟩
    rw [drawn_eq hroll]
    rfl
  | rolled hadmits hroll hremembers =>
    refine ⟨_, _, .answered hadmits hroll hremembers, ?_⟩
    rw [drawn_eq hroll]
    rfl

/-- The records of a roll beside what happened. -/
structure TellsAll (s : Session τ σ) (expression : String) (description : Option String) (step : Step τ σ) : Prop where
  tells : ∃ before last, s.Tells expression description step.reply before last ∧ step.records = before ++ last.toList ∧
    step.records.filter isEnding = last.toList
  limited_iff : (∃ r ∈ step.records, r.event = "server.roll.rate_limited") ↔ (s.consultLimiter s.caller).1 ≠ .allowed
  rejected_iff : (∃ r ∈ step.records, r.event = "server.roll.rejected") ↔
    (s.consultLimiter s.caller).1 = .allowed ∧ ∃ fault, ((Formula.roll expression).run.run s.source).1 = .error fault
  answered_iff : (∃ r ∈ step.records, r.event = "server.roll.ok") ↔ ∃ text, step.reply = .text text

theorem tellsAll_roll (s : Session τ σ) (expression : String) (description : Option String) :
    s.TellsAll expression description (s.roll expression description) := by
  obtain ⟨before, last, htells, hrecords⟩ := s.exists_tells expression description
  generalize s.roll expression description = step at htells hrecords ⊢
  obtain ⟨reply, records, session⟩ := step
  obtain rfl : records = before ++ last.toList := hrecords
  have hsame := htells
  cases htells with
  | limited hdecision =>
    refine ⟨⟨_, _, hsame, rfl, by simp [isEnding, endingEvents]⟩, ?_, ?_, ?_⟩ <;> simp [hdecision]
  | rejected hadmits hroll =>
    have hdecision := consultLimiter_of_admits hadmits
    refine ⟨⟨_, _, hsame, rfl, by simp [isEnding, endingEvents]⟩, ?_, ?_, ?_⟩ <;> simp [hdecision, hroll]
  | @answered _ _ _ _ pruned hadmits hroll hremembers =>
    have hdecision := consultLimiter_of_admits hadmits
    refine ⟨⟨_, _, hsame, rfl, ?_⟩, ?_, ?_, ?_⟩ <;> by_cases hpruned : pruned = 0 <;>
      simp [hpruned, hdecision, hroll, isEnding, endingEvents]
  | unrecorded hadmits hroll hforgets =>
    have hdecision := consultLimiter_of_admits hadmits
    refine ⟨⟨_, _, hsame, rfl, by simp [isEnding, endingEvents]⟩, ?_, ?_, ?_⟩ <;> simp [hdecision, hroll]

/-- A roll that is answered tells of pruning exactly if the caller had as many rows as are kept. -/
theorem exists_pruned_iff {s : Session τ σ} {h : History} (hhistory : s.history = some h)
    (hfalling : History.Falling h.rows) {expression : String} {description : Option String}
    (hreply : ∃ text, (s.roll expression description).reply = .text text) :
    (∃ r ∈ (s.roll expression description).records, r.event = "history.pruned") ↔
      h.maxEntries.toNat ≤ (h.rowsOf s.caller).length := by
  obtain ⟨text, hreply⟩ := hreply
  have hstep := s.roll_step expression description
  generalize s.roll expression description = step at hstep hreply ⊢
  cases hstep with
  | denied | malformed | unrecorded => cases hreply
  | @rolled _ _ _ _ pruned hadmits hroll hremembers =>
    have hpruned := hremembers.pruned_eq hhistory hfalling
    have hcount : pruned ≠ 0 ↔ h.maxEntries.toNat ≤ (h.rowsOf s.caller).length := by omega
    rw [← hcount]
    by_cases hnone : pruned = 0 <;> simp [hnone, parsedRecord, prunedRecords, rolledRecord]

/-! ### Records that can be reported -/

section

variable (client : String)

theorem deniedRecord_isPlain (window : Window) (limit : Int) : (deniedRecord client window limit).IsPlain :=
  .of_names ["client_id", "window", "limit"] rfl (by decide) (by decide)

theorem rejectedRecord_isPlain (fault : Fault) : (rejectedRecord client fault).IsPlain :=
  .of_names ["client_id", "code", "position"] rfl (by decide) (by decide)

theorem parsedRecord_isPlain (o : Outcome) : (parsedRecord o).IsPlain :=
  .of_names ["expression", "total", "roll_count"] rfl (by decide) (by decide)

theorem rolledRecord_isPlain (o : Outcome) : (rolledRecord client o).IsPlain :=
  .of_names ["client_id", "expression", "total"] rfl (by decide) (by decide)

theorem prunedRecords_isPlain {rows : Nat} {r : Record} (hr : r ∈ prunedRecords client rows) : r.IsPlain := by
  unfold prunedRecords at hr
  split at hr
  · cases hr
  · obtain rfl := List.mem_singleton.mp hr
    exact .of_names ["client_id", "rows"] rfl (by decide) (by decide)

end

theorem readyRecords_isPlain {settings : Settings} {r : Record} (hr : r ∈ readyRecords settings) : r.IsPlain := by
  unfold readyRecords at hr
  split at hr
  · obtain rfl := List.mem_singleton.mp hr
    exact .of_names ["dialect", "max_entries"] rfl (by decide) (by decide)
  · cases hr

theorem roll_isPlain {s : Session τ σ} {expression : String} {description : Option String} {r : Record}
    (hr : r ∈ (s.roll expression description).records) : r.IsPlain := by
  have hstep := s.roll_step expression description
  generalize s.roll expression description = step at hstep hr
  cases hstep with
  | denied =>
    obtain rfl := List.mem_singleton.mp hr
    exact deniedRecord_isPlain ..
  | malformed =>
    obtain rfl := List.mem_singleton.mp hr
    exact rejectedRecord_isPlain ..
  | unrecorded =>
    obtain rfl := List.mem_singleton.mp hr
    exact parsedRecord_isPlain _
  | rolled =>
    rcases List.mem_append.mp hr with hbefore | hlast
    · rcases List.mem_cons.mp hbefore with rfl | hpruned
      · exact parsedRecord_isPlain _
      · exact prunedRecords_isPlain _ hpruned
    · obtain rfl := List.mem_singleton.mp hlast
      exact rolledRecord_isPlain ..

theorem run_isPlain {s : Session τ σ} {c : Command τ} {r : Record} (hr : r ∈ (s.run c).records) : r.IsPlain := by
  cases c with
  | roll expression description => exact roll_isPlain hr
  | configure values =>
    cases hvalues : Settings.ofValues values with
    | error faults =>
      rw [s.run_configure_of_error hvalues] at hr
      cases hr
    | ok settings =>
      rw [s.run_configure_of_ok hvalues] at hr
      exact readyRecords_isPlain hr
  | _ => cases hr

/-! ### Sessions at a level -/

/-- The same session with settings that ask for a level. -/
def atLevel (s : Session τ σ) (level : Level) : Session τ σ :=
  { s with settings := { s.settings with logLevel := level.settingName } }

section

variable (s : Session τ σ) (level : Level)

omit [RandomSource σ] in
theorem consultLimiter_atLevel (client : String) :
    (s.atLevel level).consultLimiter client =
      ((s.consultLimiter client).1, (s.consultLimiter client).2.atLevel level) := by
  unfold consultLimiter
  rw [show (s.atLevel level).limiter = s.limiter from rfl]
  cases s.limiter <;> rfl

omit [RandomSource σ] [Add τ] [Sub τ] [LE τ] [LT τ] [DecidableLE τ] [DecidableLT τ] [ClockTime τ] in
theorem remember_atLevel (client : String) (o : Outcome) (description : Option String) :
    (s.atLevel level).remember client o description =
      (s.remember client o description).map fun kept => (kept.1, kept.2.atLevel level) := by
  cases hhistory : s.history with
  | none =>
    rw [remember_of_none client o description hhistory, remember_of_none client o description (by exact hhistory)]
    rfl
  | some h =>
    cases hdate : s.date with
    | error fault =>
      rw [remember_of_noDate client o description hhistory hdate,
        remember_of_noDate client o description (by exact hhistory) (by exact hdate)]
      rfl
    | ok now =>
      rw [remember_of_date client o description hhistory hdate,
        remember_of_date client o description (by exact hhistory) (by exact hdate)]
      cases h.record client o description now <;> rfl

omit [Sub τ] [LE τ] [LT τ] [DecidableLE τ] [DecidableLT τ] [ClockTime τ] [Add τ] in
theorem rollAdmitted_atLevel (client expression : String) (description : Option String) :
    (s.atLevel level).rollAdmitted client expression description =
      let step := s.rollAdmitted client expression description
      ⟨step.reply, step.records, step.session.atLevel level⟩ := by
  unfold rollAdmitted
  rw [show (s.atLevel level).source = s.source from rfl]
  cases hroll : (Formula.roll expression).run.run s.source with
  | mk result source =>
    cases result with
    | error fault => rfl
    | ok o =>
      have hremember := remember_atLevel { s with source } level client o description
      unfold atLevel at hremember ⊢
      simp only [hremember]
      cases { s with source }.remember client o description <;> rfl

theorem roll_atLevel (expression : String) (description : Option String) :
    (s.atLevel level).roll expression description =
      let step := s.roll expression description
      ⟨step.reply, step.records, step.session.atLevel level⟩ := by
  have hconsult := s.consultLimiter_atLevel level s.caller
  unfold roll
  rw [show (s.atLevel level).caller = s.caller from rfl]
  simp only [hconsult]
  generalize s.consultLimiter s.caller = consulted
  rcases consulted with ⟨_ | _, after⟩
  · exact after.rollAdmitted_atLevel level ..
  · rfl

/-- What a session replies and records does not depend on the level that its settings ask for; it asks for that level until
other settings are put in force. -/
theorem run_atLevel (c : Command τ) :
    ∃ session, (s.atLevel level).run c = ⟨(s.run c).reply, (s.run c).records, session⟩ ∧
      (session = (s.run c).session ∨ session = (s.run c).session.atLevel level) := by
  cases c with
  | roll expression description => exact ⟨_, s.roll_atLevel level expression description, .inr rfl⟩
  | configure values =>
    cases hvalues : Settings.ofValues values with
    | error faults =>
      rw [s.run_configure_of_error hvalues, (s.atLevel level).run_configure_of_error hvalues]
      exact ⟨_, rfl, .inr rfl⟩
    | ok settings =>
      rw [s.run_configure_of_ok hvalues, (s.atLevel level).run_configure_of_ok hvalues]
      exact ⟨_, rfl, .inl rfl⟩
  | _ => exact ⟨_, rfl, .inr rfl⟩

theorem answers_atLevel (commands : List (Command τ)) : (s.atLevel level).answers commands = s.answers commands := by
  induction commands generalizing s with
  | nil => rfl
  | cons c rest ih =>
    obtain ⟨session, hrun, hsession⟩ := s.run_atLevel level c
    unfold answers
    rw [hrun]
    rcases hsession with rfl | rfl
    · rfl
    · rw [ih]

end

/-! ### Reports of a session -/

/-- The level of a record and the lines that it left. -/
abbrev Written := Level × List LogLine

def reports (log : Log) (records : List Record) : Except EventFault (List Written) :=
  records.mapM fun r => (log.report none r.reported).map fun lines => (r.level, lines)

/-- The replies to a row of commands whose records are reported to a log as they arise; a report that fails ends it. -/
def transcript (log : Log) (s : Session τ σ) : List (Command τ) → Except EventFault (List (Reply × List Written))
  | [] => .ok []
  | c :: rest => do
    let written ← reports log (s.run c).records
    return ((s.run c).reply, written) :: (← transcript log (s.run c).session rest)

/-- A session served at a level: its settings ask for it, and the records go to the log that these settings ask for. -/
def serve (s : Session τ σ) (level : Level) (commands : List (Command τ)) :
    Except LevelFault (Except EventFault (List (Reply × List Written))) :=
  (Log.ofSettings (some (s.atLevel level).settings)).map fun log => transcript log (s.atLevel level) commands

/-- What was written without the lines of records below a level. -/
def silence (level : Level) (written : List Written) : List Written :=
  written.map fun w => (w.1, if level.severity ≤ w.1.severity then w.2 else [])

/-- The lines of records in full. -/
def inFull (json : Bool) (records : List Record) : List Written :=
  records.map fun r => (r.level, { threshold := 0, json : Log }.recordLines r)

theorem reports_eq {records : List Record} (hplain : ∀ r ∈ records, r.IsPlain) (settings : Settings) (level : Level) :
    reports (.ofLevel settings level) records = .ok (silence level (inFull settings.logJson records)) := by
  unfold reports
  induction records with
  | nil => rfl
  | cons r rest ih =>
    rw [List.mapM_cons, Log.report_plain rfl (hplain r (by simp)), ih fun r hr => hplain r (by simp [hr])]
    rfl

theorem transcript_eq (settings : Settings) (level : Level) (s : Session τ σ) (commands : List (Command τ)) :
    transcript (.ofLevel settings level) s commands =
      .ok ((s.answers commands).map fun a => (a.1, silence level (inFull settings.logJson a.2))) := by
  induction commands generalizing s with
  | nil => rfl
  | cons c rest ih =>
    unfold transcript
    rw [reports_eq (fun r => run_isPlain) settings level, ih]
    rfl

theorem serve_eq (s : Session τ σ) (level : Level) (commands : List (Command τ)) :
    s.serve level commands =
      .ok (.ok ((s.answers commands).map fun a => (a.1, silence level (inFull s.settings.logJson a.2)))) := by
  unfold serve
  show (Log.ofSettings (some { s.settings with logLevel := level.settingName })).map _ = _
  rw [Log.ofSettings_settingName]
  show Except.ok (transcript (.ofLevel s.settings level) (s.atLevel level) commands) = _
  rw [transcript_eq, answers_atLevel]

theorem silence_silence {low high : Level} (hle : low.severity ≤ high.severity) (written : List Written) :
    silence high (silence low written) = silence high written := by
  unfold silence
  rw [List.map_map]
  apply List.map_congr_left
  rintro ⟨level, lines⟩ -
  by_cases hhigh : high.severity ≤ level.severity
  · simp [hhigh, Nat.le_trans hle hhigh]
  · simp [hhigh]

/-- Each roll tells how it ended by its record alone, and serving a session at a higher level only takes away the lines of the
records below it.  As objects, lines show all fields of their records. -/
theorem log_tells_and_never_interferes (s : Session τ σ) :
    (∀ expression description, s.TellsAll expression description (s.run (.roll expression description))) ∧
      (∀ commands, s.serve .debug commands =
        .ok (.ok ((s.answers commands).map fun a => (a.1, inFull s.settings.logJson a.2)))) ∧
      (∀ c, ∀ r ∈ (s.run c).records, inFull true [r] =
        [(r.level, [.object (r.fields ++ [("event", .text r.event), ("level", .text r.level.name)])])]) ∧
      ∀ commands low high, low.severity ≤ high.severity → ∃ told,
        s.serve low commands = .ok (.ok told) ∧
          s.serve high commands = .ok (.ok (told.map fun a => (a.1, silence high a.2))) := by
  refine ⟨s.tellsAll_roll, fun commands => ?_, fun c r hr => ?_, fun commands low high hle => ?_⟩
  · rw [serve_eq]
    have hall : ∀ written : List Written, silence .debug written = written := by
      intro written
      apply List.map_id''
      rintro ⟨level, lines⟩
      cases level <;> rfl
    simp only [hall]
  · show [(r.level, _)] = _
    rw [Log.recordLines_plain rfl rfl (run_isPlain hr)]
  · refine ⟨_, s.serve_eq low commands, ?_⟩
    rw [serve_eq, List.map_map]
    simp only [Function.comp_def, silence_silence hle]

private def firstDay : Moment := { year := 2024, month := 1, day := 1 }

/-- Three rolls may be let through in a minute and one entry is kept; the first roll was answered. -/
private def crowded : Session Int Script :=
  (start (Script.ofFaces [5, 2]) 0 firstDay).after
    [.configure [("rate_limit_enabled", .boolean true), ("rate_limit_per_minute", .integer 3),
      ("history_enabled", .boolean true), ("history_max_entries", .integer 1), ("log_json", .boolean true)],
      .roll "d6" none]

/-- The next roll prunes, then one is no formula, and one is denied. -/
private def onward : List (Command Int) := [.roll "2d6" none, .roll "2d" none, .roll "d6" none]

private def afterPruning : Session Int Script := crowded.after [.roll "2d6" none]

private def afterFault : Session Int Script := crowded.after [.roll "2d6" none, .roll "2d" none]

/-- Served for warnings, only the denial leaves a line. -/
theorem log_tells_and_never_interferes_crowded :
    crowded.TellsAll "2d6" none (crowded.run (.roll "2d6" none)) ∧
      (∃ r ∈ (crowded.run (.roll "2d6" none)).records, r.event = "history.pruned") ∧
      afterPruning.TellsAll "2d" none (afterPruning.run (.roll "2d" none)) ∧
      (∃ r ∈ (afterPruning.run (.roll "2d" none)).records, r.event = "server.roll.rejected") ∧
      afterFault.TellsAll "d6" none (afterFault.run (.roll "d6" none)) ∧
      (∃ r ∈ (afterFault.run (.roll "d6" none)).records, r.event = "server.roll.rate_limited") ∧
      ∃ told, crowded.serve .debug onward = .ok (.ok told) ∧
        crowded.serve .warning onward = .ok (.ok (told.map fun a => (a.1, silence .warning a.2))) ∧
        told.tail.map (fun a => (silence .warning a.2).map fun w => w.2.length) = [[0], [1]] := by
  obtain ⟨htells, hdebug, -, hlevels⟩ := log_tells_and_never_interferes crowded
  obtain ⟨told, hlow, hhigh⟩ := hlevels onward .debug .warning (by decide)
  have hmalformed := (log_tells_and_never_interferes afterPruning).1 "2d" none
  have hdenied := (log_tells_and_never_interferes afterFault).1 "d6" none
  have hreply : ∃ text, (crowded.roll "2d6" none).reply = .text text := Reply.exists_text_of_isSome (by decide +kernel)
  have hfull : crowded.history.map (fun h =>
      decide (History.Falling h.rows ∧ h.maxEntries.toNat ≤ (h.rowsOf crowded.caller).length)) = some true := by
    decide +kernel
  obtain ⟨h, hhistory, hfacts⟩ := Option.map_eq_some_iff.mp hfull
  obtain ⟨hfalling, hfull⟩ := of_decide_eq_true hfacts
  refine ⟨htells .., (exists_pruned_iff hhistory hfalling hreply).mpr hfull, hmalformed,
    hmalformed.rejected_iff.mpr ⟨by decide +kernel, ?_⟩, hdenied, hdenied.limited_iff.mpr (by decide +kernel), told, hlow,
    hhigh, ?_⟩
  · have hfault : ((Formula.roll "2d").run.run afterPruning.source).1.toOption = none := by decide +kernel
    cases hroll : ((Formula.roll "2d").run.run afterPruning.source).1 with
    | error fault => exact ⟨fault, rfl⟩
    | ok o => rw [hroll] at hfault; cases hfault
  · obtain rfl := Except.ok.inj (Except.ok.inj ((hdebug onward).symm.trans hlow))
    decide +kernel

/-- With room for too many entries a roll is read and then tells nothing more. -/
theorem roll_untold_beyond_word :
    let s := (start (Script.ofFaces []) (0 : Int) firstDay).after
      [.configure [("history_enabled", .boolean true), ("history_max_entries", .integer 9223372036854775808)]]
    (s.run (.roll "3" none)).records.map Record.event = ["dice.parse.ok"] ∧
      (s.run (.roll "3" none)).records.filter isEnding = [] := by
  intro s
  have hevents : (s.run (.roll "3" none)).records.map Record.event = ["dice.parse.ok"] := by decide +kernel
  refine ⟨hevents, List.filter_eq_nil_iff.mpr fun r hr => ?_⟩
  have hevent : r.event ∈ ["dice.parse.ok"] := hevents ▸ List.mem_map_of_mem hr
  unfold isEnding
  rw [List.mem_singleton.mp hevent]
  decide

end Session

end Tabletop
