import Tabletop.Session.Basic

/-!
# Runs of a session

`Session.RollStep` lists all that a roll can do, and `roll_step` says that the list is complete: the limiter denies it, or it
is no formula, or its outcome cannot be recorded, or it is answered.  `Session.after` carries out a row of commands.
`Session.log` keeps what is observed of them since settings were last put in force.
-/

namespace Tabletop

def Settings.limits (settings : Settings) : Limits :=
  { perMinute := settings.rateLimitPerMinute
    perHour := settings.rateLimitPerHour
    perDay := settings.rateLimitPerDay }

namespace Reply

def text? : Reply → Option String
  | .text s => some s
  | _ => none

def entries? : Reply → Option (List Entry)
  | .entries listed => some listed
  | _ => none

def refusal? : Reply → Option Refusal
  | .refused cause => some cause
  | _ => none

theorem exists_text_of_isSome {reply : Reply} (h : reply.text?.isSome) : ∃ text, reply = .text text := by
  cases reply with
  | text s => exact ⟨s, rfl⟩
  | _ => cases h

theorem refusal?_eq_some {reply : Reply} {cause : Refusal} :
    reply.refusal? = some cause ↔ reply = .refused cause := by
  cases reply <;> simp [refusal?]

end Reply

namespace Command

variable {τ : Type}

/-- The settings that a command puts in force. -/
def newSettings? : Command τ → Option Settings
  | .configure values => (Settings.ofValues values).toOption
  | _ => none

theorem newSettings?_of_ok {values : List (String × RawSetting)} {settings : Settings}
    (hvalues : Settings.ofValues values = .ok settings) :
    (Command.configure values : Command τ).newSettings? = some settings := by
  show (Settings.ofValues values).toOption = _
  rw [hvalues]
  rfl

theorem newSettings?_of_error {values : List (String × RawSetting)} {faults : List FieldFault}
    (hvalues : Settings.ofValues values = .error faults) :
    (Command.configure values : Command τ).newSettings? = none := by
  show (Settings.ofValues values).toOption = _
  rw [hvalues]
  rfl

/-- What the limiter's clock shows after a command. -/
def clockAfter (now : τ) : Command τ → τ
  | .setClock reading => reading
  | _ => now

/-- The commands never put the limiter's clock back. -/
def NeverBack [LE τ] (now : τ) : List (Command τ) → Prop
  | [] => True
  | c :: rest => now ≤ c.clockAfter now ∧ NeverBack (c.clockAfter now) rest

end Command

namespace Session

variable {τ σ : Type}

/-! ### Observing -/

section
variable {α : Type} (observe : Session τ σ → Command τ → Option α)

/-- A log with what is observed of one more command; it begins anew where settings are put in force. -/
def extend (s : Session τ σ) (log : List α) (c : Command τ) : List α :=
  if c.newSettings?.isSome then [] else log ++ (observe s c).toList

variable {observe} {s : Session τ σ} {c : Command τ}

theorem extend_of_newSettings {settings : Settings} (hsettings : c.newSettings? = some settings) (log : List α) :
    s.extend observe log c = [] := by
  unfold extend
  rw [hsettings]
  rfl

theorem extend_of_unobserved (hsettings : c.newSettings? = none) (hobserve : observe s c = none) (log : List α) :
    s.extend observe log c = log := by
  unfold extend
  rw [hsettings, hobserve]
  exact List.append_nil log

end

/-! ### Recording an outcome -/

/-- The history after an outcome was recorded, and the number of rows pruned. -/
inductive Remembers (s : Session τ σ) (o : Outcome) (description : Option String) : Option History → Nat → Prop where
  | off (hhistory : s.history = none) : s.Remembers o description none 0
  | recorded {h : History} {now : Moment} {added : History.Addition} (hhistory : s.history = some h)
      (hdate : s.date = .ok now) (hrecord : h.record s.caller o description now = .ok added) :
      s.Remembers o description (some added.history) added.pruned

/-- Why an outcome cannot be recorded. -/
inductive Forgets (s : Session τ σ) (o : Outcome) (description : Option String) : Refusal → Prop where
  | noDate {h : History} {fault : DateFault} (hhistory : s.history = some h) (hdate : s.date = .error fault) :
      s.Forgets o description (.badDate fault)
  | noRow {h : History} {now : Moment} {fault : HistoryFault} (hhistory : s.history = some h)
      (hdate : s.date = .ok now) (hrecord : h.record s.caller o description now = .error fault) :
      s.Forgets o description (.badHistory fault)

section

variable {s : Session τ σ} {h : History} (client : String) (o : Outcome) (description : Option String)

theorem remember_of_none (hhistory : s.history = none) : s.remember client o description = .ok (0, s) := by
  unfold remember
  rw [hhistory]

theorem remember_of_noDate {fault : DateFault} (hhistory : s.history = some h) (hdate : s.date = .error fault) :
    s.remember client o description = .error (.badDate fault) := by
  unfold remember
  rw [hhistory, hdate]
  rfl

theorem remember_of_date {now : Moment} (hhistory : s.history = some h) (hdate : s.date = .ok now) :
    s.remember client o description =
      match h.record client o description now with
      | .ok added => .ok (added.pruned, { s with history := some added.history })
      | .error fault => .error (.badHistory fault) := by
  unfold remember
  rw [hhistory, hdate]
  cases hrecord : h.record client o description now with
  | error fault =>
    show ((h.record client o description now).mapError Refusal.badHistory >>= _) = _
    rw [hrecord]
    rfl
  | ok added =>
    show ((h.record client o description now).mapError Refusal.badHistory >>= _) = _
    rw [hrecord]
    rfl

end

/-- Recording looks at the history, the date and the caller only. -/
private theorem remember_step (s : Session τ σ) (limiter : Option (Limiter τ)) (source : σ) (o : Outcome)
    (description : Option String) :
    (∃ cause, { s with limiter, source }.remember s.caller o description = .error cause ∧
      s.Forgets o description cause) ∨
    ∃ history pruned, { s with limiter, source }.remember s.caller o description =
      .ok (pruned, { s with limiter, source, history }) ∧ s.Remembers o description history pruned := by
  cases hhistory : s.history with
  | none =>
    have hremember := remember_of_none (s := { s with limiter, source }) s.caller o description hhistory
    rw [hhistory] at hremember
    exact .inr ⟨_, _, hremember, .off hhistory⟩
  | some h =>
    cases hdate : s.date with
    | error fault =>
      have hremember := remember_of_noDate (s := { s with limiter, source }) s.caller o description hhistory hdate
      rw [hhistory, hdate] at hremember
      exact .inl ⟨_, hremember, .noDate hhistory hdate⟩
    | ok now =>
      have hremember := remember_of_date (s := { s with limiter, source }) s.caller o description hhistory hdate
      rw [hhistory, hdate] at hremember
      cases hrecord : h.record s.caller o description now with
      | error fault =>
        rw [hrecord] at hremember
        exact .inl ⟨_, hremember, .noRow hhistory hdate hrecord⟩
      | ok added =>
        rw [hrecord] at hremember
        exact .inr ⟨_, _, hremember, .recorded hhistory hdate hrecord⟩

/-! ### One roll -/

variable [Add τ] [Sub τ] [LE τ] [LT τ] [DecidableLE τ] [DecidableLT τ] [ClockTime τ]

/-- The limiter after a call that it lets through; without a limiter every call is let through. -/
inductive Admits (s : Session τ σ) : Option (Limiter τ) → Prop where
  | unlimited (hlimiter : s.limiter = none) : s.Admits none
  | allowed {l l' : Limiter τ} (hlimiter : s.limiter = some l)
      (hcheck : l.check s.caller s.clock = (.allowed, l')) : s.Admits (some l')

theorem consultLimiter_of_admits {s : Session τ σ} {limiter : Option (Limiter τ)} (hadmits : s.Admits limiter) :
    (s.consultLimiter s.caller).1 = .allowed := by
  unfold consultLimiter
  cases hadmits with
  | unlimited hlimiter => simp only [hlimiter]
  | allowed hlimiter hcheck => simp only [hlimiter, hcheck]

theorem consultLimiter_of_denied {s : Session τ σ} {l l' : Limiter τ} {window : Window} {limit : Int} {retryAfter : τ}
    (hlimiter : s.limiter = some l) (hcheck : l.check s.caller s.clock = (.denied window limit retryAfter, l')) :
    (s.consultLimiter s.caller).1 = .denied window limit retryAfter := by
  unfold consultLimiter
  simp only [hlimiter, hcheck]

variable [RandomSource σ]

section

variable {s : Session τ σ}

theorem roll_of_unlimited (hlimiter : s.limiter = none) (expression : String) (description : Option String) :
    s.roll expression description = s.rollAdmitted s.caller expression description := by
  unfold roll consultLimiter
  rw [hlimiter]

variable {l l' : Limiter τ}

theorem roll_of_allowed (hlimiter : s.limiter = some l) (hcheck : l.check s.caller s.clock = (.allowed, l'))
    (expression : String) (description : Option String) :
    s.roll expression description = { s with limiter := some l' }.rollAdmitted s.caller expression description := by
  unfold roll consultLimiter
  rw [hlimiter]
  simp only [hcheck]

theorem roll_of_denied (hlimiter : s.limiter = some l) {window : Window} {limit : Int} {retryAfter : τ}
    (hcheck : l.check s.caller s.clock = (.denied window limit retryAfter, l')) (expression : String)
    (description : Option String) :
    s.roll expression description =
      ⟨.refused (denial window limit retryAfter), [deniedRecord s.caller window limit],
        { s with limiter := some l' }⟩ := by
  unfold roll consultLimiter
  rw [hlimiter]
  simp only [hcheck]

end

/-- All that a roll can do. -/
inductive RollStep (s : Session τ σ) (expression : String) (description : Option String) : Step τ σ → Prop where
  | denied {l l' : Limiter τ} {window : Window} {limit : Int} {retryAfter : τ} (hlimiter : s.limiter = some l)
      (hcheck : l.check s.caller s.clock = (.denied window limit retryAfter, l')) :
      s.RollStep expression description
        ⟨.refused (denial window limit retryAfter), [deniedRecord s.caller window limit],
          { s with limiter := some l' }⟩
  | malformed {limiter : Option (Limiter τ)} {source : σ} {fault : Fault} (hadmits : s.Admits limiter)
      (hroll : (Formula.roll expression).run.run s.source = (.error fault, source)) :
      s.RollStep expression description
        ⟨.refused (.badFormula fault), [rejectedRecord s.caller fault], { s with limiter, source }⟩
  | unrecorded {limiter : Option (Limiter τ)} {source : σ} {o : Outcome} {cause : Refusal}
      (hadmits : s.Admits limiter) (hroll : (Formula.roll expression).run.run s.source = (.ok o, source))
      (hforgets : s.Forgets o description cause) :
      s.RollStep expression description ⟨.refused cause, [parsedRecord o], { s with limiter, source }⟩
  | rolled {limiter : Option (Limiter τ)} {source : σ} {o : Outcome} {history : Option History} {pruned : Nat}
      (hadmits : s.Admits limiter) (hroll : (Formula.roll expression).run.run s.source = (.ok o, source))
      (hremembers : s.Remembers o description history pruned) :
      s.RollStep expression description
        ⟨.text (rollText o description),
          parsedRecord o :: prunedRecords s.caller pruned ++ [rolledRecord s.caller o],
          { s with limiter, source, history }⟩

private theorem rollAdmitted_step {s : Session τ σ} {limiter : Option (Limiter τ)} (hadmits : s.Admits limiter)
    (expression : String) (description : Option String) :
    s.RollStep expression description ({ s with limiter }.rollAdmitted s.caller expression description) := by
  unfold rollAdmitted
  cases hroll : (Formula.roll expression).run.run s.source with
  | mk result source =>
    cases result with
    | error fault => exact .malformed hadmits hroll
    | ok o =>
      rcases remember_step s limiter source o description with ⟨cause, heq, hforgets⟩ | ⟨history, pruned, heq, hremembers⟩
      · simp only [heq]
        exact .unrecorded hadmits hroll hforgets
      · simp only [heq]
        exact .rolled hadmits hroll hremembers

theorem roll_step (s : Session τ σ) (expression : String) (description : Option String) :
    s.RollStep expression description (s.roll expression description) := by
  cases hlimiter : s.limiter with
  | none =>
    have hstep := rollAdmitted_step (.unlimited hlimiter) expression description
    rw [← hlimiter] at hstep
    rw [roll_of_unlimited hlimiter]
    exact hstep
  | some l =>
    cases hcheck : l.check s.caller s.clock with
    | mk decision l' =>
      cases decision with
      | denied window limit retryAfter =>
        rw [roll_of_denied hlimiter hcheck]
        exact .denied hlimiter hcheck
      | allowed =>
        rw [roll_of_allowed hlimiter hcheck]
        exact rollAdmitted_step (.allowed hlimiter hcheck) expression description

/-! ### Putting settings in force -/

omit [Add τ] [Sub τ] [LE τ] [LT τ] [DecidableLE τ] [DecidableLT τ] [ClockTime τ] [RandomSource σ] in
theorem eq_connect_of_historyOf {settings : Settings} {disk : Disk} {h : History} (hh : h ∈ historyOf settings disk) :
    h = disk.connect settings.databaseUrl settings.historyMaxEntries := by
  unfold historyOf at hh
  split at hh
  · exact (Option.some.inj hh).symm
  · cases hh

theorem run_configure_of_ok (s : Session τ σ) {values : List (String × RawSetting)} {settings : Settings}
    (hvalues : Settings.ofValues values = .ok settings) :
    s.run (.configure values) =
      ⟨.configured settings.rateLimitEnabled settings.historyEnabled, readyRecords settings, s.withSettings settings⟩ := by
  show s.configure values = _
  unfold configure
  rw [hvalues]

theorem run_configure_of_error (s : Session τ σ) {values : List (String × RawSetting)} {faults : List FieldFault}
    (hvalues : Settings.ofValues values = .error faults) :
    s.run (.configure values) = ⟨.invalidSettings faults, [], s⟩ := by
  show s.configure values = _
  unfold configure
  rw [hvalues]

theorem run_clock (s : Session τ σ) (c : Command τ) : (s.run c).session.clock = c.clockAfter s.clock := by
  cases c with
  | roll expression description =>
    have hstep := s.roll_step expression description
    show (s.roll expression description).session.clock = s.clock
    generalize s.roll expression description = step at hstep ⊢
    cases hstep <;> rfl
  | configure values =>
    cases hvalues : Settings.ofValues values with
    | error faults =>
      rw [s.run_configure_of_error hvalues]
      rfl
    | ok settings =>
      rw [s.run_configure_of_ok hvalues]
      rfl
  | _ => rfl

/-! ### Rows of commands -/

def after (s : Session τ σ) : List (Command τ) → Session τ σ
  | [] => s
  | c :: rest => (s.run c).session.after rest

/-- What is replied and logged. -/
def answers (s : Session τ σ) : List (Command τ) → List (Reply × List Record)
  | [] => []
  | c :: rest => ((s.run c).reply, (s.run c).records) :: (s.run c).session.answers rest

section
variable {α : Type} (observe : Session τ σ → Command τ → Option α)

def logFrom (s : Session τ σ) (log : List α) : List (Command τ) → List α
  | [] => log
  | c :: rest => (s.run c).session.logFrom (s.extend observe log c) rest

/-- What is observed of a row of commands, the oldest first. -/
def log (s : Session τ σ) (commands : List (Command τ)) : List α := s.logFrom observe [] commands

end

end Session

end Tabletop
