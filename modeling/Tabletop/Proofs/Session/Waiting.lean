import Tabletop.Proofs.Limiter.Waiting
import Tabletop.Proofs.Session.Admissions
import Tabletop.Proofs.Session.Successes

/-!
# Waiting as long as the reply says

A denied roll is told a whole number of seconds: the wait of the limiter, rounded up (`exists_denial`).  Who waits so long
and has nothing let through in the meantime is not denied by the named window again, nor by one listed before it
(`wait_clears_window`).
-/

namespace Tabletop

namespace Admission

variable {τ : Type}

theorem readings_append_of_others {client : String} {more : List (Admission τ)} (h : ∀ a ∈ more, a.client ≠ client)
    (log : List (Admission τ)) : readings (log ++ more) client = readings log client := by
  have hnone : more.filter (fun a => a.client == client) = [] := by
    rw [List.filter_eq_nil_iff]
    intro a ha
    simpa using h a ha
  unfold readings
  rw [List.filter_append, hnone, List.append_nil]

end Admission

namespace Session

variable {τ σ : Type}

/-! ### The words of a denial -/

section

variable [AddCommGroup τ] [LinearOrder τ] [ClockTime τ] [ExactClock τ]

/-- The seconds that a denial gives: the least whole number of them that is not shorter than the wait. -/
theorem exists_denial {w : Window} {retryAfter : τ} (hpos : 0 < retryAfter)
    (hle : retryAfter ≤ ClockTime.seconds w.seconds) (limit : Int) :
    ∃ n : Nat, denial w limit retryAfter = .rateLimited w limit n ∧ 1 ≤ n ∧ n ≤ w.seconds ∧
      ∀ m : Nat, n ≤ m ↔ retryAfter ≤ ClockTime.seconds m := by
  obtain ⟨n, hceiling, hn⟩ := ExactClock.ceiling_le_iff retryAfter
  have hnonzero : ¬n ≤ ((0 : Nat) : Int) := by
    rw [hn, ExactClock.seconds_zero]
    exact not_le.mpr hpos
  have hspan : n ≤ (w.seconds : Int) := (hn _).mpr hle
  obtain ⟨k, rfl⟩ := Int.eq_ofNat_of_zero_le (a := n) (by omega)
  refine ⟨k, ?_, by omega, by omega, fun m => ?_⟩
  · unfold denial
    rw [hceiling]
  · rw [← hn m]
    omega

end

/-! ### Commands that keep the settings -/

section

variable [Add τ] [Sub τ] [LE τ] [LT τ] [DecidableLE τ] [DecidableLT τ] [ClockTime τ] [RandomSource σ]

theorem settings_run {s : Session τ σ} {c : Command τ} (h : c.newSettings? = none) :
    (s.run c).session.settings = s.settings := by
  cases c with
  | roll expression description =>
    have hstep := s.roll_step expression description
    show (s.roll expression description).session.settings = s.settings
    generalize s.roll expression description = step at hstep ⊢
    cases hstep <;> rfl
  | configure values =>
    cases hvalues : Settings.ofValues values with
    | error faults => rw [s.run_configure_of_error hvalues]
    | ok settings =>
      rw [Command.newSettings?_of_ok hvalues] at h
      cases h
  | _ => rfl

theorem settings_after {s : Session τ σ} {commands : List (Command τ)} (h : ∀ c ∈ commands, c.newSettings? = none) :
    (s.after commands).settings = s.settings := by
  induction commands generalizing s with
  | nil => rfl
  | cons c rest ih =>
    obtain ⟨hc, hrest⟩ := List.forall_mem_cons.mp h
    exact (ih hrest).trans (settings_run hc)

/-- Where no settings are put in force a log only grows. -/
theorem logFrom_eq_append {α : Type} (observe : Session τ σ → Command τ → Option α) {commands : List (Command τ)}
    (h : ∀ c ∈ commands, c.newSettings? = none) (s : Session τ σ) (log : List α) :
    s.logFrom observe log commands = log ++ s.log observe commands := by
  unfold Session.log
  induction commands generalizing s log with
  | nil => exact (List.append_nil log).symm
  | cons c rest ih =>
    obtain ⟨hc, hrest⟩ := List.forall_mem_cons.mp h
    have hextend : ∀ log : List α, s.extend observe log c = log ++ (observe s c).toList := by
      intro log
      unfold extend
      rw [hc]
      rfl
    unfold logFrom
    rw [ih hrest, hextend, hextend, List.nil_append, ih hrest _ (observe s c).toList, List.append_assoc]

omit [RandomSource σ] in
theorem exists_check_of_denied {s : Session τ σ} {client : String} {w : Window} {limit : Int} {retryAfter : τ}
    (h : (s.consultLimiter client).1 = .denied w limit retryAfter) :
    ∃ l, s.limiter = some l ∧ (l.check client s.clock).1 = .denied w limit retryAfter := by
  unfold consultLimiter at h
  cases hlimiter : s.limiter with
  | none =>
    rw [hlimiter] at h
    cases h
  | some l =>
    rw [hlimiter] at h
    exact ⟨l, rfl, h⟩

/-- Only the limiter tells a caller to wait. -/
theorem exists_check_of_rateLimited {s : Session τ σ} {expression : String} {description : Option String} {w : Window}
    {limit seconds : Int} (h : (s.roll expression description).reply = .refused (.rateLimited w limit seconds)) :
    ∃ l l' retryAfter, s.limiter = some l ∧ l.check s.caller s.clock = (.denied w limit retryAfter, l') ∧
      denial w limit retryAfter = .rateLimited w limit seconds ∧
      (s.roll expression description).session = { s with limiter := some l' } := by
  have hstep := s.roll_step expression description
  generalize s.roll expression description = step at hstep h ⊢
  cases hstep with
  | @denied l l' window limit' retryAfter hlimiter hcheck =>
    have hdenial : denial window limit' retryAfter = .rateLimited w limit seconds := by simpa using h
    have hsame : window = w ∧ limit' = limit := by
      unfold denial at hdenial
      split at hdenial
      · cases hdenial
        exact ⟨rfl, rfl⟩
      · cases hdenial
    obtain ⟨rfl, rfl⟩ := hsame
    exact ⟨l, l', retryAfter, hlimiter, hcheck, hdenial, rfl⟩
  | malformed hadmits hroll => cases h
  | unrecorded hadmits hroll hforgets => cases hforgets <;> cases h
  | rolled hadmits hroll hremembers => cases h

end

theorem clock_le_after [LinearOrder τ] [Add τ] [Sub τ] [ClockTime τ] [RandomSource σ] {s : Session τ σ}
    {commands : List (Command τ)} (h : Command.NeverBack s.clock commands) : s.clock ≤ (s.after commands).clock := by
  induction commands generalizing s with
  | nil => exact le_refl s.clock
  | cons c rest ih =>
    obtain ⟨hc, hrest⟩ := h
    rw [← run_clock] at hc hrest
    exact le_trans hc (ih hrest)

/-! ### Waiting -/

variable [AddCommGroup τ] [LinearOrder τ] [ClockTime τ] [ExactClock τ] [RandomSource σ]

/-- A session that has told a client to wait, and the same session when the client has waited. -/
theorem Meters.not_denied_after_wait {s : Session τ σ} {log : List (Admission τ)} (hm : Meters s log)
    {expression : String} {description : Option String} {w : Window} {limit seconds : Int}
    (hreply : (s.roll expression description).reply = .refused (.rateLimited w limit seconds)) :
    ∃ n : Nat, seconds = n ∧ 1 ≤ n ∧ n ≤ w.seconds ∧
      ∀ between : List (Command τ), Command.NeverBack s.clock between → (∀ c ∈ between, c.newSettings? = none) →
        (∀ a ∈ (s.roll expression description).session.log admission? between, a.client ≠ s.caller) →
        ∀ s', (s.roll expression description).session.after between = s' → s'.caller = s.caller →
          s.clock + ClockTime.seconds n ≤ s'.clock →
          ∀ v limit' retryAfter', (s'.consultLimiter s'.caller).1 = .denied v limit' retryAfter' →
            s.settings.limits.enabled.idxOf w < s.settings.limits.enabled.idxOf v := by
  obtain ⟨l, l₁, retryAfter, hlimiter, hcheck, hdenial, hsession⟩ := exists_check_of_rateLimited hreply
  have hstands := hm.stands l hlimiter
  have hdenied : (l.check s.caller s.clock).1 = .denied w limit retryAfter := by rw [hcheck]
  obtain ⟨hpos, hle⟩ := hstands.wait_bounds hdenied
  obtain ⟨n, hn, hone, hspan, hleast⟩ := exists_denial hpos hle limit
  have hseconds : seconds = n := by
    rw [hn] at hdenial
    cases hdenial
    rfl
  refine ⟨n, hseconds, hone, hspan, ?_⟩
  rintro between hclock hsettings hothers s' rfl hcaller hwaited v limit' retryAfter' hdenied'
  obtain ⟨l', hlimiter', hcheck'⟩ := exists_check_of_denied hdenied'
  rw [hsession] at hothers hcaller hwaited hlimiter' hcheck'
  have hm₁ := hm.denied Limiter.sub_le_sub_of_le hlimiter hcheck
  have hm' := hm₁.after Limiter.sub_le_sub_of_le hclock
  rw [logFrom_eq_append admission? hsettings] at hm'
  have hlater := clock_le_after (s := { s with limiter := some l₁ }) hclock
  have hlimits : l.limits = s.settings.limits := hm.limits l hlimiter
  have hlimits' : l'.limits = l.limits := by
    rw [hlimits, hm'.limits l' hlimiter', settings_after hsettings]
  have huntil := hstands.deniedUntil hdenied hlater (hm'.stands l' hlimiter') hlimits'
    (Admission.readings_append_of_others hothers log)
  have hfree : s.clock + retryAfter ≤ s.clock + ClockTime.seconds n := by
    have hwait := (hleast n).mp (Nat.le_refl n)
    exact add_le_add_right hwait _
  rw [hcaller] at hcheck'
  rw [← hlimits]
  exact huntil.cleared (le_trans hfree hwaited) v limit' retryAfter' hcheck'

/-- The wait of a denial is exact.  Of a limiter: it is positive and no longer than the window, it is told as a whole number
of seconds from 1 to those of the window, the least that is not shorter, and unless something is let through the window
denies all the time until the wait is over, and from then on neither it nor a window before it denies.  So in a session who
waits the seconds that the reply gives finds the window clear. -/
theorem wait_clears_window :
    (∀ (limits : Limits) (begin now : τ) (calls : List (Limiter.Call τ)) (identity : String) (w : Window) (limit : Int)
      (retryAfter : τ), (Limiter.readings calls ++ [now]).Pairwise (· ≤ ·) →
      (((Limiter.start limits begin).run calls).2.check identity now).1 = .denied w limit retryAfter →
      0 < retryAfter ∧ retryAfter ≤ ClockTime.seconds w.seconds ∧
        (∃ n : Nat, denial w limit retryAfter = .rateLimited w limit n ∧ 1 ≤ n ∧ n ≤ w.seconds ∧
          ∀ m : Nat, n ≤ m ↔ retryAfter ≤ ClockTime.seconds m) ∧
        ∀ (between : List (Limiter.Call τ)) (later : τ), (now :: (Limiter.readings between ++ [later])).Pairwise (· ≤ ·) →
          Limiter.Quiet identity
            ((((Limiter.start limits begin).run calls).2.check identity now).2.run between).1 →
          Limiter.DeniedUntil limits w (now + retryAfter) later
            (((((Limiter.start limits begin).run calls).2.check identity now).2.run between).2.check
              identity later).1) ∧
    ∀ (source : σ) (clock : τ) (date : Moment) (disk : Disk) (commands : List (Command τ)),
      Command.NeverBack clock commands → ∀ s, (start source clock date disk).after commands = s →
      ∀ expression description w limit seconds,
        (s.roll expression description).reply = .refused (.rateLimited w limit seconds) →
        ∃ n : Nat, seconds = n ∧ 1 ≤ n ∧ n ≤ w.seconds ∧
          ∀ between : List (Command τ), Command.NeverBack s.clock between → (∀ c ∈ between, c.newSettings? = none) →
            (∀ a ∈ (s.roll expression description).session.log admission? between, a.client ≠ s.caller) →
            ∀ s', (s.roll expression description).session.after between = s' → s'.caller = s.caller →
              s.clock + ClockTime.seconds n ≤ s'.clock →
              ∀ v limit' retryAfter', (s'.consultLimiter s'.caller).1 = .denied v limit' retryAfter' →
                s.settings.limits.enabled.idxOf w < s.settings.limits.enabled.idxOf v := by
  constructor
  · intro limits begin now calls identity w limit retryAfter hclock hdenied
    obtain ⟨hpos, hle, hlater⟩ := Limiter.check_wait hclock hdenied
    exact ⟨hpos, hle, exists_denial hpos hle limit, hlater⟩
  · rintro source clock date disk commands hclock s rfl expression description w limit seconds hreply
    have hmeters := (Meters.started source clock date disk).after Limiter.sub_le_sub_of_le hclock
    exact hmeters.not_denied_after_wait hreply

/-- The calls of "a" fill the minute. -/
private def hasty : List (Limiter.Call Rat) := [.check "a" (1 / 3), .check "b" (1 / 3), .check "a" (1 / 2)]

private def hastyLimiter : Limiter Rat := ((Limiter.start ⟨2, 0, 0⟩ 0).run hasty).2

private def hastyCommands : List (Command Rat) :=
  [.configure [("rate_limit_enabled", .boolean true), ("rate_limit_per_minute", .integer 2)],
    .setClock (1 / 3), .roll "1" none, .setClock (1 / 2), .roll "d" none, .setClock 10]

private def hastySession : Session Rat Script :=
  (start (Script.ofFaces []) 0 { year := 2024, month := 1, day := 1 }).after hastyCommands

private def patience : List (Command Rat) := [.roll "1" none, .setClock 61]

private def patientSession : Session Rat Script := (hastySession.roll "1" none).session.after patience

theorem wait_clears_window_fractions :
    (Limiter.readings hasty ++ [10]).Pairwise (· ≤ ·) ∧
      (hastyLimiter.check "a" 10).1 = .denied .minute 2 (50 + 1 / 3) ∧
      (∃ retryAfter, (((hastyLimiter.check "a" 10).2.run [.check "a" 20]).2.check "a" 60).1 =
        .denied .minute 2 retryAfter) ∧
      Command.NeverBack 0 hastyCommands ∧
      (hastySession.roll "1" none).reply = .refused (.rateLimited .minute 2 51) ∧ patientSession.clock = 61 ∧
      ∀ v limit retryAfter,
        (patientSession.consultLimiter patientSession.caller).1 = .denied v limit retryAfter → v ≠ .minute := by
  have hsorted : (Limiter.readings hasty ++ [10]).Pairwise (· ≤ ·) := by decide +kernel
  have hdenied : (hastyLimiter.check "a" 10).1 = .denied .minute 2 (50 + 1 / 3) := by decide +kernel
  have hback : Command.NeverBack 0 hastyCommands := by
    simp only [hastyCommands, Command.NeverBack, Command.clockAfter]
    decide +kernel
  have hreply : (hastySession.roll "1" none).reply = .refused (.rateLimited .minute 2 51) :=
    Reply.refusal?_eq_some.mp (by decide +kernel)
  obtain ⟨hlimiter, hsession⟩ := @wait_clears_window Rat Script _ _ _ _ _
  refine ⟨hsorted, hdenied, ?_, hback, hreply, by decide +kernel, ?_⟩
  · obtain ⟨-, -, -, hbetween⟩ := hlimiter _ _ _ hasty _ _ _ _ hsorted hdenied
    have hquiet : Limiter.Quiet "a" ((hastyLimiter.check "a" 10).2.run [.check "a" 20]).1 := by
      have hevents : ((hastyLimiter.check "a" 10).2.run [.check "a" 20]).1 =
          [.checked "a" 20 (.denied .minute 2 (40 + 1 / 3))] := by
        show [Limiter.Event.checked "a" 20 _] = _
        congr 2
        decide +kernel
      rw [hevents]
      simp [Limiter.Quiet]
    have huntil := hbetween [.check "a" 20] 60 (by decide +kernel) hquiet
    exact huntil.still (by decide +kernel)
  · rintro v limit retryAfter hdenied' rfl
    obtain ⟨n, hn, -, -, hwaited⟩ := hsession _ 0 _ _ hastyCommands hback hastySession rfl _ _ _ _ _ hreply
    obtain rfl : n = 51 := by omega
    have hpatient : Command.NeverBack hastySession.clock patience := by
      simp only [patience, Command.NeverBack, Command.clockAfter]
      decide +kernel
    have hothers : ∀ a ∈ (hastySession.roll "1" none).session.log admission? patience,
        a.client ≠ hastySession.caller := by decide +kernel
    have hless := hwaited patience hpatient (by decide +kernel) hothers patientSession rfl (by decide +kernel)
      (by decide +kernel) _ _ _ hdenied'
    exact Nat.lt_irrefl _ hless

end Session

end Tabletop
