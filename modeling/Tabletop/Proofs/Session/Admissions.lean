import Tabletop.Proofs.Session.Alike

/-!
# The rolls that a session lets through

`Session.admission?` notes each roll that is let through to be read.  While the clock does not go back, a session's
limiter has let through exactly what was noted since the settings were put in force (`Meters`), so of no client, and where
headers are not believed of no peer, are there more in any window than its limit allows (`Meters.within_le`,
`Meters.withinOfPeer_le`).
-/

namespace Tabletop

/-- A roll that is let through. -/
structure Admission (τ : Type) where
  client : String
  peer : Option String
  reading : τ

namespace Admission

variable {τ : Type}

def readings (log : List (Admission τ)) (client : String) : List τ :=
  (log.filter fun a => a.client == client).map reading

def readingsOfPeer (log : List (Admission τ)) (peer : Option String) : List τ :=
  (log.filter fun a => a.peer == peer).map reading

theorem readings_snoc (log : List (Admission τ)) (a : Admission τ) (client : String) :
    readings (log ++ [a]) client = if client = a.client then readings log client ++ [a.reading] else readings log client := by
  unfold readings
  rw [List.filter_append]
  by_cases hclient : client = a.client
  · simp [hclient]
  · simp [hclient, Ne.symm hclient]

/-- Rolls from one peer are rolls of one client if clients are named by their peers. -/
theorem readingsOfPeer_sublist {log : List (Admission τ)}
    (h : ∀ a ∈ log, a.client = a.peer.getD Request.localName) (peer : Option String) :
    (readingsOfPeer log peer).Sublist (readings log (peer.getD Request.localName)) := by
  unfold readingsOfPeer readings
  -- What comes from the peer is picked from what comes from the client.
  have hboth : (log.filter fun a => a.peer == peer) =
      (log.filter fun a => a.client == peer.getD Request.localName).filter fun a => a.peer == peer := by
    rw [List.filter_filter]
    refine List.filter_congr fun a ha => ?_
    by_cases hpeer : a.peer = peer
    · simp [h a ha, hpeer]
    · simp [hpeer]
  rw [hboth]
  exact List.filter_sublist.map reading

end Admission

namespace Session

variable {τ σ : Type}

section

variable [Add τ] [Sub τ] [LE τ] [LT τ] [DecidableLE τ] [DecidableLT τ] [ClockTime τ]

/-- What a command adds to the log of rolls that were let through. -/
def admission? (s : Session τ σ) : Command τ → Option (Admission τ)
  | .roll _ _ =>
    match (s.consultLimiter s.caller).1 with
    | .allowed => some { client := s.caller, peer := s.request.bind Request.peer, reading := s.clock }
    | .denied _ _ _ => none
  | _ => none

variable {s : Session τ σ}

theorem admission?_of_admits {limiter : Option (Limiter τ)} (hadmits : s.Admits limiter) (expression : String)
    (description : Option String) :
    s.admission? (.roll expression description) =
      some { client := s.caller, peer := s.request.bind Request.peer, reading := s.clock } := by
  unfold admission?
  simp only [consultLimiter_of_admits hadmits]

theorem admission?_of_denied {l l' : Limiter τ} {window : Window} {limit : Int} {retryAfter : τ}
    (hlimiter : s.limiter = some l) (hcheck : l.check s.caller s.clock = (.denied window limit retryAfter, l'))
    (expression : String) (description : Option String) : s.admission? (.roll expression description) = none := by
  unfold admission?
  simp only [consultLimiter_of_denied hlimiter hcheck]

end

private theorem caller_eq (s : Session τ σ) (htrust : s.settings.trustForwardedHeaders = false) :
    s.caller = (s.request.bind Request.peer).getD Request.localName := by
  unfold caller Request.identity
  cases s.request with
  | none => rfl
  | some r =>
    simp only [htrust]
    rfl

/-! ### The invariant -/

variable [LinearOrder τ] [Sub τ] [ClockTime τ]

/-- The limiter, if there is one, has the limits of the settings and has let through what is in the log. -/
structure Meters (s : Session τ σ) (log : List (Admission τ)) : Prop where
  isSome : s.limiter.isSome = s.settings.rateLimitEnabled
  limits : ∀ l ∈ s.limiter, l.limits = s.settings.limits
  stands : ∀ l ∈ s.limiter, Limiter.Stands s.clock (Admission.readings log) l
  peers : s.settings.trustForwardedHeaders = false → ∀ a ∈ log, a.client = a.peer.getD Request.localName

namespace Meters

variable {s : Session τ σ} {log : List (Admission τ)}

theorem started (source : σ) (clock : τ) (date : Moment) (disk : Disk) : Meters (start source clock date disk) [] :=
  ⟨rfl, by simp [start], by simp [start], by simp⟩

theorem configured (s : Session τ σ) (settings : Settings) : Meters (s.withSettings settings) [] := by
  have hlimiter : (s.withSettings settings).limiter =
      if settings.rateLimitEnabled then some (Limiter.start settings.limits s.clock) else none := rfl
  cases henabled : settings.rateLimitEnabled with
  | false =>
    rw [henabled] at hlimiter
    exact ⟨by rw [hlimiter]; exact henabled.symm, by rw [hlimiter]; simp, by rw [hlimiter]; simp, by simp⟩
  | true =>
    rw [henabled, if_pos rfl] at hlimiter
    refine ⟨by rw [hlimiter]; exact henabled.symm, ?_, ?_, by simp⟩
    · rw [hlimiter]
      rintro l ⟨⟩
      rfl
    · rw [hlimiter]
      rintro l ⟨⟩
      exact .start settings.limits s.clock

theorem mono (hsub : ∀ a b s : τ, a ≤ b → a - s ≤ b - s) (hm : Meters s log) {reading : τ} (hclock : s.clock ≤ reading) :
    Meters { s with clock := reading } log :=
  ⟨hm.isSome, hm.limits, fun l hl => (hm.stands l hl).mono hsub hclock, hm.peers⟩

variable [Add τ]

theorem admits (hsub : ∀ a b s : τ, a ≤ b → a - s ≤ b - s) (hm : Meters s log) {limiter : Option (Limiter τ)}
    (hadmits : s.Admits limiter) (source : σ) (history : Option History) :
    Meters { s with limiter, source, history }
      (log ++ [{ client := s.caller, peer := s.request.bind Request.peer, reading := s.clock }]) := by
  have hpeers : s.settings.trustForwardedHeaders = false →
      ∀ a ∈ log ++ [{ client := s.caller, peer := s.request.bind Request.peer, reading := s.clock }],
        a.client = a.peer.getD Request.localName := by
    intro htrust a ha
    rcases List.mem_append.mp ha with hlog | hnew
    · exact hm.peers htrust a hlog
    · rw [List.mem_singleton.mp hnew]
      exact caller_eq s htrust
  have hreadings : Admission.readings
      (log ++ [{ client := s.caller, peer := s.request.bind Request.peer, reading := s.clock }]) =
      fun i => Limiter.noted i (Admission.readings log i) (.checked s.caller s.clock .allowed) := by
    funext i
    exact Admission.readings_snoc log _ i
  cases hadmits with
  | unlimited hlimiter =>
    have hnone := hm.isSome
    rw [hlimiter] at hnone
    exact ⟨hnone, by simp, by simp, hpeers⟩
  | @allowed l l' hlimiter hcheck =>
    have hsome := hm.isSome
    rw [hlimiter] at hsome
    have hstands := (hm.stands l hlimiter).check hsub s.caller
    have hlimits := Limiter.check_limits l s.caller s.clock
    rw [hcheck] at hstands hlimits
    refine ⟨hsome, ?_, ?_, hpeers⟩
    · rintro _ ⟨⟩
      exact hlimits.trans (hm.limits l hlimiter)
    · rintro _ ⟨⟩
      rw [hreadings]
      exact hstands

theorem denied (hsub : ∀ a b s : τ, a ≤ b → a - s ≤ b - s) (hm : Meters s log) {l l' : Limiter τ} {window : Window}
    {limit : Int} {retryAfter : τ} (hlimiter : s.limiter = some l)
    (hcheck : l.check s.caller s.clock = (.denied window limit retryAfter, l')) :
    Meters { s with limiter := some l' } log := by
  have hsome := hm.isSome
  rw [hlimiter] at hsome
  have hstands := (hm.stands l hlimiter).check hsub s.caller
  have hlimits := Limiter.check_limits l s.caller s.clock
  rw [hcheck] at hstands hlimits
  refine ⟨hsome, ?_, ?_, hm.peers⟩
  · rintro _ ⟨⟩
    exact hlimits.trans (hm.limits l hlimiter)
  · rintro _ ⟨⟩
    exact hstands

variable [RandomSource σ]

theorem roll (hsub : ∀ a b s : τ, a ≤ b → a - s ≤ b - s) (hm : Meters s log) (expression : String)
    (description : Option String) :
    Meters (s.roll expression description).session (log ++ (s.admission? (.roll expression description)).toList) := by
  have hstep := s.roll_step expression description
  generalize s.roll expression description = step at hstep ⊢
  cases hstep with
  | denied hlimiter hcheck =>
    rw [admission?_of_denied hlimiter hcheck, Option.toList_none, List.append_nil]
    exact hm.denied hsub hlimiter hcheck
  | malformed hadmits hroll =>
    rw [admission?_of_admits hadmits]
    exact hm.admits hsub hadmits _ s.history
  | unrecorded hadmits hroll hforgets =>
    rw [admission?_of_admits hadmits]
    exact hm.admits hsub hadmits _ s.history
  | rolled hadmits hroll hremembers =>
    rw [admission?_of_admits hadmits]
    exact hm.admits hsub hadmits _ _

theorem run (hsub : ∀ a b s : τ, a ≤ b → a - s ≤ b - s) (hm : Meters s log) (c : Command τ)
    (hclock : s.clock ≤ c.clockAfter s.clock) : Meters (s.run c).session (s.extend admission? log c) := by
  cases c with
  | roll expression description => exact hm.roll hsub expression description
  | configure values =>
    cases hvalues : Settings.ofValues values with
    | error faults =>
      rw [extend_of_unobserved (Command.newSettings?_of_error hvalues) rfl, s.run_configure_of_error hvalues]
      exact hm
    | ok settings =>
      rw [extend_of_newSettings (Command.newSettings?_of_ok hvalues), s.run_configure_of_ok hvalues]
      exact .configured s settings
  | setClock reading =>
    rw [extend_of_unobserved rfl rfl]
    exact hm.mono hsub hclock
  | setDate date =>
    rw [extend_of_unobserved rfl rfl]
    exact ⟨hm.isSome, hm.limits, hm.stands, hm.peers⟩
  | setRequest request =>
    rw [extend_of_unobserved rfl rfl]
    exact ⟨hm.isSome, hm.limits, hm.stands, hm.peers⟩
  | _ =>
    rw [extend_of_unobserved rfl rfl]
    exact hm

theorem after (hsub : ∀ a b s : τ, a ≤ b → a - s ≤ b - s) (hm : Meters s log) {commands : List (Command τ)}
    (hclock : Command.NeverBack s.clock commands) : Meters (s.after commands) (s.logFrom admission? log commands) := by
  induction commands generalizing s log with
  | nil => exact hm
  | cons c rest ih =>
    obtain ⟨hc, hrest⟩ := hclock
    rw [← run_clock] at hrest
    exact ih (hm.run hsub c hc) hrest

/-! ### Quotas -/

omit [Add τ] [RandomSource σ] in
theorem within_le (hm : Meters s log) (henabled : s.settings.rateLimitEnabled = true) {w : Window}
    (hw : w ∈ s.settings.limits.enabled) (last : τ) (client : String) :
    ((Limiter.within last w (Admission.readings log client)).length : Int) ≤ s.settings.limits.of w := by
  have hsome := hm.isSome
  rw [henabled] at hsome
  obtain ⟨l, hlimiter⟩ := Option.isSome_iff_exists.mp hsome
  have hrespects := (hm.stands l hlimiter).respects client
  rw [hm.limits l hlimiter] at hrespects
  exact hrespects w hw last

omit [Add τ] [RandomSource σ] in
theorem withinOfPeer_le (hm : Meters s log) (henabled : s.settings.rateLimitEnabled = true)
    (htrust : s.settings.trustForwardedHeaders = false) {w : Window} (hw : w ∈ s.settings.limits.enabled) (last : τ)
    (peer : Option String) :
    ((Limiter.within last w (Admission.readingsOfPeer log peer)).length : Int) ≤ s.settings.limits.of w := by
  have hsublist := (Admission.readingsOfPeer_sublist (hm.peers htrust) peer).filter fun t =>
    decide (last - ClockTime.seconds w.seconds < t ∧ t ≤ last)
  have hlength := hsublist.length_le
  have hclient := hm.within_le henabled hw last (peer.getD Request.localName)
  unfold Limiter.within at hclient ⊢
  omega

end Meters

end Session

end Tabletop
