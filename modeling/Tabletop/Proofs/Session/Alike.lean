import Tabletop.Proofs.Limiter.Standing
import Tabletop.Proofs.Session.Run

/-!
# Sessions that answer alike

Of two sessions that differ in nothing but their limiters, and whose limiters have let through the same calls, every
row of commands gets the same answers and the same log records (`Alike.answers_eq`).
-/

namespace Tabletop

namespace Session

/-! ### A roll that was let through looks at the limiter and its clock no more -/

section

variable {τ σ : Type}

private theorem remember_with (s : Session τ σ) (limiter : Option (Limiter τ)) (clock : τ) (client : String)
    (o : Outcome) (description : Option String) :
    { s with limiter, clock }.remember client o description =
      (s.remember client o description).map fun kept => (kept.1, { kept.2 with limiter, clock }) := by
  obtain ⟨settings, limiter₀, history, disk, source, clock₀, date, request⟩ := s
  cases history with
  | none => rfl
  | some h =>
    cases date with
    | error fault => rfl
    | ok now =>
      rw [remember_of_date (s := ⟨settings, limiter₀, some h, disk, source, clock₀, .ok now, request⟩) client o
          description rfl rfl,
        remember_of_date (s := ⟨settings, limiter, some h, disk, source, clock, .ok now, request⟩) client o
          description rfl rfl]
      cases h.record client o description now <;> rfl

variable [RandomSource σ]

private theorem rollAdmitted_with (s : Session τ σ) (limiter : Option (Limiter τ)) (clock : τ)
    (client expression : String) (description : Option String) :
    { s with limiter, clock }.rollAdmitted client expression description =
      { s.rollAdmitted client expression description with
        session := { (s.rollAdmitted client expression description).session with limiter, clock } } := by
  unfold rollAdmitted
  rcases (Formula.roll expression).run.run s.source with ⟨fault | o, source⟩
  · rfl
  · have hremember := remember_with { s with source } limiter clock client o description
    simp only at hremember ⊢
    rw [hremember]
    cases { s with source }.remember client o description with
    | error cause => rfl
    | ok kept => rfl

end

/-! ### One command -/

variable {τ σ : Type} [LinearOrder τ] [Sub τ] [ClockTime τ]

/-- The sessions differ at most in their limiters, and these have let through the same calls. -/
def Alike (s s' : Session τ σ) : Prop :=
  ∃ limiter, s' = { s with limiter } ∧ Option.Rel (Limiter.Alike s.clock) s.limiter limiter

private theorem rel_mono (hsub : ∀ a b s : τ, a ≤ b → a - s ≤ b - s) {now later : τ} {limiter limiter' : Option (Limiter τ)}
    (h : Option.Rel (Limiter.Alike now) limiter limiter') (hlater : now ≤ later) :
    Option.Rel (Limiter.Alike later) limiter limiter' := by
  cases h with
  | none => exact .none
  | some hl => exact .some (hl.mono hsub hlater)

private theorem limiterOf_rel (settings : Settings) (clock : τ) :
    Option.Rel (Limiter.Alike clock) (limiterOf settings clock) (limiterOf settings clock) := by
  unfold limiterOf
  split
  · exact .some ⟨rfl, _, .start settings.limits clock, .start settings.limits clock⟩
  · exact .none

/-- The steps are answered the same and lead to sessions that are alike. -/
structure AlikeSteps (step step' : Step τ σ) : Prop where
  reply : step'.reply = step.reply
  records : step'.records = step.records
  session : Alike step.session step'.session

namespace Alike

variable [RandomSource σ] {s s' : Session τ σ}

private theorem rollAdmitted {limiter limiter' : Option (Limiter τ)}
    (h : Option.Rel (Limiter.Alike s.clock) limiter limiter') (client expression : String)
    (description : Option String) :
    AlikeSteps ({ s with limiter }.rollAdmitted client expression description)
      ({ s with limiter := limiter' }.rollAdmitted client expression description) := by
  -- Both are the roll of `s` with the limiter put in afterwards, so they differ in nothing else.
  rw [rollAdmitted_with s limiter s.clock, rollAdmitted_with s limiter' s.clock]
  exact ⟨rfl, rfl, limiter', rfl, h⟩

variable [Add τ]

theorem roll (hsub : ∀ a b s : τ, a ≤ b → a - s ≤ b - s) (h : Alike s s') (expression : String)
    (description : Option String) :
    AlikeSteps (s.roll expression description) (s'.roll expression description) := by
  obtain ⟨limiter', rfl, hrel⟩ := h
  cases hlimiter : s.limiter with
  | none =>
    obtain rfl : limiter' = none := by
      rw [hlimiter] at hrel
      cases hrel
      rfl
    have hsteps := rollAdmitted (s := s) hrel s.caller expression description
    have hroll := roll_of_unlimited (s := { s with limiter := none }) rfl expression description
    rw [roll_of_unlimited hlimiter, hroll]
    exact hsteps
  | some l =>
    rw [hlimiter] at hrel
    cases hrel with
    | @some _ l' hl =>
      obtain ⟨hdecision, hafter⟩ := hl.check hsub s.caller
      cases hcheck : l.check s.caller s.clock with
      | mk decision after =>
        rw [hcheck] at hdecision hafter
        have hcheck' : l'.check s.caller s.clock = (decision, (l'.check s.caller s.clock).2) :=
          Prod.ext hdecision rfl
        cases decision with
        | denied window limit retryAfter =>
          have hroll := roll_of_denied (s := { s with limiter := some l' }) rfl hcheck' expression description
          rw [roll_of_denied hlimiter hcheck, hroll]
          exact ⟨rfl, rfl, _, rfl, .some hafter⟩
        | allowed =>
          have hroll := roll_of_allowed (s := { s with limiter := some l' }) rfl hcheck' expression description
          rw [roll_of_allowed hlimiter hcheck, hroll]
          exact rollAdmitted (.some hafter) s.caller expression description

/-- Where the clock goes on, sessions that are alike stay so. -/
theorem run (hsub : ∀ a b s : τ, a ≤ b → a - s ≤ b - s) (h : Alike s s') (c : Command τ)
    (hclock : s.clock ≤ c.clockAfter s.clock) : AlikeSteps (s.run c) (s'.run c) := by
  cases c with
  | roll expression description => exact h.roll hsub expression description
  | configure values =>
    obtain ⟨limiter', rfl, hrel⟩ := h
    cases hvalues : Settings.ofValues values with
    | error faults =>
      rw [run_configure_of_error _ hvalues, run_configure_of_error _ hvalues]
      exact ⟨rfl, rfl, limiter', rfl, hrel⟩
    | ok settings =>
      rw [run_configure_of_ok _ hvalues, run_configure_of_ok _ hvalues]
      exact ⟨rfl, rfl, limiterOf settings s.clock, rfl, limiterOf_rel settings s.clock⟩
  | setClock reading =>
    obtain ⟨limiter', rfl, hrel⟩ := h
    exact ⟨rfl, rfl, limiter', rfl, rel_mono hsub hrel hclock⟩
  | info =>
    obtain ⟨limiter', rfl, hrel⟩ := h
    refine ⟨?_, rfl, limiter', rfl, hrel⟩
    have hsome : limiter'.isSome = s.limiter.isSome := by
      generalize s.limiter = limiter at hrel
      cases hrel <;> rfl
    show Reply.page (About.info s.settings limiter'.isSome s.history.isSome) = _
    rw [hsome]
    rfl
  | _ =>
    obtain ⟨limiter', rfl, hrel⟩ := h
    exact ⟨rfl, rfl, limiter', rfl, hrel⟩

theorem answers_eq (hsub : ∀ a b s : τ, a ≤ b → a - s ≤ b - s) (h : Alike s s') {later : List (Command τ)}
    (hclock : Command.NeverBack s.clock later) : s'.answers later = s.answers later := by
  induction later generalizing s s' with
  | nil => rfl
  | cons c rest ih =>
    obtain ⟨hc, hrest⟩ := hclock
    have hsteps := h.run hsub c hc
    rw [← run_clock] at hrest
    unfold answers
    rw [hsteps.reply, hsteps.records, ih hsteps.session hrest]

end Alike

end Session

end Tabletop
