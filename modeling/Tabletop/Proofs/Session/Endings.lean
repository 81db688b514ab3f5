import Tabletop.Proofs.Formula.Totals
import Tabletop.Proofs.Session.Admissions
import Tabletop.Proofs.Session.Successes

/-!
# How a roll ends

While the clock does not go back, every roll ends in exactly one of four ways, each with its own effects
(`roll_ends`).  It is denied, and nothing that comes later can tell that it was asked for.  Or it is counted once in every
window, and then it is no formula, or it is answered and recorded once, or it is a formula but cannot be recorded: because
there is no date, or because the table does not take the number of entries to keep.
-/

namespace Tabletop

namespace Session

/-! ### Recording -/

section

variable {τ σ : Type}

/-- The outcome is the newest row of the caller, as many rows stay as are to be kept, and the others keep theirs. -/
def RecordedOnce (s : Session τ σ) (o : Outcome) (description : Option String) (history : Option History) : Prop :=
  Option.Rel
    (fun h h' =>
      h'.maxEntries = h.maxEntries ∧
      (∃ now, s.date = .ok now ∧
        h'.rowsOf s.caller = (h.newRow s.caller o description now :: h.rowsOf s.caller).take h.maxEntries.toNat) ∧
      ∀ other, other ≠ s.caller → h'.rowsOf other = h.rowsOf other)
    s.history history

/-- Why nothing can be recorded. -/
inductive Unrecordable (s : Session τ σ) : Refusal → Prop where
  | noDate {fault : DateFault} (hdate : s.date = .error fault) : s.Unrecordable (.badDate fault)
  | noTable {now : Moment} (hdate : s.date = .ok now) (hfits : History.fits s.settings.historyMaxEntries = false) :
      s.Unrecordable (.badHistory .numberTooLarge)

theorem RecordedOnce.of_remembers {s : Session τ σ} {o : Outcome} {description : Option String}
    {history : Option History} {pruned : Nat} {a : Archive} {log : List Success}
    (hm : Mirrors s.settings s.disk s.history a log) (hremembers : s.Remembers o description history pruned) : s.RecordedOnce o description history := by
  unfold RecordedOnce
  cases hremembers with
  | off hhistory =>
    rw [hhistory]
    exact .none
  | @recorded h now added hhistory hdate hrecord =>
    rw [hhistory] at hm ⊢
    have hfalling := (hm.follows h rfl).falling
    -- The new row has the largest id, so it comes first before the rows of its client are cut.
    have hnew := History.falling_withRow hfalling s.caller o description now
    rw [History.eq_of_record hrecord]
    refine .some ⟨History.prune_maxEntries _ _, ⟨now, hdate, ?_⟩, fun other hother => ?_⟩
    · rw [History.rowsOf_prune hnew, if_pos rfl, History.rowsOf_withRow hfalling, if_pos rfl]
      rfl
    · rw [History.rowsOf_prune hnew, if_neg hother, History.rowsOf_withRow hfalling,
        if_neg (Ne.symm hother)]

/-- What can be read again is only refused for want of a date or of a number that the table takes. -/
theorem Unrecordable.of_forgets {s : Session τ σ} {o : Outcome} {description : Option String} {cause : Refusal}
    {a : Archive} {log : List Success} (hm : Mirrors s.settings s.disk s.history a log) (ho : o.IsReadable)
    (hforgets : s.Forgets o description cause) : s.history.isSome ∧ s.Unrecordable cause := by
  cases hforgets with
  | noDate hhistory hdate => exact ⟨by rw [hhistory]; rfl, .noDate hdate⟩
  | @noRow h now fault hhistory hdate hrecord =>
    have hmax := (hm.follows h hhistory).maxEntries
    rw [History.record_eq ho] at hrecord
    split at hrecord
    · cases hrecord
    · rename_i hfits
      cases hrecord
      refine ⟨by rw [hhistory]; rfl, .noTable hdate ?_⟩
      rw [hmax] at hfits
      exact Bool.eq_false_iff.mpr hfits

end

/-! ### Endings -/

inductive Ending where
  | denied
  | malformed
  | unrecorded
  | answered
  deriving DecidableEq, Repr

section

variable {τ σ : Type} [Sub τ] [LE τ] [DecidableLE τ] [ClockTime τ]

/-- In every window the reading stands once more behind what still counts of the caller's; of the others nothing that
counts has changed. -/
def CountedOnce (s : Session τ σ) (limiter : Option (Limiter τ)) : Prop :=
  Option.Rel
    (fun l l' =>
      l'.limits = l.limits ∧
      (∀ w ∈ l.limits.enabled,
        l'.table.queue s.caller w = Limiter.live s.clock w (l.table.queue s.caller w) ++ [s.clock]) ∧
      ∀ other, other ≠ s.caller → ∀ w,
        Limiter.live s.clock w (l'.table.queue other w) = Limiter.live s.clock w (l.table.queue other w))
    s.limiter limiter

variable [Add τ] [LT τ] [DecidableLT τ] [RandomSource σ]

/-- What each ending does. -/
inductive Ends (s : Session τ σ) (expression : String) (description : Option String) (step : Step τ σ) :
    Ending → Prop where
  | denied {window : Window} {limit seconds : Int} {retryAfter : τ}
      (hdecision : (s.consultLimiter s.caller).1 = .denied window limit retryAfter)
      (hseconds : ClockTime.ceiling retryAfter = some seconds)
      (hreply : step.reply = .refused (.rateLimited window limit seconds))
      (hsession : step.session = { s with limiter := step.session.limiter })
      (hlater : ∀ later, Command.NeverBack s.clock later → step.session.answers later = s.answers later) :
      s.Ends expression description step .denied
  | malformed {fault : Fault} {source : σ} (hdecision : (s.consultLimiter s.caller).1 = .allowed)
      (hroll : (Formula.roll expression).run.run s.source = (.error fault, source))
      (hreply : step.reply = .refused (.badFormula fault))
      (hsession : step.session = { s with limiter := step.session.limiter, source })
      (hcounted : s.CountedOnce step.session.limiter) : s.Ends expression description step .malformed
  | unrecorded {o : Outcome} {source : σ} {cause : Refusal} (hdecision : (s.consultLimiter s.caller).1 = .allowed)
      (hroll : (Formula.roll expression).run.run s.source = (.ok o, source))
      (hhistory : s.history.isSome) (hcause : s.Unrecordable cause) (hreply : step.reply = .refused cause)
      (hsession : step.session = { s with limiter := step.session.limiter, source })
      (hcounted : s.CountedOnce step.session.limiter) : s.Ends expression description step .unrecorded
  | answered {o : Outcome} {source : σ} (hdecision : (s.consultLimiter s.caller).1 = .allowed)
      (hroll : (Formula.roll expression).run.run s.source = (.ok o, source))
      (hreply : step.reply = .text (rollText o description))
      (hsession : step.session =
        { s with limiter := step.session.limiter, source, history := step.session.history })
      (hcounted : s.CountedOnce step.session.limiter)
      (hrecorded : s.RecordedOnce o description step.session.history) : s.Ends expression description step .answered

/-- The ending can be told from the reply. -/
private def endingOf? : Reply → Option Ending
  | .refused (.rateLimited _ _ _) => some .denied
  | .refused (.badFormula _) => some .malformed
  | .refused (.badDate _) => some .unrecorded
  | .refused (.badHistory _) => some .unrecorded
  | .text _ => some .answered
  | _ => none

private theorem Ends.endingOf?_eq {s : Session τ σ} {expression : String} {description : Option String}
    {step : Step τ σ} {e : Ending} (h : s.Ends expression description step e) : endingOf? step.reply = some e := by
  cases h with
  | denied _ _ hreply => rw [hreply]; rfl
  | malformed _ _ hreply => rw [hreply]; rfl
  | unrecorded _ _ _ hcause hreply =>
    rw [hreply]
    cases hcause <;> rfl
  | answered _ _ hreply => rw [hreply]; rfl

end

/-! ### The effects of a step -/

variable {τ σ : Type} [LinearOrder τ] [Add τ] [Sub τ] [ClockTime τ]

theorem CountedOnce.of_admits {s : Session τ σ} {log : List (Admission τ)} (hm : Meters s log)
    {limiter : Option (Limiter τ)} (hadmits : s.Admits limiter) : s.CountedOnce limiter := by
  unfold CountedOnce
  cases hadmits with
  | unlimited hlimiter =>
    rw [hlimiter]
    exact .none
  | @allowed l l' hlimiter hcheck =>
    rw [hlimiter]
    have hdistinct := (hm.stands l hlimiter).tracks.distinct
    have hlimits := Limiter.check_limits l s.caller s.clock
    obtain ⟨trimmed, htrims, heffect⟩ := Limiter.check_effect hdistinct s.caller s.clock
    rw [hcheck] at heffect hlimits
    obtain ⟨hqueues, htable⟩ := heffect
    -- The check may have trimmed any queue before it recorded the call, but only by what no longer counts.
    refine .some ⟨hlimits, fun w hw => ?_, fun other hother w => ?_⟩
    · rw [htable, Table.queue_record l.limits.nodup_enabled, if_pos ⟨rfl, hw⟩, (hqueues w hw).1]
    · rw [htable, Table.queue_record l.limits.nodup_enabled, if_neg fun heq => hother heq.1, htrims.live_queue]

theorem alike_of_denied (hsub : ∀ a b s : τ, a ≤ b → a - s ≤ b - s) {s : Session τ σ} {log : List (Admission τ)}
    (hm : Meters s log) {l l' : Limiter τ} {window : Window} {limit : Int} {retryAfter : τ}
    (hlimiter : s.limiter = some l)
    (hcheck : l.check s.caller s.clock = (.denied window limit retryAfter, l')) :
    Alike s { s with limiter := some l' } := by
  refine ⟨some l', rfl, ?_⟩
  have halike := Limiter.Alike.of_denied hsub (hm.stands l hlimiter) (congrArg Prod.fst hcheck)
  rw [hcheck] at halike
  rw [hlimiter]
  exact .some halike

/-! ### Every roll -/

variable [RandomSource σ]

theorem exists_ends (hsub : ∀ a b s : τ, a ≤ b → a - s ≤ b - s) (hceiling : ∀ t : τ, (ClockTime.ceiling t).isSome)
    (hfair : RandomSource.IsFair σ) {s : Session τ σ} {admissions : List (Admission τ)} {a : Archive}
    {successes : List Success} (hmeters : Meters s admissions)
    (hmirrors : Mirrors s.settings s.disk s.history a successes) (expression : String) (description : Option String) : ∃ e, s.Ends expression description (s.roll expression description) e := by
  have hstep := s.roll_step expression description
  generalize s.roll expression description = step at hstep ⊢
  cases hstep with
  | @denied l l' window limit retryAfter hlimiter hcheck =>
    obtain ⟨seconds, hseconds⟩ := Option.isSome_iff_exists.mp (hceiling retryAfter)
    have hreply : denial window limit retryAfter = .rateLimited window limit seconds := by
      unfold denial
      rw [hseconds]
    refine ⟨.denied, .denied (consultLimiter_of_denied hlimiter hcheck) hseconds (congrArg Reply.refused hreply) rfl ?_⟩
    exact fun later hlater => (alike_of_denied hsub hmeters hlimiter hcheck).answers_eq hsub hlater
  | malformed hadmits hroll =>
    exact ⟨.malformed, .malformed (consultLimiter_of_admits hadmits) hroll rfl rfl (.of_admits hmeters hadmits)⟩
  | unrecorded hadmits hroll hforgets =>
    -- With a fair source the total can be read again, so it is not for its length that nothing is recorded.
    obtain ⟨hhistory, hcause⟩ := Unrecordable.of_forgets hmirrors (Formula.isReadable_of_roll hfair hroll) hforgets
    exact ⟨.unrecorded, .unrecorded (consultLimiter_of_admits hadmits) hroll hhistory hcause rfl rfl
      (.of_admits hmeters hadmits)⟩
  | rolled hadmits hroll hremembers =>
    exact ⟨.answered, .answered (consultLimiter_of_admits hadmits) hroll rfl rfl (.of_admits hmeters hadmits)
      (.of_remembers hmirrors hremembers)⟩

/-- With a clock that never goes back and a fair source, every roll in every session that can be reached ends in exactly
one way.  Since the settings were put in force no client, nor any peer while headers are not believed, has had more rolls
let through in any window than its limit. -/
theorem roll_ends (hsub : ∀ a b s : τ, a ≤ b → a - s ≤ b - s) (hceiling : ∀ t : τ, (ClockTime.ceiling t).isSome)
    (hfair : RandomSource.IsFair σ) {source : σ} {clock : τ} {date : Moment} {disk : Disk} {filed : String → Lists}
    (hdisk : disk.Holds filed) {commands : List (Command τ)} {s : Session τ σ} (hclock : Command.NeverBack clock commands)
    (hs : (start source clock date disk).after commands = s) :
    (∀ expression description, ∃! e, s.Ends expression description (s.run (.roll expression description)) e) ∧
      (s.settings.rateLimitEnabled = true → ∀ w ∈ s.settings.limits.enabled, ∀ last,
        (∀ client, ((Limiter.within last w
            (Admission.readings ((start source clock date disk).log admission? commands) client)).length : Int) ≤
          s.settings.limits.of w) ∧
        (s.settings.trustForwardedHeaders = false → ∀ peer, ((Limiter.within last w
            (Admission.readingsOfPeer ((start source clock date disk).log admission? commands) peer)).length : Int) ≤
          s.settings.limits.of w)) := by
  have hmirrors := mirrors_of_after hdisk hs
  have hmeters : Meters s ((start source clock date disk).log admission? commands) := by
    rw [← hs]
    exact (Meters.started source clock date disk).after hsub hclock
  constructor
  · intro expression description
    obtain ⟨e, he⟩ := exists_ends hsub hceiling hfair hmeters hmirrors expression description
    refine ⟨e, he, fun e' he' => Option.some.inj ?_⟩
    exact he'.endingOf?_eq.symm.trans he.endingOf?_eq
  · intro henabled w hw last
    exact ⟨hmeters.within_le henabled hw last, fun htrust => hmeters.withinOfPeer_le henabled htrust hw last⟩

private def newYear : Moment := { year := 2024, month := 1, day := 1 }

/-- One peer that calls itself by two names; two of its rolls were let through, one of them no formula. -/
private def rush : List (Command Int) :=
  [.configure [("rate_limit_enabled", .boolean true), ("rate_limit_per_minute", .integer 2),
      ("history_enabled", .boolean true)],
    .setRequest (some ⟨[("x-forwarded-for", "a")], some "host"⟩), .roll "d6" none, .setClock 10, .roll "2d" none,
    .setRequest (some ⟨[("x-forwarded-for", "b")], some "host"⟩)]

private def rushed : Session Int Script := (start (Script.ofFaces [4]) 0 newYear .blank).after rush

private def letThrough : List (Admission Int) :=
  (start (Script.ofFaces [4]) (0 : Int) newYear .blank).log admission? rush

theorem roll_ends_rushed :
    Disk.blank.Holds (fun _ _ => []) ∧ Command.NeverBack 0 rush ∧
      (∃! e, rushed.Ends "d6" none (rushed.run (.roll "d6" none)) e) ∧
      Admission.readingsOfPeer letThrough (some "host") = [0, 10] ∧
      ((Limiter.within 59 .minute (Admission.readingsOfPeer letThrough (some "host"))).length : Int) ≤
        rushed.settings.limits.of .minute := by
  have hsub : ∀ a b s : Int, a ≤ b → a - s ≤ b - s := fun a b s h => Int.sub_le_sub_right h s
  have hclock : Command.NeverBack 0 rush := by simp [rush, Command.NeverBack, Command.clockAfter]
  have hblank : Disk.blank.Holds fun _ _ => [] := .of_empty fun _ => rfl
  obtain ⟨hends, hquota⟩ := roll_ends (s := rushed) hsub (fun _ => rfl) Script.isFair hblank hclock rfl
  obtain ⟨henabled, hminute, htrust⟩ : rushed.settings.rateLimitEnabled = true ∧
      Window.minute ∈ rushed.settings.limits.enabled ∧ rushed.settings.trustForwardedHeaders = false := by decide +kernel
  have hpeer := (hquota henabled .minute hminute 59).2 htrust (some "host")
  exact ⟨hblank, hclock, hends "d6" none, by decide +kernel, hpeer⟩

/-- With room for too many entries a roll is neither denied nor malformed nor answered. -/
theorem roll_fails_beyond_word :
    let s := (start (Script.ofFaces []) (0 : Int) newYear).after
      [.configure [("history_enabled", .boolean true), ("history_max_entries", .integer 9223372036854775808)]]
    (∀ window limit seconds, (s.run (.roll "3" none)).reply ≠ .refused (.rateLimited window limit seconds)) ∧
      (∀ fault, (s.run (.roll "3" none)).reply ≠ .refused (.badFormula fault)) ∧
      ∀ text, (s.run (.roll "3" none)).reply ≠ .text text := by
  intro s
  have hcause : (s.run (.roll "3" none)).reply.refusal? = some (.badHistory .numberTooLarge) := by decide +kernel
  refine ⟨?_, ?_, ?_⟩
  · intro window limit seconds hreply
    rw [hreply] at hcause
    cases hcause
  · intro fault hreply
    rw [hreply] at hcause
    cases hcause
  · intro text hreply
    rw [hreply] at hcause
    cases hcause

end Session

end Tabletop
