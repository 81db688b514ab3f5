import Tabletop.Proofs.Formula.Totals
import Tabletop.Proofs.Session.Run

/-!
# Totals in a session

Every row that a session can reach, in its history or in a file, keeps the total of an outcome that was rolled, and as such
a total is short (`Formula.isShort_of_roll`), its text is read back as the same number (`Session.KeepsTotals`).  No command
is ever refused because a total cannot be read.
-/

namespace Tabletop

/-- The outcome of some roll. -/
def Outcome.IsRolled (σ : Type) [RandomSource σ] (o : Outcome) : Prop :=
  ∃ (text : String) (source source' : σ), (Formula.roll text).run.run source = (.ok o, source')

/-- The row keeps the total of the outcome, and gives it back. -/
structure Row.KeepsTotal (r : Row) (o : Outcome) : Prop where
  total : r.total = toString o.total
  read : Text.readInteger r.total = .ok o.total

/-- All rows in the files keep totals that were rolled. -/
def Disk.KeepsTotals (σ : Type) [RandomSource σ] (d : Disk) : Prop :=
  ∀ name, ∀ r ∈ d.rows name, ∃ o : Outcome, o.IsRolled σ ∧ r.KeepsTotal o

namespace History

/-- All rows keep totals that were rolled. -/
def KeepsTotals (σ : Type) [RandomSource σ] (h : History) : Prop :=
  ∀ r ∈ h.rows, ∃ o : Outcome, o.IsRolled σ ∧ r.KeepsTotal o

theorem keepsTotal_newRow {o : Outcome} (ho : o.IsReadable) (h : History) (client : String) (description : Option String)
    (now : Moment) : (h.newRow client o description now).KeepsTotal o :=
  ⟨rfl, Text.readInteger_toString ho⟩

variable {σ : Type} [RandomSource σ]

theorem KeepsTotals.record {h : History} (hh : h.KeepsTotals σ) {o : Outcome} (ho : o.IsRolled σ) {client : String}
    {description : Option String} {now : Moment} {added : Addition}
    (hrecord : h.record client o description now = .ok added) : added.history.KeepsTotals σ := by
  rw [eq_of_record hrecord]
  intro r hr
  rcases List.mem_cons.mp (mem_of_mem_prune hr) with rfl | hr
  · exact ⟨o, ho, keepsTotal_newRow (isReadable_of_record hrecord) h client description now⟩
  · exact hh r hr

private theorem exists_entries {rows : List Row} (h : ∀ r ∈ rows, ∃ o, r.KeepsTotal o) :
    ∃ entries : List Entry, rows.map Row.entry = entries.map .ok := by
  induction rows with
  | nil => exact ⟨[], rfl⟩
  | cons r rest ih =>
    obtain ⟨⟨o, hr⟩, hrest⟩ := List.forall_mem_cons.mp h
    obtain ⟨entries, hentries⟩ := ih hrest
    refine ⟨⟨r.expression, r.description, o.total, r.breakdown, r.stamp.orUniversal⟩ :: entries, ?_⟩
    rw [List.map_cons, List.map_cons, hentries, Row.entry, hr.read]
    rfl

/-- The totals are no reason why rows cannot be listed. -/
theorem KeepsTotals.recent_ne {h : History} (hh : h.KeepsTotals σ) (client : String) (limit : Int)
    (fault : Text.NumeralFault) : h.recent client limit ≠ .error (.unreadableTotal fault) := by
  have hrows : ∀ r ∈ if limit < 0 then h.rowsOf client else (h.rowsOf client).take limit.toNat, ∃ o, r.KeepsTotal o := by
    intro r hr
    have hmem : r ∈ h.rowsOf client := by
      split at hr
      · exact hr
      · exact List.mem_of_mem_take hr
    obtain ⟨o, -, ho⟩ := hh r (List.mem_filter.mp (List.mem_mergeSort.mp hmem)).1
    exact ⟨o, ho⟩
  obtain ⟨entries, hentries⟩ := exists_entries hrows
  unfold recent
  rw [checkNumber_eq]
  split
  · rw [mapM_entry hentries]
    exact nofun
  · exact nofun

end History

namespace Disk

variable {σ : Type} [RandomSource σ] {d : Disk}

theorem KeepsTotals.connect (hd : d.KeepsTotals σ) (address : String) (maxEntries : Int) :
    (d.connect address maxEntries).KeepsTotals σ := by
  intro r hr
  change r ∈ d.rowsAt address at hr
  unfold rowsAt at hr
  split at hr
  · cases hr
  · exact hd _ r hr

theorem KeepsTotals.keep (hd : d.KeepsTotals σ) {h : History} (hh : h.KeepsTotals σ) (address : String) :
    (d.keep address h).KeepsTotals σ := by
  unfold Disk.keep
  split
  · exact hd
  · intro n r hr
    simp only at hr
    split at hr
    · exact hh r hr
    · exact hd n r hr

end Disk

namespace Session

variable {τ σ : Type} [RandomSource σ]

/-- The history, if there is one, and the files keep totals that were rolled. -/
structure KeepsTotals (s : Session τ σ) : Prop where
  history : ∀ h ∈ s.history, h.KeepsTotals σ
  disk : s.disk.KeepsTotals σ

theorem KeepsTotals.atRest {s : Session τ σ} (hs : s.KeepsTotals) : s.atRest.KeepsTotals σ := by
  unfold Session.atRest
  cases hhistory : s.history with
  | none => exact hs.disk
  | some h => exact hs.disk.keep (hs.history h hhistory) _

variable [Add τ] [Sub τ] [LE τ] [LT τ] [DecidableLE τ] [DecidableLT τ] [ClockTime τ] {s : Session τ σ}

theorem KeepsTotals.run (hs : s.KeepsTotals) (c : Command τ) : (s.run c).session.KeepsTotals := by
  cases c with
  | configure values =>
    cases hvalues : Settings.ofValues values with
    | error faults =>
      rw [s.run_configure_of_error hvalues]
      exact hs
    | ok settings =>
      rw [s.run_configure_of_ok hvalues]
      refine ⟨fun h hh => ?_, hs.atRest⟩
      rw [eq_connect_of_historyOf hh]
      exact hs.atRest.connect _ _
  | roll expression description =>
    have hstep := s.roll_step expression description
    show (s.roll expression description).session.KeepsTotals
    generalize s.roll expression description = step at hstep ⊢
    cases hstep with
    | denied | malformed | unrecorded => exact ⟨hs.history, hs.disk⟩
    | rolled hadmits hroll hremembers =>
      refine ⟨?_, hs.disk⟩
      cases hremembers with
      | off hhistory => exact fun h hh => nomatch hh
      | @recorded h now added hhistory hdate hrecord =>
        intro h' hh'
        obtain rfl := Option.some.inj hh'
        exact (hs.history h hhistory).record ⟨expression, s.source, _, hroll⟩ hrecord
  | _ => exact ⟨hs.history, hs.disk⟩

theorem KeepsTotals.after (hs : s.KeepsTotals) (commands : List (Command τ)) : (s.after commands).KeepsTotals := by
  induction commands generalizing s with
  | nil => exact hs
  | cons c rest ih => exact ih (hs.run c)

/-- The number in a row of the history is never too long to be read. -/
theorem KeepsTotals.reply_ne (hfair : RandomSource.IsFair σ) (hs : s.KeepsTotals) (c : Command τ)
    (fault : Text.NumeralFault) : (s.run c).reply ≠ .refused (.badHistory (.unreadableTotal fault)) := by
  cases c with
  | roll expression description =>
    have hstep := s.roll_step expression description
    show (s.roll expression description).reply ≠ _
    generalize s.roll expression description = step at hstep ⊢
    cases hstep with
    | denied =>
      unfold denial
      split <;> exact nofun
    | malformed | rolled => exact nofun
    | unrecorded hadmits hroll hforgets =>
      cases hforgets with
      | noDate => exact nofun
      | noRow hhistory hdate hrecord =>
        rw [History.record_eq (Formula.isReadable_of_roll hfair hroll)] at hrecord
        split at hrecord
        · cases hrecord
        · cases hrecord
          exact nofun
  | listHistory limit =>
    show s.listHistory limit ≠ _
    unfold listHistory
    cases hhistory : s.history with
    | none => exact nofun
    | some h =>
      have hrecent := (hs.history h hhistory).recent_ne s.caller (min limit s.settings.historyMaxEntries) fault
      simp only
      split
      · exact nofun
      · rename_i cause hcause
        intro hreply
        cases hreply
        exact hrecent hcause
  | health =>
    show s.health ≠ _
    unfold health
    split <;> exact nofun
  | configure values =>
    show (s.configure values).reply ≠ _
    unfold configure
    split <;> exact nofun
  | _ => exact nofun

/-- With a fair source all outcomes that are built are short, and all totals that are recorded are read back. -/
theorem totals_stay_short (hfair : RandomSource.IsFair σ) :
    (∀ text, Formula.StaysShort σ text) ∧
      (∀ o : Outcome, o.IsRolled σ → ∀ (h : History) (client : String) (description : Option String) (now : Moment),
        (h.newRow client o description now).KeepsTotal o) ∧
      ∀ (source : σ) (clock : τ) (date : Moment) (disk : Disk) (commands : List (Command τ)) (s : Session τ σ),
        disk.KeepsTotals σ → (start source clock date disk).after commands = s →
          s.KeepsTotals ∧ ∀ c fault, (s.run c).reply ≠ .refused (.badHistory (.unreadableTotal fault)) := by
  refine ⟨Formula.staysShort hfair, ?_, ?_⟩
  · rintro o ⟨text, source, source', hroll⟩ h client description now
    exact History.keepsTotal_newRow (Formula.isReadable_of_roll hfair hroll) h client description now
  · rintro source clock date disk commands s hdisk rfl
    have hstart : (start source clock date disk).KeepsTotals := ⟨nofun, hdisk⟩
    exact ⟨hstart.after commands, (hstart.after commands).reply_ne hfair⟩

private def lastDay : Moment := { year := 2024, month := 12, day := 31 }

/-- One roll is recorded in a file, which is opened again; the other one comes to a fault after some outcomes were built. -/
private def twoRolls : List (Command Int) :=
  [.configure [("history_enabled", .boolean true)], .roll "2d6*1000000" none,
    .configure [("history_enabled", .boolean true)], .roll "7*2d6+(1" none]

private def rolledTwice : Session Int Script := (start (Script.ofFaces [5, 4]) 0 lastDay .blank).after twoRolls

theorem totals_stay_short_twice :
    RandomSource.IsFair Script ∧ Disk.blank.KeepsTotals Script ∧ Formula.StaysShort Script "7*2d6+(1" ∧
      rolledTwice.history.map (fun h => h.rows.map Row.total) = some ["9000000"] ∧ rolledTwice.KeepsTotals ∧
      ∀ fault, (rolledTwice.run (.listHistory 10)).reply ≠ .refused (.badHistory (.unreadableTotal fault)) := by
  have hblank : Disk.blank.KeepsTotals Script := fun name r hr => nomatch hr
  obtain ⟨htexts, -, hsessions⟩ := totals_stay_short (τ := Int) Script.isFair
  obtain ⟨hkeeps, hreply⟩ := hsessions (Script.ofFaces [5, 4]) 0 lastDay .blank twoRolls rolledTwice hblank rfl
  exact ⟨Script.isFair, hblank, htexts "7*2d6+(1", by decide +kernel, hkeeps, hreply (.listHistory 10)⟩

end Session

end Tabletop
