import Tabletop.Proofs.Limiter.Standing
import Mathlib.Algebra.Order.Group.Defs
import Mathlib.Data.Rat.Floor

/-!
# How long a window stays full

On a clock that computes exactly a denial says precisely when the window has room again: when its oldest reading is as old
as the window is long.  Until then the window denies, if nothing more is let through; from then on neither it nor a window
that is listed before it does (`DeniedUntil`, `Stands.deniedUntil`).  The wait is never longer than the window
(`Stands.wait_bounds`).
-/

namespace Tabletop

/-- Readings are added and compared without error, and the ceiling of a time is the least whole number of seconds that is
not below it. -/
class ExactClock (τ : Type) [AddCommGroup τ] [LinearOrder τ] [ClockTime τ] : Prop extends IsOrderedAddMonoid τ where
  seconds_zero : (ClockTime.seconds 0 : τ) = 0
  ceiling_le_iff : ∀ t : τ, ∃ n : Int, ClockTime.ceiling t = some n ∧ ∀ m : Nat, n ≤ m ↔ t ≤ ClockTime.seconds m

instance : ExactClock Int where
  seconds_zero := rfl
  ceiling_le_iff t := ⟨t, rfl, fun _ => Iff.rfl⟩

/-- Readings may be fractions of a second. -/
instance : ClockTime Rat where
  seconds n := n
  ceiling t := some ⌈t⌉

instance : ExactClock Rat where
  seconds_zero := Nat.cast_zero
  ceiling_le_iff t := by
    refine ⟨⌈t⌉, rfl, fun m => ?_⟩
    rw [Int.ceil_le, Int.cast_natCast]
    rfl

namespace Limiter

variable {τ : Type}

/-! ### Calls that change no log -/

/-- No call of the identity was allowed, and nothing was reset. -/
def Quiet (identity : String) (events : List (Event τ)) : Prop :=
  ∀ e ∈ events, e ≠ .reset ∧ ∀ now, e ≠ .checked identity now .allowed

theorem noted_of_quiet {identity : String} {e : Event τ} (hreset : e ≠ .reset)
    (hallowed : ∀ now, e ≠ .checked identity now .allowed) (log : List τ) : noted identity log e = log := by
  cases e with
  | reset => exact absurd rfl hreset
  | checked identity' now decision =>
    cases decision with
    | denied window limit retryAfter => rfl
    | allowed =>
      have hne : identity ≠ identity' := by
        rintro rfl
        exact hallowed now rfl
      exact if_neg hne

theorem Quiet.foldl_noted {identity : String} {events : List (Event τ)} (h : Quiet identity events) (log : List τ) :
    events.foldl (noted identity) log = log := by
  induction events with
  | nil => rfl
  | cons e rest ih =>
    obtain ⟨⟨hreset, hallowed⟩, hrest⟩ := List.forall_mem_cons.mp h
    rw [List.foldl_cons, noted_of_quiet hreset hallowed]
    exact ih hrest

/-! ### What counts later on -/

section

variable [LinearOrder τ] [Sub τ] [ClockTime τ]

theorem counted_counted_of_le (hsub : ∀ a b s : τ, a ≤ b → a - s ≤ b - s) {now later : τ} (h : now ≤ later)
    (w : Window) (log : List τ) : counted later w (counted now w log) = counted later w log := by
  unfold counted
  rw [List.filter_filter]
  apply List.filter_congr
  intro t _
  have hmono := hsub _ _ (ClockTime.seconds w.seconds) h
  by_cases ht : later - ClockTime.seconds w.seconds < t
  · have hnow : now - ClockTime.seconds w.seconds < t := lt_of_le_of_lt hmono ht
    simp [ht, hnow]
  · simp [ht]

/-- Without more calls a window that has room keeps it. -/
theorem HasRoom.mono (hsub : ∀ a b s : τ, a ≤ b → a - s ≤ b - s) {limits : Limits} {now later : τ} {log : List τ}
    {w : Window} (h : HasRoom limits now log w) (hlater : now ≤ later) : HasRoom limits later log w := by
  have hlength := (counted_sublist_of_le hsub hlater w log).length_le
  unfold HasRoom at h ⊢
  omega

/-- In a log within its limits a window holds no more than its limit. -/
theorem Respects.length_counted_le {limits : Limits} {now : τ} {log : List τ} (h : Respects limits log)
    (hpast : ∀ t ∈ log, t ≤ now) {w : Window} (hw : w ∈ limits.enabled) :
    ((counted now w log).length : Int) ≤ limits.of w := by
  have hsame : within now w log = counted now w log := by
    unfold within counted
    apply List.filter_congr
    intro t ht
    simp [hpast t ht]
  rw [← hsame]
  exact h w hw now

variable [Add τ]

/-- A denial is by a window that is looked at, and all windows listed before it have room. -/
theorem Verdict.split {limits : Limits} {now retryAfter : τ} {log : List τ} {w : Window} {limit : Int}
    (h : Verdict limits now log limits.enabled (.denied w limit retryAfter)) :
    ∃ before after, limits.enabled = before ++ w :: after ∧ (∀ v ∈ before, HasRoom limits now log v) ∧
      ¬HasRoom limits now log w := by
  obtain ⟨hfind, -⟩ := h.find?_eq
  obtain ⟨hfull, before, after, hws, hbefore⟩ := List.find?_eq_some_iff_append.mp hfind
  exact ⟨before, after, hws, by simpa using hbefore, by simpa using hfull⟩

end

/-! ### The wait -/

variable [AddCommGroup τ] [LinearOrder τ] [ClockTime τ] [ExactClock τ]

theorem sub_le_sub_of_le (a b s : τ) (h : a ≤ b) : a - s ≤ b - s := sub_le_sub_right h s

/-- What a decision at the reading `later` is if the window `w` has no room before the reading `free`, and it and the windows
listed before it have room from then on. -/
structure DeniedUntil (limits : Limits) (w : Window) (free later : τ) (d : Decision τ) : Prop where
  still : later < free → ∃ retryAfter, d = .denied w (limits.of w) retryAfter
  cleared : free ≤ later → ∀ v limit retryAfter, d = .denied v limit retryAfter →
    limits.enabled.idxOf w < limits.enabled.idxOf v

section

variable {limits : Limits} {now later retryAfter : τ} {log : List τ} {w : Window} {limit : Int}

/-- The oldest reading that counts decides the wait: with it the window is full, and without it there is room. -/
private theorem exists_oldest (h : Verdict limits now log limits.enabled (.denied w limit retryAfter))
    (hrespects : Respects limits log) (hpast : ∀ t ∈ log, t ≤ now) :
    ∃ oldest others, counted now w log = oldest :: others ∧ (others.length : Int) < limits.of w ∧
      now + retryAfter = oldest + ClockTime.seconds w.seconds ∧ 0 < retryAfter ∧
      retryAfter ≤ ClockTime.seconds w.seconds := by
  obtain ⟨before, after, hws, -, -⟩ := h.split
  obtain ⟨-, -, oldest, others, hcounted, hwait⟩ := h.find?_eq
  have hlength := hrespects.length_counted_le hpast (w := w) (by rw [hws]; simp)
  rw [hcounted, List.length_cons] at hlength
  have hoverdue : oldest ∈ counted now w log := by
    rw [hcounted]
    exact List.mem_cons_self
  obtain ⟨hmem, hnew⟩ := List.mem_filter.mp hoverdue
  have hnew : now - ClockTime.seconds w.seconds < oldest := of_decide_eq_true hnew
  have hold : oldest ≤ now := hpast oldest hmem
  have hpos : 0 < oldest + ClockTime.seconds w.seconds - now := sub_pos.mpr (sub_lt_iff_lt_add.mp hnew)
  rw [waiting_eq_max, ExactClock.seconds_zero, max_eq_right hpos.le] at hwait
  refine ⟨oldest, others, hcounted, by omega, ?_, by rwa [hwait], ?_⟩
  · rw [hwait, add_sub_cancel]
  · rw [hwait, sub_le_iff_le_add']
    exact add_le_add_left hold _

/-- While the oldest reading counts, so do all others that counted before. -/
private theorem not_hasRoom_of_lt {oldest : τ} {others : List τ} (hsorted : log.Pairwise (· ≤ ·))
    (hcounted : counted now w log = oldest :: others) (hfull : ¬HasRoom limits now log w) (hlater : now ≤ later)
    (hlt : later < oldest + ClockTime.seconds w.seconds) : ¬HasRoom limits later log w := by
  have hall : counted later w (counted now w log) = counted now w log := by
    have hoverdue : (oldest :: others).Pairwise (· ≤ ·) := by
      rw [← hcounted]
      exact hsorted.filter _
    have hoverdue := List.forall_mem_cons.mpr ⟨le_refl oldest, (List.pairwise_cons.mp hoverdue).1⟩
    rw [hcounted]
    apply List.filter_eq_self.mpr
    intro t ht
    have hle : oldest ≤ t := hoverdue t ht
    exact decide_eq_true (lt_of_lt_of_le (sub_lt_iff_lt_add.mpr hlt) hle)
  rw [counted_counted_of_le sub_le_sub_of_le hlater] at hall
  unfold HasRoom at hfull ⊢
  rw [hall]
  exact hfull

/-- Without the oldest reading fewer readings count than the limit allows. -/
private theorem hasRoom_of_le {oldest : τ} {others : List τ} (hcounted : counted now w log = oldest :: others)
    (hroom : (others.length : Int) < limits.of w) (hlater : now ≤ later)
    (hle : oldest + ClockTime.seconds w.seconds ≤ later) : HasRoom limits later log w := by
  have hgone : counted later w (counted now w log) = counted later w others := by
    have hold : ¬later - ClockTime.seconds w.seconds < oldest := not_lt.mpr (le_sub_iff_add_le.mpr hle)
    rw [hcounted]
    exact List.filter_cons_of_neg (by simpa using hold)
  rw [counted_counted_of_le sub_le_sub_of_le hlater] at hgone
  have hlength := (counted_sublist later w others).length_le
  unfold HasRoom
  rw [hgone]
  omega

/-- What a log within its limits says at a later reading, if nothing was added to it. -/
theorem Verdict.deniedUntil (h : Verdict limits now log limits.enabled (.denied w limit retryAfter))
    (hsorted : log.Pairwise (· ≤ ·)) (hrespects : Respects limits log) (hpast : ∀ t ∈ log, t ≤ now)
    (hlater : now ≤ later) {d : Decision τ} (hd : Verdict limits later log limits.enabled d) :
    DeniedUntil limits w (now + retryAfter) later d := by
  obtain ⟨before, after, hws, hbefore, hfull⟩ := h.split
  obtain ⟨oldest, others, hcounted, hroom, hfree, -, -⟩ := exists_oldest h hrespects hpast
  have hbefore' : ∀ v ∈ before, HasRoom limits later log v := fun v hv => (hbefore v hv).mono sub_le_sub_of_le hlater
  rw [hfree]
  constructor
  · intro hlt
    have hfull' := not_hasRoom_of_lt hsorted hcounted hfull hlater hlt
    cases d with
    | allowed =>
      have hall := hd.allowed_iff.mp rfl
      exact absurd (hall w (by rw [hws]; simp)) hfull'
    | denied v limit' retryAfter' =>
      obtain ⟨hfind, hlimit, -⟩ := hd.find?_eq
      have hfirst : limits.enabled.find? (fun v => !decide (HasRoom limits later log v)) = some w := by
        rw [hws, List.find?_append, List.find?_eq_none.mpr (by simpa using hbefore'), Option.none_or]
        exact List.find?_cons_of_pos (by simpa using hfull')
      obtain rfl : v = w := Option.some.inj (hfind.symm.trans hfirst)
      exact ⟨retryAfter', by rw [hlimit]⟩
  · rintro hle v limit' retryAfter' rfl
    have hroom' := hasRoom_of_le hcounted hroom hlater hle
    obtain ⟨before', after', hws', -, hfull'⟩ := hd.split
    -- The window that denies now is neither `w` nor one of those before it.
    have hw : v ≠ w := by
      rintro rfl
      exact hfull' hroom'
    have hv : v ∉ before := fun hmem => hfull' (hbefore' v hmem)
    have hnodup := limits.nodup_enabled
    rw [hws] at hnodup ⊢
    have hwb : w ∉ before := fun hmem => (List.nodup_append.mp hnodup).2.2 w hmem w (by simp) rfl
    rw [List.idxOf_append, List.idxOf_append, if_neg hwb, if_neg hv, List.idxOf_cons_self,
      List.idxOf_cons_ne _ (Ne.symm hw)]
    omega

end

/-! ### Limiters -/

namespace Stands

variable {now later : τ} {log log' : String → List τ} {l l' : Limiter τ} {identity : String} {w : Window} {limit : Int}
  {retryAfter : τ}

theorem wait_bounds (h : Stands now log l) (hdenied : (l.check identity now).1 = .denied w limit retryAfter) :
    0 < retryAfter ∧ retryAfter ≤ ClockTime.seconds w.seconds := by
  have hverdict := h.verdict identity
  rw [hdenied] at hverdict
  obtain ⟨oldest, others, -, -, -, hpos, hle⟩ := exists_oldest hverdict (h.respects identity) (h.past identity)
  exact ⟨hpos, hle⟩

/-- Nothing but the calls of the identity that were let through decides how long it is denied. -/
theorem deniedUntil (h : Stands now log l) (hdenied : (l.check identity now).1 = .denied w limit retryAfter)
    (hlater : now ≤ later) (h' : Stands later log' l') (hlimits : l'.limits = l.limits)
    (hlog : log' identity = log identity) :
    DeniedUntil l.limits w (now + retryAfter) later (l'.check identity later).1 := by
  have hverdict := h.verdict identity
  have hverdict' := h'.verdict identity
  rw [hdenied] at hverdict
  rw [hlimits, hlog] at hverdict'
  exact hverdict.deniedUntil (h.sorted identity) (h.respects identity) (h.past identity) hlater hverdict'

omit [ExactClock τ] in
theorem reset (now : τ) (l : Limiter τ) : Stands now (fun _ => []) l.reset :=
  ⟨.nil l.limits now, by simp, by simp, fun _ => .nil l.limits⟩

/-- A run of calls with readings that do not decrease. -/
theorem run (h : Stands now log l) {calls : List (Call τ)}
    (hclock : (now :: (readings calls ++ [later])).Pairwise (· ≤ ·)) :
    Stands later (fun i => (l.run calls).1.foldl (noted i) (log i)) (l.run calls).2 := by
  induction calls generalizing now log l with
  | nil =>
    have hle : now ≤ later := (List.pairwise_cons.mp hclock).1 later (by simp [readings])
    exact h.mono sub_le_sub_of_le hle
  | cons c rest ih =>
    cases c with
    | reset => exact ih (Stands.reset now l) hclock
    | check identity reading =>
      obtain ⟨hnow, hrest⟩ := List.pairwise_cons.mp hclock
      have hle : now ≤ reading := hnow reading (by simp [readings])
      exact ih ((h.mono sub_le_sub_of_le hle).check sub_le_sub_of_le identity) hrest

end Stands

/-- What a limiter says of the wait when it denies a call, and what becomes of the calls after it. -/
theorem check_wait {limits : Limits} {begin now : τ} {calls : List (Call τ)} {identity : String} {w : Window}
    {limit : Int} {retryAfter : τ} (hclock : (readings calls ++ [now]).Pairwise (· ≤ ·))
    (hdenied : (((start limits begin).run calls).2.check identity now).1 = .denied w limit retryAfter) :
    0 < retryAfter ∧ retryAfter ≤ ClockTime.seconds w.seconds ∧
      ∀ (between : List (Call τ)) (later : τ), (now :: (readings between ++ [later])).Pairwise (· ≤ ·) →
        Quiet identity ((((start limits begin).run calls).2.check identity now).2.run between).1 →
        DeniedUntil limits w (now + retryAfter) later
          (((((start limits begin).run calls).2.check identity now).2.run between).2.check identity later).1 := by
  have hlimits : ((start limits begin).run calls).2.limits = limits := run_limits _ calls
  -- Before the first call nothing was let through, whatever the clock shows.
  obtain ⟨first, hfirst⟩ : ∃ first, (first :: (readings calls ++ [now])).Pairwise (· ≤ ·) := by
    cases hreadings : readings calls ++ [now] with
    | nil => exact ⟨now, by simp⟩
    | cons t rest =>
      rw [hreadings] at hclock
      refine ⟨t, List.pairwise_cons.mpr ⟨?_, hclock⟩⟩
      exact List.forall_mem_cons.mpr ⟨le_refl t, (List.pairwise_cons.mp hclock).1⟩
  have hstands := (Stands.reset first (start limits begin)).run hfirst
  generalize hl : ((start limits begin).run calls).2 = l at hdenied hlimits ⊢
  have hstands : Stands now _ l := hl ▸ hstands
  obtain ⟨hpos, hle⟩ := hstands.wait_bounds hdenied
  refine ⟨hpos, hle, fun between later hlater hquiet => ?_⟩
  have hafter := hstands.check sub_le_sub_of_le identity
  have hlater' := (List.pairwise_cons.mp hlater).1 later (by simp)
  have hstands' := hafter.run hlater
  have hlimits' : ((l.check identity now).2.run between).2.limits = l.limits := by
    rw [run_limits, check_limits]
  rw [← hlimits]
  refine hstands.deniedUntil hdenied hlater' hstands' hlimits' ?_
  -- The denied call is not in the log, and no call behind it is.
  rw [hquiet.foldl_noted, hdenied]
  rfl

end Limiter

end Tabletop
