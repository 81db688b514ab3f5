import Tabletop.Proofs.Limiter.Run
import Tabletop.Proofs.Limiter.Table
import Mathlib.Data.Int.Order.Basic
import Mathlib.Order.Lattice

/-!
# A limiter decides like a plain log

A limiter forgets readings window by window, when it comes across them.  With readings that do not decrease its
decisions are still those of a log that forgets nothing (`check_follows_log`).  What carries the proof is `Tracks`: of
each queue only readings are missing that have left its window, and what has left a window never comes back.
-/

namespace Tabletop

namespace Limiter

variable {τ : Type} [LinearOrder τ] [Sub τ] [ClockTime τ]

/-- The readings of a log that still count in a window. -/
def counted (now : τ) (w : Window) (log : List τ) : List τ :=
  log.filter fun t => decide (now - ClockTime.seconds w.seconds < t)

/-! ### One queue -/

/-- What is missing from a queue has left its window. -/
def Keeps (now : τ) (w : Window) (queue log : List τ) : Prop :=
  ∃ gone, gone ++ queue = log ∧ ∀ t ∈ gone, t ≤ now - ClockTime.seconds w.seconds

theorem Keeps.nil (now : τ) (w : Window) : Keeps now w [] [] :=
  ⟨[], rfl, by simp⟩

theorem Keeps.mono (hsub : ∀ a b s : τ, a ≤ b → a - s ≤ b - s) {now later : τ} {w : Window} {queue log : List τ}
    (h : Keeps now w queue log) (hlater : now ≤ later) : Keeps later w queue log := by
  obtain ⟨gone, rfl, hgone⟩ := h
  exact ⟨gone, rfl, fun t ht => le_trans (hgone t ht) (hsub _ _ _ hlater)⟩

theorem Keeps.append {now : τ} {w : Window} {queue log : List τ} (h : Keeps now w queue log) (t : τ) :
    Keeps now w (queue ++ [t]) (log ++ [t]) := by
  obtain ⟨gone, rfl, hgone⟩ := h
  exact ⟨gone, by rw [List.append_assoc], hgone⟩

theorem Keeps.live {now : τ} {w : Window} {queue log : List τ} (h : Keeps now w queue log) :
    Keeps now w (live now w queue) log := by
  obtain ⟨gone, rfl, hgone⟩ := h
  let old : τ → Bool := fun t => decide (t ≤ now - ClockTime.seconds w.seconds)
  refine ⟨gone ++ queue.takeWhile old, ?_, ?_⟩
  · rw [List.append_assoc]
    exact congrArg (gone ++ ·) List.takeWhile_append_dropWhile
  · intro t ht
    rcases List.mem_append.mp ht with hgone' | hqueue
    · exact hgone t hgone'
    · have hold : old t = true := List.all_eq_true.mp List.all_takeWhile t hqueue
      exact of_decide_eq_true hold

/-- In a sorted queue what has left the window stands in front. -/
theorem live_eq_counted (now : τ) (w : Window) {queue : List τ} (h : queue.Pairwise (· ≤ ·)) :
    live now w queue = counted now w queue := by
  induction queue with
  | nil => rfl
  | cons t rest ih =>
    obtain ⟨ht, hrest⟩ := List.pairwise_cons.mp h
    unfold live counted at ih ⊢
    by_cases hold : t ≤ now - ClockTime.seconds w.seconds
    · rw [List.dropWhile_cons_of_pos (by simpa using hold), List.filter_cons_of_neg (by simpa using hold), ih hrest]
    · -- Nothing behind a reading that counts is older than it.
      have hkeep : ∀ u ∈ t :: rest, decide (now - ClockTime.seconds w.seconds < u) = true := by
        intro u hu
        rcases List.mem_cons.mp hu with rfl | hu
        · simpa using hold
        · simpa using lt_of_lt_of_le (not_le.mp hold) (ht u hu)
      rw [List.dropWhile_cons_of_neg (by simpa using hold), List.filter_eq_self.mpr hkeep]

theorem Keeps.live_eq {now : τ} {w : Window} {queue log : List τ} (h : Keeps now w queue log)
    (hlog : log.Pairwise (· ≤ ·)) : Limiter.live now w queue = counted now w log := by
  obtain ⟨gone, rfl, hgone⟩ := h
  have hnone : counted now w gone = [] := by
    unfold counted
    rw [List.filter_eq_nil_iff]
    intro t ht
    simpa using hgone t ht
  rw [live_eq_counted now w (List.pairwise_append.mp hlog).2.1]
  unfold counted at hnone ⊢
  rw [List.filter_append, hnone, List.nil_append]

/-! ### All queues -/

/-- Every queue of an enabled window keeps what counts of the log of its identity. -/
structure Tracks (limits : Limits) (now : τ) (log : String → List τ) (table : Table τ) : Prop where
  distinct : table.keys.Nodup
  keeps : ∀ identity, ∀ w ∈ limits.enabled, Keeps now w (table.queue identity w) (log identity)

namespace Tracks

variable {limits : Limits} {now : τ} {log : String → List τ} {table : Table τ}

theorem nil (limits : Limits) (now : τ) : Tracks limits now (fun _ => []) [] :=
  ⟨List.nodup_nil, fun _ w _ => Keeps.nil now w⟩

theorem mono (hsub : ∀ a b s : τ, a ≤ b → a - s ≤ b - s) {later : τ} (h : Tracks limits now log table)
    (hlater : now ≤ later) : Tracks limits later log table :=
  ⟨h.distinct, fun identity w hw => (h.keeps identity w hw).mono hsub hlater⟩

theorem put_live (h : Tracks limits now log table) (identity : String) (w : Window) :
    Tracks limits now log (table.put identity w (live now w (table.queue identity w))) := by
  refine ⟨Table.nodup_keys_put h.distinct identity w _, fun identity' w' hw' => ?_⟩
  by_cases hkey : identity' = identity ∧ w' = w
  · obtain ⟨rfl, rfl⟩ := hkey
    rw [Table.queue_put_self]
    exact (h.keeps identity' w' hw').live
  · rw [Table.queue_put_of_ne hkey]
    exact h.keeps identity' w' hw'

theorem sweepIfDue {l : Limiter τ} (h : Tracks limits now log l.table) :
    Tracks limits now log (l.sweepIfDue now).table := by
  unfold Limiter.sweepIfDue
  split
  · refine ⟨nodup_keys_sweep h.distinct now, fun identity w hw => ?_⟩
    rw [queue_sweep h.distinct]
    exact (h.keeps identity w hw).live
  · exact h

theorem record (h : Tracks limits now log table) (identity : String) :
    Tracks limits now (fun i => if i = identity then log i ++ [now] else log i)
      (table.record identity now limits.enabled) := by
  refine ⟨Table.nodup_keys_record h.distinct identity now _, fun identity' w hw => ?_⟩
  rw [Table.queue_record limits.nodup_enabled]
  by_cases hid : identity' = identity
  · simp only [hid, hw, and_self, if_true]
    exact (h.keeps identity w hw).append now
  · simp only [hid, false_and, if_false]
    exact h.keeps identity' w hw

variable [Add τ]

theorem survey (h : Tracks limits now log table) (identity : String) (ws : List Window) :
    Tracks limits now log (Limiter.survey limits identity now ws table).2 := by
  induction ws generalizing table with
  | nil => exact h
  | cons w rest ih =>
    have hput := h.put_live identity w
    unfold Limiter.survey
    simp only
    split
    · exact ih hput
    · split
      · exact hput
      · exact ih hput

theorem check {l : Limiter τ} (h : Tracks l.limits now log l.table) (identity : String) :
    Tracks l.limits now (fun i => noted i (log i) (.checked identity now (l.check identity now).1))
      (l.check identity now).2.table := by
  obtain ⟨decision, table, hsurvey, hdecision, -, htable⟩ := check_cases l identity now
  have hafter := h.sweepIfDue.survey identity l.limits.enabled
  rw [hsurvey] at hafter
  rw [htable, hdecision]
  cases decision with
  | allowed => exact hafter.record identity
  | denied window limit retryAfter => exact hafter

end Tracks

/-! ### Decisions -/

variable [Add τ]

/-- The limit of a window is above what counts in it. -/
def HasRoom (limits : Limits) (now : τ) (log : List τ) (w : Window) : Prop :=
  ((counted now w log).length : Int) < limits.of w

/-- What a log says about a row of windows: all have room, or the first that is full is named. -/
inductive Verdict (limits : Limits) (now : τ) (log : List τ) : List Window → Decision τ → Prop where
  | allowed {ws : List Window} (hroom : ∀ w ∈ ws, HasRoom limits now log w) : Verdict limits now log ws .allowed
  | denied {before after : List Window} {w : Window} {oldest : τ} {others : List τ}
      (hbefore : ∀ v ∈ before, HasRoom limits now log v) (hfull : ¬HasRoom limits now log w)
      (hcounted : counted now w log = oldest :: others) :
      Verdict limits now log (before ++ w :: after) (.denied w (limits.of w) (waiting now w oldest))

theorem Verdict.cons {limits : Limits} {now : τ} {log : List τ} {w : Window} {ws : List Window} {d : Decision τ}
    (hw : HasRoom limits now log w) (h : Verdict limits now log ws d) : Verdict limits now log (w :: ws) d := by
  cases h with
  | allowed hroom => exact .allowed (List.forall_mem_cons.mpr ⟨hw, hroom⟩)
  | denied hbefore hfull hcounted =>
    rw [← List.cons_append]
    exact .denied (List.forall_mem_cons.mpr ⟨hw, hbefore⟩) hfull hcounted

theorem Verdict.allowed_iff {limits : Limits} {now : τ} {log : List τ} {ws : List Window} {d : Decision τ}
    (h : Verdict limits now log ws d) : d = .allowed ↔ ∀ w ∈ ws, HasRoom limits now log w := by
  cases h with
  | allowed hroom => exact ⟨fun _ => hroom, fun _ => rfl⟩
  | @denied before after w oldest others hbefore hfull hcounted =>
    constructor
    · intro heq
      cases heq
    · intro hroom
      exact absurd (hroom w (by simp)) hfull

theorem waiting_eq_max (now : τ) (w : Window) (oldest : τ) :
    waiting now w oldest = max (ClockTime.seconds 0) (oldest + ClockTime.seconds w.seconds - now) := by
  unfold waiting
  simp only
  split
  · rename_i h
    exact (max_eq_right (le_of_lt h)).symm
  · rename_i h
    exact (max_eq_left (not_lt.mp h)).symm

/-- In a sorted log the oldest reading that counts is the first one. -/
theorem Verdict.exists_full {limits : Limits} {now : τ} {log : List τ} {ws : List Window} {d : Decision τ}
    (h : Verdict limits now log ws d) (hlog : log.Pairwise (· ≤ ·)) (hd : d ≠ .allowed) :
    ∃ before w after oldest, ws = before ++ w :: after ∧ (∀ v ∈ before, HasRoom limits now log v) ∧
      ¬HasRoom limits now log w ∧ oldest ∈ counted now w log ∧ (∀ t ∈ counted now w log, oldest ≤ t) ∧
      d = .denied w (limits.of w) (max (ClockTime.seconds 0) (oldest + ClockTime.seconds w.seconds - now)) := by
  cases h with
  | allowed hroom => exact absurd rfl hd
  | @denied before after w oldest others hbefore hfull hcounted =>
    have hsorted : (counted now w log).Pairwise (· ≤ ·) := hlog.filter _
    rw [hcounted] at hsorted
    refine ⟨before, w, after, oldest, rfl, hbefore, hfull, ?_, ?_, ?_⟩
    · rw [hcounted]
      exact List.mem_cons_self
    · rw [hcounted]
      exact List.forall_mem_cons.mpr ⟨le_refl oldest, (List.pairwise_cons.mp hsorted).1⟩
    · rw [waiting_eq_max]

theorem survey_verdict {limits : Limits} {now : τ} {log : String → List τ} {table : Table τ} {identity : String}
    {ws : List Window} (h : Tracks limits now log table) (hlog : (log identity).Pairwise (· ≤ ·))
    (hws : ∀ w ∈ ws, w ∈ limits.enabled) :
    Verdict limits now (log identity) ws (survey limits identity now ws table).1 := by
  induction ws generalizing table with
  | nil => exact .allowed (by simp)
  | cons w rest ih =>
    have hw : w ∈ limits.enabled := hws w List.mem_cons_self
    have hlive := (h.keeps identity w hw).live_eq hlog
    -- The rest of the survey works on the table in which the queue of `w` was cut.
    have hrest := ih (h.put_live identity w) (fun v hv => hws v (List.mem_cons_of_mem w hv))
    rw [hlive] at hrest
    unfold survey
    simp only [hlive]
    cases hcounted : counted now w (log identity) with
    | nil =>
      rw [hcounted] at hrest
      refine .cons ?_ hrest
      unfold HasRoom
      rw [hcounted]
      exact Limits.pos_of_mem_enabled hw
    | cons oldest others =>
      rw [hcounted] at hrest
      simp only
      split
      · rename_i hfull
        rw [← List.nil_append (w :: rest)]
        refine .denied (by simp) ?_ hcounted
        unfold HasRoom
        rw [hcounted]
        exact not_lt.mpr hfull
      · rename_i hroom
        refine .cons ?_ hrest
        unfold HasRoom
        rw [hcounted]
        exact not_le.mp hroom

theorem check_verdict {l : Limiter τ} {now : τ} {log : String → List τ} (h : Tracks l.limits now log l.table)
    {identity : String} (hlog : (log identity).Pairwise (· ≤ ·)) :
    Verdict l.limits now (log identity) l.limits.enabled (l.check identity now).1 := by
  obtain ⟨decision, table, hsurvey, hdecision, -, -⟩ := check_cases l identity now
  have hverdict := survey_verdict h.sweepIfDue hlog (fun _ hw => hw)
  rw [hsurvey] at hverdict
  rw [hdecision]
  exact hverdict

/-! ### Runs -/

theorem run_tracks (hsub : ∀ a b s : τ, a ≤ b → a - s ≤ b - s) {l : Limiter τ} (hl : l.table = [])
    {calls : List (Call τ)} {now : τ} (hclock : (readings calls ++ [now]).Pairwise (· ≤ ·)) :
    Tracks l.limits now (fun i => admitted i (l.run calls).1) (l.run calls).2.table := by
  -- The last call is taken off, as what was tracked before it is tracked at its own reading.
  induction calls using List.reverseRecOn generalizing now with
  | nil =>
    show Tracks l.limits now _ l.table
    rw [hl]
    exact .nil l.limits now
  | append_singleton calls c ih =>
    rw [run_snoc]
    simp only [admitted_snoc]
    rw [readings_append] at hclock
    cases c with
    | reset => exact .nil l.limits now
    | check identity reading =>
      obtain ⟨hcalls, -, hle⟩ := List.pairwise_append.mp hclock
      have hreading : reading ≤ now := hle reading (by simp [readings]) now (by simp)
      have hbefore := ih hcalls
      rw [← run_limits l calls] at hbefore
      have hafter := (hbefore.check identity).mono hsub hreading
      rw [run_limits] at hafter
      exact hafter

/-- Readings that do not decrease stand in the log in their order. -/
theorem admitted_sorted {l : Limiter τ} {calls : List (Call τ)} {now : τ} (identity : String)
    (hclock : (readings calls ++ [now]).Pairwise (· ≤ ·)) : (admitted identity (l.run calls).1).Pairwise (· ≤ ·) :=
  (List.pairwise_append.mp hclock).1.sublist (admitted_sublist l identity calls)

theorem run_verdict (hsub : ∀ a b s : τ, a ≤ b → a - s ≤ b - s) {l : Limiter τ} (hl : l.table = [])
    {calls : List (Call τ)} (identity : String) {now : τ} (hclock : (readings calls ++ [now]).Pairwise (· ≤ ·)) :
    Verdict l.limits now (admitted identity (l.run calls).1) l.limits.enabled
      ((l.run calls).2.check identity now).1 := by
  have htracks := run_tracks hsub hl hclock
  rw [← run_limits l calls] at htracks ⊢
  exact check_verdict htracks (admitted_sorted identity hclock)

theorem check_follows_log (hsub : ∀ a b s : τ, a ≤ b → a - s ≤ b - s) {limits : Limits} {begin : τ}
    {calls : List (Call τ)} {identity : String} {now : τ} (hclock : (readings calls ++ [now]).Pairwise (· ≤ ·)) :
    let log := admitted identity ((start limits begin).run calls).1
    let decision := (((start limits begin).run calls).2.check identity now).1
    (decision = .allowed ↔ ∀ w ∈ limits.enabled, ((counted now w log).length : Int) < limits.of w) ∧
      (decision ≠ .allowed →
        ∃ before w after oldest, limits.enabled = before ++ w :: after ∧
          (∀ v ∈ before, ((counted now v log).length : Int) < limits.of v) ∧
          limits.of w ≤ (counted now w log).length ∧
          oldest ∈ counted now w log ∧ (∀ t ∈ counted now w log, oldest ≤ t) ∧
          decision =
            .denied w (limits.of w) (max (ClockTime.seconds 0) (oldest + ClockTime.seconds w.seconds - now))) := by
  intro log decision
  have hverdict : Verdict limits now log limits.enabled decision :=
    run_verdict (l := start limits begin) hsub rfl identity hclock
  have hsorted : log.Pairwise (· ≤ ·) := admitted_sorted identity hclock
  refine ⟨hverdict.allowed_iff, fun hdenied => ?_⟩
  obtain ⟨before, w, after, oldest, hws, hbefore, hfull, hmem, hoverdue, heq⟩ := hverdict.exists_full hsorted hdenied
  exact ⟨before, w, after, oldest, hws, hbefore, not_lt.mp hfull, hmem, hoverdue, heq⟩

/-- Two identities, a reset between their calls, and a full minute at the end. -/
private def busyMinute : List (Call Int) :=
  [.check "a" 0, .reset, .check "a" 5, .check "b" 6, .check "a" 10, .check "a" 20]

theorem check_follows_log_busyMinute :
    (∀ a b s : Int, a ≤ b → a - s ≤ b - s) ∧ (readings busyMinute ++ [30]).Pairwise (· ≤ ·) ∧
      (((start ⟨2, 3, 0⟩ 0).run busyMinute).2.check "a" 30).1 = .denied .minute 2 35 ∧
      ((((start ⟨2, 3, 0⟩ 0).run busyMinute).2.check "a" 30).1 = .allowed ↔
        ∀ w ∈ (⟨2, 3, 0⟩ : Limits).enabled,
          ((counted 30 w (admitted "a" ((start ⟨2, 3, 0⟩ 0).run busyMinute).1)).length : Int) <
            (⟨2, 3, 0⟩ : Limits).of w) := by
  have hsub : ∀ a b s : Int, a ≤ b → a - s ≤ b - s := fun a b s h => Int.sub_le_sub_right h s
  have hclock : (readings busyMinute ++ [30]).Pairwise (· ≤ ·) := by decide
  exact ⟨hsub, hclock, rfl, (check_follows_log hsub hclock).1⟩

end Limiter

end Tabletop
