import Tabletop.Proofs.Limiter.Run
import Mathlib.Algebra.Order.Group.Int
import Mathlib.Algebra.Order.Group.Unbundled.Basic

/-!
# Idle callers are forgotten

A denied check leaves queues behind, empty ones among them, and only a sweep removes a queue.  Sweeps come with the checks of
whatever identity, and a reset does not put them off.  What carries the proof is `Fresh`: a queue that stays through a sweep
holds a reading of the window that ended with it, and a queue that is made later belongs to an identity that was checked later.
So after a check everybody in the table was checked recently (`keys_recent`).
-/

namespace Tabletop

namespace Limiter

variable {τ : Type}

section

variable [LinearOrder τ] [Sub τ] [ClockTime τ]

/-- A queue of an enabled window with readings of its identity, which was checked in the window that ends with `swept` or
later. -/
structure Fresh (limits : Limits) (calls : List (Call τ)) (swept : τ) (q : Queue τ) : Prop where
  enabled : q.window ∈ limits.enabled
  times : ∀ t ∈ q.times, .check q.identity t ∈ calls
  recent : ∃ t, .check q.identity t ∈ calls ∧ swept - ClockTime.seconds q.window.seconds < t

variable {limits : Limits} {calls : List (Call τ)} {swept now : τ} {table : Table τ} {identity : String}

theorem Fresh.mono {q : Queue τ} (h : Fresh limits calls swept q) (more : List (Call τ)) :
    Fresh limits (calls ++ more) swept q := by
  obtain ⟨t, ht, hrecent⟩ := h.recent
  exact ⟨h.enabled, fun t ht => List.mem_append_left more (h.times t ht), t, List.mem_append_left more ht, hrecent⟩

/-! ### Sweeping -/

/-- What is left begins with a reading that is not out of date. -/
theorem exists_mem_live {w : Window} {times : List τ} (h : live now w times ≠ []) :
    ∃ t ∈ live now w times, now - ClockTime.seconds w.seconds < t := by
  have hhead := List.head?_dropWhile_not (fun t => decide (t ≤ now - ClockTime.seconds w.seconds)) times
  cases hlive : live now w times with
  | nil => exact absurd hlive h
  | cons t rest =>
    unfold live at hlive
    rw [hlive] at hhead
    exact ⟨t, List.mem_cons_self, not_le.mp (of_decide_eq_false hhead)⟩

/-- A queue that stays is one of the table, cut to its readings that are not out of date. -/
theorem fresh_sweep {l : Limiter τ} (h : ∀ q ∈ l.table, Fresh limits calls swept q) :
    ∀ q ∈ (l.sweep now).table, Fresh limits calls now q := by
  intro q' hq'
  obtain ⟨q, hq, hremains⟩ := List.mem_filterMap.mp hq'
  obtain ⟨henabled, htimes, -⟩ := h q hq
  unfold remaining? at hremains
  split at hremains
  · cases hremains
  · rename_i hlive
    cases hremains
    have hcalls : ∀ t ∈ live now q.window q.times, .check q.identity t ∈ calls :=
      fun t ht => htimes t ((live_suffix now q.window q.times).subset ht)
    obtain ⟨t, ht, hrecent⟩ := exists_mem_live hlive
    exact ⟨henabled, hcalls, t, hcalls t ht, hrecent⟩

/-! ### Putting and recording -/

/-- The queue that a check puts belongs to the identity that is checked. -/
theorem fresh_put (h : ∀ q ∈ table, Fresh limits calls swept q) {w : Window} (hw : w ∈ limits.enabled)
    (hcall : .check identity now ∈ calls) (hswept : swept - ClockTime.seconds w.seconds < now) {times : List τ}
    (htimes : ∀ t ∈ times, .check identity t ∈ calls) : ∀ q ∈ table.put identity w times, Fresh limits calls swept q := by
  intro q hq
  rcases Table.mem_put hq with rfl | hq
  · exact ⟨hw, htimes, now, hcall, hswept⟩
  · exact h q hq

theorem check_mem_of_mem_queue (h : ∀ q ∈ table, Fresh limits calls swept q) {w : Window} {t : τ}
    (ht : t ∈ table.queue identity w) : .check identity t ∈ calls := by
  obtain ⟨q, hq, rfl, hmem⟩ := Table.exists_of_mem_queue ht
  exact (h q hq).times t hmem

variable (hcall : .check identity now ∈ calls)
  (hswept : ∀ w : Window, swept - ClockTime.seconds w.seconds < now)

include hcall hswept

theorem fresh_record (h : ∀ q ∈ table, Fresh limits calls swept q) {ws : List Window} (hws : ∀ w ∈ ws, w ∈ limits.enabled) :
    ∀ q ∈ table.record identity now ws, Fresh limits calls swept q := by
  induction ws generalizing table with
  | nil => exact h
  | cons w rest ih =>
    obtain ⟨hw, hrest⟩ := List.forall_mem_cons.mp hws
    have htimes : ∀ t ∈ table.queue identity w ++ [now], .check identity t ∈ calls :=
      List.forall_mem_append.mpr ⟨fun t ht => check_mem_of_mem_queue h ht, List.forall_mem_singleton.mpr hcall⟩
    exact ih (fresh_put h hw hcall (hswept w) htimes) hrest

variable [Add τ]

theorem fresh_survey (h : ∀ q ∈ table, Fresh limits calls swept q) {ws : List Window} (hws : ∀ w ∈ ws, w ∈ limits.enabled) :
    ∀ q ∈ (survey limits identity now ws table).2, Fresh limits calls swept q := by
  induction ws generalizing table with
  | nil => exact h
  | cons w rest ih =>
    obtain ⟨hw, hrest⟩ := List.forall_mem_cons.mp hws
    have hlive : ∀ t ∈ live now w (table.queue identity w), .check identity t ∈ calls :=
      fun t ht => check_mem_of_mem_queue h ((live_suffix now w _).subset ht)
    have hput := fresh_put h hw hcall (hswept w) hlive
    unfold survey
    simp only
    split
    · exact ih hput hrest
    · split
      · exact hput
      · exact ih hput hrest

end

/-! ### Checks -/

section

variable [Add τ] [Sub τ] [LE τ] [LT τ] [DecidableLE τ] [DecidableLT τ] [ClockTime τ]

theorem check_lastSweep (l : Limiter τ) (identity : String) (now : τ) :
    (l.check identity now).2.lastSweep = (l.sweepIfDue now).lastSweep := by
  unfold check
  simp only
  split <;> rfl

omit [Add τ] [LT τ] [DecidableLT τ] in
theorem lastSweep_sweepIfDue (l : Limiter τ) (now : τ) :
    (l.sweepIfDue now).lastSweep = now ∨ (l.sweepIfDue now).lastSweep = l.lastSweep := by
  unfold sweepIfDue
  split
  · exact .inl rfl
  · exact .inr rfl

end

section

variable [AddCommGroup τ] [LinearOrder τ] [IsOrderedAddMonoid τ] [ClockTime τ]
variable (hseconds : ∀ n : Nat, 0 < n → (0 : τ) < ClockTime.seconds n)

include hseconds

/-- A check that finds the last sweep long ago sweeps itself. -/
theorem lastSweep_bounds {l : Limiter τ} {now : τ} (hnow : l.lastSweep ≤ now) :
    (l.sweepIfDue now).lastSweep ≤ now ∧ now - ClockTime.seconds sweepInterval < (l.sweepIfDue now).lastSweep := by
  unfold sweepIfDue
  split
  · exact ⟨le_refl now, sub_lt_self now (hseconds sweepInterval (by decide))⟩
  · rename_i hdue
    exact ⟨hnow, sub_lt_comm.mp (not_le.mp hdue)⟩

theorem fresh_check {l : Limiter τ} {calls : List (Call τ)} (identity : String) {now : τ} (hnow : l.lastSweep ≤ now)
    (h : ∀ q ∈ l.table, Fresh l.limits calls l.lastSweep q) :
    ∀ q ∈ (l.check identity now).2.table,
      Fresh l.limits (calls ++ [.check identity now]) (l.check identity now).2.lastSweep q := by
  obtain ⟨decision, table, hsurvey, -, -, htable⟩ := check_cases l identity now
  have hcall : .check identity now ∈ calls ++ [.check identity now] := List.mem_append_right calls List.mem_cons_self
  have hspan : ∀ w : Window, (l.sweepIfDue now).lastSweep - ClockTime.seconds w.seconds < now := by
    intro w
    have hpos : (0 : τ) < ClockTime.seconds w.seconds := hseconds _ (by cases w <;> decide)
    exact (sub_lt_self _ hpos).trans_le (lastSweep_bounds hseconds hnow).1
  -- The sweep comes first: it judges the table by the calls so far, and the new one is added to them afterwards.
  have hswept : ∀ q ∈ (l.sweepIfDue now).table,
      Fresh l.limits (calls ++ [.check identity now]) (l.sweepIfDue now).lastSweep q := by
    intro q hq
    unfold sweepIfDue at hq ⊢
    split at hq
    · rename_i hdue
      rw [if_pos hdue]
      exact (fresh_sweep h q hq).mono _
    · rename_i hdue
      rw [if_neg hdue]
      exact (h q hq).mono _
  have hsurveyed := fresh_survey hcall hspan hswept (fun w hw => hw)
  rw [hsurvey] at hsurveyed
  rw [check_lastSweep, htable]
  cases decision with
  | denied window limit retryAfter => exact hsurveyed
  | allowed => exact fresh_record hcall hspan hsurveyed (fun w hw => hw)

/-! ### Runs -/

theorem run_fresh {limits : Limits} {first : τ} {calls : List (Call τ)}
    (hclock : (first :: readings calls).Pairwise (· ≤ ·)) :
    ((start limits first).run calls).2.lastSweep ∈ first :: readings calls ∧
      ∀ q ∈ ((start limits first).run calls).2.table,
        Fresh limits calls ((start limits first).run calls).2.lastSweep q := by
  induction calls using List.reverseRecOn with
  | nil => exact ⟨List.mem_cons_self, fun q hq => absurd hq List.not_mem_nil⟩
  | append_singleton calls c ih =>
    rw [readings_append, ← List.cons_append] at hclock
    obtain ⟨hcalls, -, hle⟩ := List.pairwise_append.mp hclock
    obtain ⟨hmem, hfresh⟩ := ih hcalls
    rw [run_snoc, readings_append, ← List.cons_append]
    cases c with
    | reset => exact ⟨List.mem_append_left _ hmem, fun q hq => absurd hq List.not_mem_nil⟩
    | check identity now =>
      have hlimits : ((start limits first).run calls).2.limits = limits := run_limits (start limits first) calls
      have hnow := hle _ hmem now (by simp [readings])
      refine ⟨?_, ?_⟩
      · show (((start limits first).run calls).2.check identity now).2.lastSweep ∈ _
        rw [check_lastSweep]
        rcases lastSweep_sweepIfDue ((start limits first).run calls).2 now with heq | heq
        · rw [heq]
          exact List.mem_append_right _ (by simp [readings])
        · rw [heq]
          exact List.mem_append_left _ hmem
      · have hafter := fresh_check hseconds identity hnow (by rw [hlimits]; exact hfresh)
        rw [hlimits] at hafter
        exact hafter

/-- A check leaves no sweep that is long ago. -/
theorem lt_lastSweep {limits : Limits} {first : τ} {calls : List (Call τ)} {identity : String} {now : τ}
    (hclock : (first :: readings (calls ++ [.check identity now])).Pairwise (· ≤ ·)) :
    now - ClockTime.seconds sweepInterval < ((start limits first).run (calls ++ [.check identity now])).2.lastSweep := by
  rw [readings_append, ← List.cons_append] at hclock
  obtain ⟨hcalls, -, hle⟩ := List.pairwise_append.mp hclock
  have hnow : ((start limits first).run calls).2.lastSweep ≤ now :=
    hle _ (run_fresh hseconds hcalls).1 now (by simp [readings])
  rw [run_snoc]
  show _ < (((start limits first).run calls).2.check identity now).2.lastSweep
  rw [check_lastSweep]
  exact (lastSweep_bounds hseconds hnow).2

/-- Seconds are exact, and readings do not decrease from the one at the start on.  After every check each key of the table
belongs to an enabled window and to an identity that was checked less than this window and a sweep interval ago; so whoever
was silent for longer is not in the table, however its last checks ended. -/
theorem keys_recent {limits : Limits} {first : τ} {calls : List (Call τ)} {identity : String} {now : τ}
    (hclock : (first :: readings (calls ++ [.check identity now])).Pairwise (· ≤ ·)) :
    let run := calls ++ [.check identity now]
    let keys := ((start limits first).run run).2.table.keys
    (∀ key ∈ keys, key.2 ∈ limits.enabled ∧ ∃ t, .check key.1 t ∈ run ∧
        now - ClockTime.seconds key.2.seconds - ClockTime.seconds sweepInterval < t) ∧
      ∀ silent w, (∀ t, .check silent t ∈ run →
          t ≤ now - ClockTime.seconds w.seconds - ClockTime.seconds sweepInterval) → (silent, w) ∉ keys := by
  intro run keys
  have hrecent : ∀ key ∈ keys, key.2 ∈ limits.enabled ∧ ∃ t, .check key.1 t ∈ run ∧
      now - ClockTime.seconds key.2.seconds - ClockTime.seconds sweepInterval < t := by
    intro key hkey
    obtain ⟨q, hq, rfl⟩ := List.mem_map.mp hkey
    obtain ⟨henabled, -, t, ht, hrecent⟩ := (run_fresh hseconds hclock).2 q hq
    refine ⟨henabled, t, ht, lt_trans ?_ hrecent⟩
    rw [sub_right_comm]
    exact sub_lt_sub_right (lt_lastSweep hseconds hclock) _
  refine ⟨hrecent, fun silent w hsilent hkey => ?_⟩
  obtain ⟨-, t, ht, hlt⟩ := hrecent (silent, w) hkey
  exact absurd (hsilent t ht) (not_le.mpr hlt)

end

/-- The second check is denied by the hour and leaves an empty queue for the minute. -/
private def denied : List (Call Int) := [.check "a" 0, .check "a" 100]

theorem keys_recent_denied :
    (∀ n : Nat, 0 < n → (0 : Int) < ClockTime.seconds n) ∧
      (0 :: readings (denied ++ [.check "b" 3760])).Pairwise (· ≤ ·) ∧
      ((start ⟨2, 1, 0⟩ 0).run denied).2.table.keys = [("a", .hour), ("a", .minute)] ∧
      (∀ t : Int, .check "a" t ∈ denied ++ [.check "b" 3760] → t ≤ 100) ∧
      ("a", Window.hour) ∉ ((start ⟨2, 1, 0⟩ 0).run (denied ++ [.check "b" 3760])).2.table.keys ∧
      ∀ key ∈ ((start ⟨2, 1, 0⟩ 0).run (denied ++ [.check "b" 3760])).2.table.keys,
        key.2 ∈ (⟨2, 1, 0⟩ : Limits).enabled ∧ ∃ t : Int, .check key.1 t ∈ denied ++ [.check "b" 3760] ∧
          3760 - ClockTime.seconds key.2.seconds - ClockTime.seconds sweepInterval < t := by
  have hseconds : ∀ n : Nat, 0 < n → (0 : Int) < ClockTime.seconds n := fun n hn => Int.natCast_pos.mpr hn
  have hclock : ((0 : Int) :: readings (denied ++ [.check "b" 3760])).Pairwise (· ≤ ·) := by decide
  have hsilent : ∀ t : Int, .check "a" t ∈ denied ++ [.check "b" 3760] → t ≤ 100 := by
    intro t ht
    have hcases : t = 0 ∨ t = 100 := by simpa [denied] using ht
    omega
  exact ⟨hseconds, hclock, by decide +kernel, hsilent, (keys_recent hseconds hclock).2 "a" .hour hsilent,
    (keys_recent hseconds hclock).1⟩

end Limiter

end Tabletop
