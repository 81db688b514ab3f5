import Tabletop.Proofs.Limiter.Expiry
import Tabletop.Proofs.Limiter.Log

/-!
# Limits hold whatever the clock does

Callers may read the clock before they are served, so the readings of a run need not be in order, and queues need not be
sorted.  A limiter then still admits no more than a limit allows (`admitted_newest_le_limit`).  What carries the proof
is `Covers`: with `newest` the largest reading so far, no reading after `newest - span` has ever left its queue, for
everything that leaves a queue is as old as the span before some reading; and no queue is longer than its limit.
-/

namespace Tabletop

namespace Limiter

variable {τ : Type} [LinearOrder τ] [Sub τ] [ClockTime τ]

/-! ### What counts of a log -/

theorem counted_append (now : τ) (w : Window) (log more : List τ) :
    counted now w (log ++ more) = counted now w log ++ counted now w more :=
  List.filter_append log more

theorem counted_sublist (now : τ) (w : Window) (log : List τ) : (counted now w log).Sublist log :=
  List.filter_sublist

theorem counted_counted (now : τ) (w : Window) (log : List τ) :
    counted now w (counted now w log) = counted now w log := by
  unfold counted
  rw [List.filter_filter]
  simp only [Bool.and_self]

/-- The later it is, the less counts. -/
theorem counted_sublist_of_le (hsub : ∀ a b s : τ, a ≤ b → a - s ≤ b - s) {now later : τ} (h : now ≤ later)
    (w : Window) (log : List τ) : (counted later w log).Sublist (counted now w log) := by
  unfold counted
  apply List.monotone_filter_right
  intro t ht
  have hlater : later - ClockTime.seconds w.seconds < t := of_decide_eq_true ht
  exact decide_eq_true (lt_of_le_of_lt (hsub _ _ _ h) hlater)

/-- What leaves a queue does not count at that reading, nor at a later one. -/
theorem counted_live (hsub : ∀ a b s : τ, a ≤ b → a - s ≤ b - s) {now later : τ} (h : now ≤ later) (w : Window)
    (queue : List τ) : counted later w (live now w queue) = counted later w queue := by
  let old : τ → Bool := fun t => decide (t ≤ now - ClockTime.seconds w.seconds)
  have hsplit : queue.takeWhile old ++ live now w queue = queue := List.takeWhile_append_dropWhile
  have hgone : counted later w (queue.takeWhile old) = [] := by
    unfold counted
    rw [List.filter_eq_nil_iff]
    intro t ht
    have hold : t ≤ now - ClockTime.seconds w.seconds :=
      of_decide_eq_true (List.all_eq_true.mp List.all_takeWhile t ht)
    simpa using le_trans hold (hsub _ _ _ h)
  conv => rhs; rw [← hsplit]
  rw [counted_append, hgone, List.nil_append]

/-! ### The invariant -/

/-- What is new enough in a log stands in its queue, and queues are within their limits. -/
structure Covers (limits : Limits) (newest : τ) (log : String → List τ) (table : Table τ) : Prop where
  distinct : table.keys.Nodup
  holds : ∀ identity, ∀ w ∈ limits.enabled, (counted newest w (log identity)).Sublist (table.queue identity w)
  short : ∀ identity, ∀ w ∈ limits.enabled, ((table.queue identity w).length : Int) ≤ limits.of w

namespace Covers

variable {limits : Limits} {newest now : τ} {log : String → List τ} {table trimmed : Table τ}

theorem nil (limits : Limits) (newest : τ) : Covers limits newest (fun _ => []) [] :=
  ⟨List.nodup_nil, fun _ _ _ => List.Sublist.refl _, fun _ _ hw => Int.le_of_lt (Limits.pos_of_mem_enabled hw)⟩

theorem mono (hsub : ∀ a b s : τ, a ≤ b → a - s ≤ b - s) {later : τ} (h : Covers limits newest log table)
    (hlater : newest ≤ later) : Covers limits later log table :=
  ⟨h.distinct, fun identity w hw => (counted_sublist_of_le hsub hlater w _).trans (h.holds identity w hw), h.short⟩

/-- A reading that is not the newest cuts nothing that is new enough. -/
theorem trims (hsub : ∀ a b s : τ, a ≤ b → a - s ≤ b - s) (h : Covers limits newest log table) (hnow : now ≤ newest)
    (htrims : Trims now table trimmed) : Covers limits newest log trimmed := by
  refine ⟨htrims.distinct, fun identity w hw => ?_, fun identity w hw => ?_⟩
  · have hcounted : counted newest w (trimmed.queue identity w) = counted newest w (table.queue identity w) := by
      rcases htrims.queue identity w with hq | hq
      · rw [hq]
      · rw [hq, counted_live hsub hnow]
    rw [← counted_counted]
    refine List.Sublist.trans ?_ (counted_sublist newest w _)
    rw [hcounted]
    exact (h.holds identity w hw).filter _
  · have hlength := (htrims.queue_sublist identity w).length_le
    have hshort := h.short identity w hw
    omega

theorem record (h : Covers limits newest log table) (identity : String) (now : τ)
    (hroom : ∀ w ∈ limits.enabled, ((table.queue identity w).length : Int) < limits.of w) :
    Covers limits newest (fun i => if i = identity then log i ++ [now] else log i)
      (table.record identity now limits.enabled) := by
  refine ⟨Table.nodup_keys_record h.distinct identity now _, fun identity' w hw => ?_, fun identity' w hw => ?_⟩
  · rw [Table.queue_record limits.nodup_enabled]
    by_cases hid : identity' = identity
    · simp only [hid, hw, and_self, if_true]
      rw [counted_append]
      exact (h.holds identity w hw).append (counted_sublist newest w [now])
    · simp only [hid, false_and, if_false]
      exact h.holds identity' w hw
  · rw [Table.queue_record limits.nodup_enabled]
    by_cases hid : identity' = identity
    · simp only [hid, hw, and_self, if_true]
      rw [List.length_append, List.length_singleton]
      have hlength := hroom w hw
      omega
    · simp only [hid, false_and, if_false]
      exact h.short identity' w hw

theorem length_counted_le (h : Covers limits newest log table) (identity : String) {w : Window}
    (hw : w ∈ limits.enabled) : ((counted newest w (log identity)).length : Int) ≤ limits.of w := by
  have hlength := (h.holds identity w hw).length_le
  have hshort := h.short identity w hw
  omega

variable [Add τ]

theorem check (hsub : ∀ a b s : τ, a ≤ b → a - s ≤ b - s) {l : Limiter τ} (h : Covers l.limits newest log l.table)
    (identity : String) (hnow : now ≤ newest) :
    Covers l.limits newest (fun i => noted i (log i) (.checked identity now (l.check identity now).1))
      (l.check identity now).2.table := by
  obtain ⟨trimmed, htrims, heffect⟩ := check_effect h.distinct identity now
  have hafter := h.trims hsub hnow htrims
  revert heffect
  cases (l.check identity now).1 with
  | denied window limit retryAfter =>
    intro htable
    rw [htable]
    exact hafter
  | allowed =>
    rintro ⟨hqueues, htable⟩
    rw [htable]
    exact hafter.record identity now fun w hw => (hqueues w hw).2

end Covers

/-! ### Runs -/

variable [Add τ]

theorem run_covers (hsub : ∀ a b s : τ, a ≤ b → a - s ≤ b - s) {l : Limiter τ} (hl : l.table = []) {newest : τ}
    {calls : List (Call τ)} (hnewest : ∀ t ∈ readings calls, t ≤ newest) :
    Covers l.limits newest (fun i => admitted i (l.run calls).1) (l.run calls).2.table := by
  induction calls using List.reverseRecOn with
  | nil =>
    show Covers l.limits newest _ l.table
    rw [hl]
    exact .nil l.limits newest
  | append_singleton calls c ih =>
    rw [run_snoc]
    simp only [admitted_snoc]
    rw [readings_append, List.forall_mem_append] at hnewest
    cases c with
    | reset => exact .nil l.limits newest
    | check identity reading =>
      have hbefore := ih hnewest.1
      rw [← run_limits l calls] at hbefore
      have hafter := hbefore.check hsub identity (hnewest.2 reading (by simp [readings]))
      rw [run_limits] at hafter
      exact hafter

/-- With readings in any order, of the allowed checks of an identity since the last reset no more than the limit are
newer than the span of the window before the newest reading. -/
theorem admitted_newest_le_limit (hsub : ∀ a b s : τ, a ≤ b → a - s ≤ b - s) {limits : Limits} {begin newest : τ}
    {calls : List (Call τ)} (hnewest : ∀ t ∈ readings calls, t ≤ newest) (identity : String) {w : Window}
    (hw : w ∈ limits.enabled) :
    ((counted newest w (admitted identity ((start limits begin).run calls).1)).length : Int) ≤ limits.of w :=
  (run_covers (l := start limits begin) hsub rfl hnewest).length_counted_le identity hw

/-- Readings out of order, with a sweep that another identity causes and queues that are not sorted. -/
private def shuffled : List (Call Int) :=
  [.check "a" 100, .check "a" 30, .check "a" 95, .check "b" 160, .check "a" 140, .check "a" 150, .check "a" 161]

theorem admitted_newest_le_limit_shuffled :
    (∀ a b s : Int, a ≤ b → a - s ≤ b - s) ∧ (∀ t ∈ readings shuffled, t ≤ 161) ∧
      Window.minute ∈ (⟨2, 0, 0⟩ : Limits).enabled ∧
      admitted "a" ((start ⟨2, 0, 0⟩ 0).run shuffled).1 = [100, 30, 140, 150] ∧
      ((counted 161 .minute (admitted "a" ((start ⟨2, 0, 0⟩ 0).run shuffled).1)).length : Int) ≤
        (⟨2, 0, 0⟩ : Limits).of .minute := by
  have hsub : ∀ a b s : Int, a ≤ b → a - s ≤ b - s := fun a b s h => Int.sub_le_sub_right h s
  have hnewest : ∀ t ∈ readings shuffled, t ≤ 161 := by decide
  have hw : Window.minute ∈ (⟨2, 0, 0⟩ : Limits).enabled := by decide
  exact ⟨hsub, hnewest, hw, rfl, admitted_newest_le_limit hsub hnewest "a" hw⟩

end Limiter

end Tabletop
