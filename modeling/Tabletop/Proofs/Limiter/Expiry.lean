import Tabletop.Proofs.Limiter.Run
import Mathlib.Data.List.DropRight

/-!
# What a check does to the queues

Before a check decides, readings leave queues: heads that are out of date, and nothing else (`Trims`).  An allowed check
finds every enabled window of its identity below its limit and records its reading there; a denied one records nothing
(`check_effect`).  No clock is assumed to run forward here.
-/

namespace Tabletop

namespace Limiter

variable {τ : Type} [Sub τ] [LE τ] [DecidableLE τ] [ClockTime τ]

theorem live_live (now : τ) (w : Window) (times : List τ) :
    live now w (live now w times) = live now w times :=
  List.dropWhile_idempotent _ times

/-- From one table to the other, queues have at most lost a head that was out of date. -/
structure Trims (now : τ) (table trimmed : Table τ) : Prop where
  distinct : trimmed.keys.Nodup
  queue : ∀ identity w, trimmed.queue identity w = table.queue identity w ∨
    trimmed.queue identity w = live now w (table.queue identity w)

namespace Trims

variable {now : τ} {table trimmed further : Table τ}

theorem refl (h : table.keys.Nodup) : Trims now table table := ⟨h, fun _ _ => .inl rfl⟩

theorem trans (h : Trims now table trimmed) (h' : Trims now trimmed further) : Trims now table further := by
  refine ⟨h'.distinct, fun identity w => ?_⟩
  rcases h'.queue identity w with h₂ | h₂
  · rw [h₂]
    exact h.queue identity w
  · rcases h.queue identity w with h₁ | h₁
    · rw [h₂, h₁]
      exact .inr rfl
    · rw [h₂, h₁, live_live]
      exact .inr rfl

/-- What is not out of date is the same before and after. -/
theorem live_queue (h : Trims now table trimmed) (identity : String) (w : Window) :
    live now w (trimmed.queue identity w) = live now w (table.queue identity w) := by
  rcases h.queue identity w with hq | hq
  · rw [hq]
  · rw [hq, live_live]

theorem queue_sublist (h : Trims now table trimmed) (identity : String) (w : Window) :
    (trimmed.queue identity w).Sublist (table.queue identity w) := by
  rcases h.queue identity w with hq | hq
  · rw [hq]
  · rw [hq]
    exact (live_suffix now w _).sublist

theorem put_live (h : table.keys.Nodup) (now : τ) (identity : String) (w : Window) :
    Trims now table (table.put identity w (live now w (table.queue identity w))) := by
  refine ⟨Table.nodup_keys_put h identity w _, fun identity' w' => ?_⟩
  by_cases hkey : identity' = identity ∧ w' = w
  · obtain ⟨rfl, rfl⟩ := hkey
    exact .inr (Table.queue_put_self identity' w' _ table)
  · exact .inl (Table.queue_put_of_ne hkey _ table)

theorem sweepIfDue {l : Limiter τ} (h : l.table.keys.Nodup) (now : τ) :
    Trims now l.table (l.sweepIfDue now).table := by
  unfold Limiter.sweepIfDue
  split
  · exact ⟨nodup_keys_sweep h now, fun identity w => .inr (queue_sweep h now identity w)⟩
  · exact .refl h

variable [Add τ] [LT τ] [DecidableLT τ]

theorem survey (h : table.keys.Nodup) (limits : Limits) (identity : String) (now : τ) (ws : List Window) :
    Trims now table (Limiter.survey limits identity now ws table).2 := by
  induction ws generalizing table with
  | nil => exact .refl h
  | cons w rest ih =>
    have hput := put_live h now identity w
    unfold Limiter.survey
    simp only
    split
    · exact hput.trans (ih hput.distinct)
    · split
      · exact hput
      · exact hput.trans (ih hput.distinct)

end Trims

/-! ### The survey -/

variable [Add τ] [LT τ] [DecidableLT τ]

/-- Queues of windows that are not looked at stay. -/
theorem queue_survey_of_not_mem {ws : List Window} {w : Window} (hw : w ∉ ws) (limits : Limits)
    (identity : String) (now : τ) (table : Table τ) :
    (survey limits identity now ws table).2.queue identity w = table.queue identity w := by
  induction ws generalizing table with
  | nil => rfl
  | cons v rest ih =>
    obtain ⟨hv, hrest⟩ : w ≠ v ∧ w ∉ rest := List.ne_and_not_mem_of_not_mem_cons hw
    have hne : ¬(identity = identity ∧ w = v) := fun heq => hv heq.2
    have hput := Table.queue_put_of_ne hne (live now v (table.queue identity v)) table
    unfold survey
    simp only
    split
    · rw [ih hrest, hput]
    · split
      · exact hput
      · rw [ih hrest, hput]

/-- A survey that allows has cut the queue of every window to what is not out of date, and found it below its limit. -/
theorem queue_survey_of_allowed {limits : Limits} {identity : String} {now : τ} {ws : List Window} {table : Table τ}
    (hws : ws.Nodup) (hpos : ∀ w ∈ ws, 0 < limits.of w)
    (h : (survey limits identity now ws table).1 = .allowed) :
    ∀ w ∈ ws, (survey limits identity now ws table).2.queue identity w = live now w (table.queue identity w) ∧
      ((live now w (table.queue identity w)).length : Int) < limits.of w := by
  induction ws generalizing table with
  | nil => simp
  | cons v rest ih =>
    obtain ⟨hv, hrest⟩ := List.nodup_cons.mp hws
    obtain ⟨hposv, hposrest⟩ := List.forall_mem_cons.mp hpos
    -- The rest of the survey works on the table in which the queue of `v` was cut, and leaves this queue as it is.
    have hfirst : ∀ cut, cut = table.put identity v (live now v (table.queue identity v)) →
        ((live now v (table.queue identity v)).length : Int) < limits.of v →
        (survey limits identity now rest cut).1 = .allowed →
        ∀ w ∈ v :: rest, (survey limits identity now rest cut).2.queue identity w =
            live now w (table.queue identity w) ∧ ((live now w (table.queue identity w)).length : Int) < limits.of w := by
      rintro cut rfl hroom hallowed w hw
      rcases List.mem_cons.mp hw with rfl | hw
      · exact ⟨(queue_survey_of_not_mem hv limits identity now _).trans (Table.queue_put_self identity w _ table), hroom⟩
      · have hih := ih hrest hposrest hallowed w hw
        have hne : ¬(identity = identity ∧ w = v) := fun heq => hv (heq.2 ▸ hw)
        rw [Table.queue_put_of_ne hne] at hih
        exact hih
    unfold survey at h ⊢
    simp only at h ⊢
    split at h
    · rename_i hlive
      refine hfirst _ rfl ?_ h
      rw [hlive]
      exact hposv
    · split at h
      · cases h
      · rename_i hroom
        rw [if_neg hroom]
        exact hfirst _ rfl (Int.not_le.mp hroom) h

/-! ### The check -/

/-- All that a check can do to the queues. -/
theorem check_effect {l : Limiter τ} (h : l.table.keys.Nodup) (identity : String) (now : τ) :
    ∃ trimmed, Trims now l.table trimmed ∧
      match (l.check identity now).1 with
      | .denied _ _ _ => (l.check identity now).2.table = trimmed
      | .allowed =>
        (∀ w ∈ l.limits.enabled, trimmed.queue identity w = live now w (l.table.queue identity w) ∧
          ((trimmed.queue identity w).length : Int) < l.limits.of w) ∧
        (l.check identity now).2.table = trimmed.record identity now l.limits.enabled := by
  obtain ⟨decision, table, hsurvey, hdecision, -, htable⟩ := check_cases l identity now
  have hswept := Trims.sweepIfDue h now
  have htrims := hswept.trans (Trims.survey hswept.distinct l.limits identity now l.limits.enabled)
  rw [hsurvey] at htrims
  refine ⟨table, htrims, ?_⟩
  rw [hdecision, htable]
  cases decision with
  | denied window limit retryAfter => rfl
  | allowed =>
    refine ⟨fun w hw => ?_, rfl⟩
    have hqueue := queue_survey_of_allowed l.limits.nodup_enabled (fun _ hv => Limits.pos_of_mem_enabled hv)
      (congrArg Prod.fst hsurvey) w hw
    rw [hsurvey, hswept.live_queue] at hqueue
    exact ⟨hqueue.1, by rw [hqueue.1]; exact hqueue.2⟩

end Limiter

end Tabletop
