import Tabletop.Limiter.Basic

/-!
# The queues of a table

What putting, recording and sweeping do to the queue of an identity in a window.  A table that arises in a run has at
most one queue for each of them: its keys are distinct.  Sweeping needs this, since the queue that is found would
otherwise be another one as soon as the first is swept away.
-/

namespace Tabletop

namespace Table

variable {τ : Type}

def keys (table : Table τ) : List (String × Window) := table.map fun q => (q.identity, q.window)

/-! ### Putting -/

theorem queue_put_self (identity : String) (window : Window) (times : List τ) (table : Table τ) :
    (put identity window times table).queue identity window = times := by
  unfold queue
  rw [times?_put_self, Option.getD_some]

theorem queue_put_of_ne {identity identity' : String} {window window' : Window}
    (h : ¬(identity' = identity ∧ window' = window)) (times : List τ) (table : Table τ) :
    (put identity window times table).queue identity' window' = table.queue identity' window' := by
  unfold queue
  rw [times?_put_of_ne h]

theorem mem_keys_put {identity : String} {window : Window} {times : List τ} {table : Table τ}
    {key : String × Window} :
    key ∈ (put identity window times table).keys ↔ key = (identity, window) ∨ key ∈ table.keys := by
  induction table with
  | nil => simp [put, keys]
  | cons q rest ih =>
    unfold put
    split
    · rename_i hq
      simp [keys, hq.1, hq.2]
    · unfold keys at ih ⊢
      rw [List.map_cons, List.mem_cons, ih, List.map_cons, List.mem_cons]
      exact or_left_comm

/-- A queue of the new table is the one that was put or one of the old table. -/
theorem mem_put {identity : String} {window : Window} {times : List τ} {table : Table τ} {q : Queue τ}
    (h : q ∈ put identity window times table) : q = ⟨identity, window, times⟩ ∨ q ∈ table := by
  induction table with
  | nil => exact .inl (List.mem_singleton.mp h)
  | cons first rest ih =>
    unfold put at h
    split at h
    · exact (List.mem_cons.mp h).imp_right (List.mem_cons_of_mem first)
    · rcases List.mem_cons.mp h with rfl | h
      · exact .inr List.mem_cons_self
      · exact (ih h).imp_right (List.mem_cons_of_mem first)

theorem nodup_keys_put {table : Table τ} (h : table.keys.Nodup) (identity : String) (window : Window)
    (times : List τ) : (put identity window times table).keys.Nodup := by
  induction table with
  | nil => simp [put, keys]
  | cons q rest ih =>
    have hcons : (q.identity, q.window) ∉ keys rest ∧ (keys rest).Nodup := List.nodup_cons.mp h
    unfold put
    split
    · rename_i hq
      rw [hq.1, hq.2] at hcons
      exact List.nodup_cons.mpr hcons
    · rename_i hq
      refine List.nodup_cons.mpr ⟨fun hmem => ?_, ih hcons.2⟩
      rcases mem_keys_put.mp hmem with heq | hrest
      · exact hq (Prod.mk.inj heq)
      · exact hcons.1 hrest

/-! ### Looking a key up -/

theorem queue_cons_self (q : Queue τ) (rest : Table τ) :
    queue (q :: rest) q.identity q.window = q.times := by
  simp [queue, times?]

theorem queue_cons_of_ne {q : Queue τ} {identity : String} {window : Window}
    (h : ¬(q.identity = identity ∧ q.window = window)) (rest : Table τ) :
    queue (q :: rest) identity window = queue rest identity window := by
  unfold queue times?
  rw [List.find?_cons_of_neg (by simpa using h)]

theorem queue_of_not_mem_keys {table : Table τ} {identity : String} {window : Window}
    (h : (identity, window) ∉ table.keys) : table.queue identity window = [] := by
  induction table with
  | nil => rfl
  | cons q rest ih =>
    have hcons : (identity, window) ≠ (q.identity, q.window) ∧ (identity, window) ∉ keys rest :=
      List.ne_and_not_mem_of_not_mem_cons h
    rw [queue_cons_of_ne (fun hq => hcons.1 (by rw [hq.1, hq.2]))]
    exact ih hcons.2

theorem exists_of_mem_queue {table : Table τ} {identity : String} {window : Window} {t : τ}
    (h : t ∈ table.queue identity window) : ∃ q ∈ table, q.identity = identity ∧ t ∈ q.times := by
  unfold queue times? at h
  cases hfind : table.find? fun q => q.identity == identity && q.window == window with
  | none =>
    rw [hfind] at h
    cases h
  | some q =>
    rw [hfind] at h
    have hkey := List.find?_some hfind
    exact ⟨q, List.mem_of_find?_eq_some hfind, eq_of_beq (Bool.and_eq_true_iff.mp hkey).1, h⟩

/-! ### Recording -/

theorem queue_record {ws : List Window} (hws : ws.Nodup) (identity : String) (now : τ) (table : Table τ)
    (identity' : String) (w : Window) :
    (record identity now ws table).queue identity' w =
      if identity' = identity ∧ w ∈ ws then table.queue identity' w ++ [now] else table.queue identity' w := by
  induction ws generalizing table with
  | nil => simp [record]
  | cons v rest ih =>
    obtain ⟨hv, hrest⟩ := List.nodup_cons.mp hws
    unfold record
    rw [ih hrest]
    by_cases hkey : identity' = identity ∧ w = v
    · obtain ⟨rfl, rfl⟩ := hkey
      simp [hv, queue_put_self]
    · rw [queue_put_of_ne hkey]
      have hiff : identity' = identity ∧ w ∈ v :: rest ↔ identity' = identity ∧ w ∈ rest := by
        constructor
        · rintro ⟨hid, hw⟩
          exact ⟨hid, (List.mem_cons.mp hw).resolve_left (fun hwv => hkey ⟨hid, hwv⟩)⟩
        · rintro ⟨hid, hw⟩
          exact ⟨hid, List.mem_cons_of_mem v hw⟩
      simp only [hiff]

theorem nodup_keys_record {table : Table τ} (h : table.keys.Nodup) (identity : String) (now : τ)
    (ws : List Window) : (record identity now ws table).keys.Nodup := by
  induction ws generalizing table with
  | nil => exact h
  | cons v rest ih => exact ih (nodup_keys_put h identity v _)

end Table

/-! ### Sweeping -/

namespace Limiter

variable {τ : Type} [Sub τ] [LE τ] [DecidableLE τ] [ClockTime τ]

private theorem remaining?_eq_none {now : τ} {q : Queue τ} (h : live now q.window q.times = []) :
    remaining? now q = none := by
  unfold remaining?
  rw [h]

private theorem remaining?_eq_some {now : τ} {q : Queue τ} (h : live now q.window q.times ≠ []) :
    remaining? now q = some { q with times := live now q.window q.times } := by
  unfold remaining?
  cases hlive : live now q.window q.times with
  | nil => exact absurd hlive h
  | cons t ts => rfl

theorem sweepIfDue_limits (l : Limiter τ) (now : τ) : (l.sweepIfDue now).limits = l.limits := by
  unfold sweepIfDue
  split <;> rfl

theorem keys_sweep_sublist (l : Limiter τ) (now : τ) : (l.sweep now).table.keys.Sublist l.table.keys := by
  show (Table.keys (l.table.filterMap (remaining? now))).Sublist l.table.keys
  induction l.table with
  | nil => exact List.Sublist.refl _
  | cons q rest ih =>
    by_cases hlive : live now q.window q.times = []
    · rw [List.filterMap_cons_none (remaining?_eq_none hlive)]
      exact ih.cons _
    · rw [List.filterMap_cons_some (remaining?_eq_some hlive)]
      exact ih.cons_cons _

theorem nodup_keys_sweep {l : Limiter τ} (h : l.table.keys.Nodup) (now : τ) : (l.sweep now).table.keys.Nodup :=
  (keys_sweep_sublist l now).nodup h

theorem queue_sweep {l : Limiter τ} (h : l.table.keys.Nodup) (now : τ) (identity : String) (w : Window) :
    (l.sweep now).table.queue identity w = live now w (l.table.queue identity w) := by
  show Table.queue (l.table.filterMap (remaining? now)) identity w = _
  generalize l.table = table at h
  induction table with
  | nil => rfl
  | cons q rest ih =>
    obtain ⟨hq, hrest⟩ : (q.identity, q.window) ∉ Table.keys rest ∧ (Table.keys rest).Nodup := List.nodup_cons.mp h
    by_cases hkey : q.identity = identity ∧ q.window = w
    · obtain ⟨rfl, rfl⟩ := hkey
      rw [Table.queue_cons_self]
      by_cases hlive : live now q.window q.times = []
      · -- The queue goes, and no other one of its identity and window comes into sight.
        rw [List.filterMap_cons_none (remaining?_eq_none hlive), ih hrest, Table.queue_of_not_mem_keys hq, hlive]
        rfl
      · rw [List.filterMap_cons_some (remaining?_eq_some hlive)]
        exact Table.queue_cons_self { q with times := live now q.window q.times } _
    · rw [Table.queue_cons_of_ne hkey]
      by_cases hlive : live now q.window q.times = []
      · rw [List.filterMap_cons_none (remaining?_eq_none hlive), ih hrest]
      · rw [List.filterMap_cons_some (remaining?_eq_some hlive), ← ih hrest]
        exact Table.queue_cons_of_ne (q := { q with times := live now q.window q.times }) hkey _

end Limiter

end Tabletop
