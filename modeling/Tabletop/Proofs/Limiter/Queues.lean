import Tabletop.Proofs.Limiter.Expiry

/-!
# Queues are copies of one log

A check keeps up to three queues for an identity, cuts each of them when it comes to it, and may stop before the last.  Still
each is the end of one log, the readings of the identity's allowed checks, and is no longer than the limit of its window
(`table_holds_ends_of_log`).  What carries the proof is `Holds`, which asks nothing of the clock: what a queue lacks of the log
was out of date at some reading.

`Limiter.checkStrictly` is a check that takes no queue for granted.  It fails where it wants to record a call under a key that
is not there, or to tell the waiting time from a queue that is empty.  It never does: it is the check (`checkStrictly_eq`).
-/

namespace Tabletop

namespace Table

variable {τ : Type}

theorem queue_of_mem {table : Table τ} (h : table.keys.Nodup) {q : Queue τ} (hq : q ∈ table) :
    table.queue q.identity q.window = q.times := by
  induction table with
  | nil => cases hq
  | cons first rest ih =>
    obtain ⟨hfirst, hrest⟩ : (first.identity, first.window) ∉ keys rest ∧ (keys rest).Nodup := List.nodup_cons.mp h
    rcases List.mem_cons.mp hq with rfl | hq
    · exact queue_cons_self q rest
    · rw [queue_cons_of_ne]
      · exact ih hrest hq
      · intro heq
        have hkey : (q.identity, q.window) ∈ keys rest := List.mem_map.mpr ⟨q, hq, rfl⟩
        rw [← heq.1, ← heq.2] at hkey
        exact hfirst hkey

theorem times?_eq_some_queue {table : Table τ} {identity : String} {w : Window} (h : (identity, w) ∈ table.keys) :
    table.times? identity w = some (table.queue identity w) := by
  obtain ⟨q, hq, hkey⟩ := List.mem_map.mp h
  obtain ⟨rfl, rfl⟩ := Prod.mk.inj hkey
  have hsome : (table.times? q.identity q.window).isSome := by
    unfold times?
    rw [Option.isSome_map, List.find?_isSome]
    exact ⟨q, hq, by simp⟩
  obtain ⟨times, htimes⟩ := Option.isSome_iff_exists.mp hsome
  unfold queue
  rw [htimes, Option.getD_some]

end Table

/-! ### Checks that take nothing for granted -/

inductive LookupFault where
  /-- A call is to be recorded under a key that is not in the table. -/
  | missingKey (identity : String) (window : Window)
  /-- The oldest reading is wanted of a queue that has none. -/
  | emptyQueue (identity : String) (window : Window)
  deriving DecidableEq, Repr

def Table.recordStrictly {τ : Type} (identity : String) (now : τ) :
    List Window → Table τ → Except LookupFault (Table τ)
  | [], table => .ok table
  | w :: ws, table =>
    match table.times? identity w with
    | none => .error (.missingKey identity w)
    | some times => recordStrictly identity now ws (table.put identity w (times ++ [now]))

namespace Limiter

variable {τ : Type}

section

variable [Add τ] [Sub τ] [LE τ] [LT τ] [DecidableLE τ] [DecidableLT τ] [ClockTime τ]

def surveyStrictly (limits : Limits) (identity : String) (now : τ) :
    List Window → Table τ → Except LookupFault (Decision τ × Table τ)
  | [], table => .ok (.allowed, table)
  | w :: ws, table =>
    let times := live now w (table.queue identity w)
    let table := table.put identity w times
    if limits.of w ≤ times.length then
      match times.head? with
      | none => .error (.emptyQueue identity w)
      | some oldest => .ok (.denied w (limits.of w) (waiting now w oldest), table)
    else surveyStrictly limits identity now ws table

def checkStrictly (l : Limiter τ) (identity : String) (now : τ) : Except LookupFault (Decision τ × Limiter τ) := do
  let l := l.sweepIfDue now
  match ← surveyStrictly l.limits identity now l.limits.enabled l.table with
  | (.allowed, table) =>
    return (.allowed, { l with table := ← table.recordStrictly identity now l.limits.enabled })
  | (denied, table) => return (denied, { l with table })

theorem surveyStrictly_eq {limits : Limits} {ws : List Window} (hpos : ∀ w ∈ ws, 0 < limits.of w) (identity : String)
    (now : τ) (table : Table τ) :
    surveyStrictly limits identity now ws table = .ok (survey limits identity now ws table) := by
  induction ws generalizing table with
  | nil => rfl
  | cons w rest ih =>
    obtain ⟨hposw, hposrest⟩ := List.forall_mem_cons.mp hpos
    unfold surveyStrictly survey
    simp only
    cases live now w (table.queue identity w) with
    | nil =>
      -- An empty queue is below a limit that is positive.
      have hroom : ¬limits.of w ≤ (([] : List τ).length : Int) := Int.not_le.mpr hposw
      rw [if_neg hroom]
      exact ih hposrest _
    | cons oldest others =>
      simp only
      split
      · rfl
      · exact ih hposrest _

theorem mem_keys_survey {limits : Limits} {identity : String} {now : τ} {ws : List Window} {table : Table τ}
    {key : String × Window} (h : key ∈ table.keys) : key ∈ (survey limits identity now ws table).2.keys := by
  induction ws generalizing table with
  | nil => exact h
  | cons w rest ih =>
    have hput : ∀ times, key ∈ (table.put identity w times).keys := fun _ => Table.mem_keys_put.mpr (.inr h)
    unfold survey
    simp only
    split
    · exact ih (hput _)
    · split
      · exact hput _
      · exact ih (hput _)

/-- A survey that comes to its end has left a key for every window. -/
theorem mem_keys_survey_of_allowed {limits : Limits} {identity : String} {now : τ} {ws : List Window} {table : Table τ}
    (h : (survey limits identity now ws table).1 = .allowed) :
    ∀ w ∈ ws, (identity, w) ∈ (survey limits identity now ws table).2.keys := by
  induction ws generalizing table with
  | nil => simp
  | cons v rest ih =>
    have hcut : ∀ times, (survey limits identity now rest (table.put identity v times)).1 = .allowed →
        ∀ w ∈ v :: rest, (identity, w) ∈ (survey limits identity now rest (table.put identity v times)).2.keys := by
      intro times hallowed w hw
      rcases List.mem_cons.mp hw with rfl | hw
      · exact mem_keys_survey (Table.mem_keys_put.mpr (.inl rfl))
      · exact ih hallowed w hw
    unfold survey at h ⊢
    simp only at h ⊢
    split at h
    · exact hcut _ h
    · split at h
      · cases h
      · rename_i hroom
        rw [if_neg hroom]
        exact hcut _ h

omit [Add τ] [Sub τ] [LE τ] [LT τ] [DecidableLE τ] [DecidableLT τ] [ClockTime τ] in
theorem recordStrictly_eq {identity : String} {ws : List Window} {table : Table τ}
    (h : ∀ w ∈ ws, (identity, w) ∈ table.keys) (now : τ) :
    table.recordStrictly identity now ws = .ok (table.record identity now ws) := by
  induction ws generalizing table with
  | nil => rfl
  | cons w rest ih =>
    obtain ⟨hw, hrest⟩ := List.forall_mem_cons.mp h
    unfold Table.recordStrictly Table.record
    rw [Table.times?_eq_some_queue hw]
    exact ih fun v hv => Table.mem_keys_put.mpr (.inr (hrest v hv))

/-- No check wants what is not there. -/
theorem checkStrictly_eq (l : Limiter τ) (identity : String) (now : τ) :
    l.checkStrictly identity now = .ok (l.check identity now) := by
  have hpos : ∀ w ∈ (l.sweepIfDue now).limits.enabled, 0 < (l.sweepIfDue now).limits.of w :=
    fun _ hw => Limits.pos_of_mem_enabled hw
  unfold checkStrictly check
  simp only
  rw [surveyStrictly_eq hpos]
  rcases hsurvey : survey (l.sweepIfDue now).limits identity now (l.sweepIfDue now).limits.enabled
    (l.sweepIfDue now).table with ⟨decision, table⟩
  cases decision with
  | denied window limit retryAfter => rfl
  | allowed =>
    have hkeys := mem_keys_survey_of_allowed (congrArg Prod.fst hsurvey)
    rw [hsurvey] at hkeys
    show (do
      let recorded ← table.recordStrictly identity now (l.sweepIfDue now).limits.enabled
      return (Decision.allowed, { l.sweepIfDue now with table := recorded })) = _
    rw [recordStrictly_eq hkeys]
    rfl

/-! ### Which keys there are -/

theorem mem_keys_of_survey {limits : Limits} {identity : String} {now : τ} {ws : List Window} {table : Table τ}
    {key : String × Window} (h : key ∈ (survey limits identity now ws table).2.keys) :
    key ∈ table.keys ∨ key.2 ∈ ws := by
  induction ws generalizing table with
  | nil => exact .inl h
  | cons w rest ih =>
    have hput : ∀ times, key ∈ (table.put identity w times).keys → key ∈ table.keys ∨ key.2 ∈ w :: rest := by
      intro times hkey
      rcases Table.mem_keys_put.mp hkey with rfl | hkey
      · exact .inr List.mem_cons_self
      · exact .inl hkey
    have hlater : ∀ times, key ∈ (survey limits identity now rest (table.put identity w times)).2.keys →
        key ∈ table.keys ∨ key.2 ∈ w :: rest := by
      intro times hkey
      rcases ih hkey with hkey | hkey
      · exact hput times hkey
      · exact .inr (List.mem_cons_of_mem w hkey)
    unfold survey at h
    simp only at h
    split at h
    · exact hlater _ h
    · split at h
      · exact hput _ h
      · exact hlater _ h

omit [Add τ] [Sub τ] [LE τ] [LT τ] [DecidableLE τ] [DecidableLT τ] [ClockTime τ] in
theorem mem_keys_of_record {identity : String} {now : τ} {ws : List Window} {table : Table τ} {key : String × Window}
    (h : key ∈ (table.record identity now ws).keys) : key ∈ table.keys ∨ key.2 ∈ ws := by
  induction ws generalizing table with
  | nil => exact .inl h
  | cons w rest ih =>
    rcases ih h with hkey | hkey
    · rcases Table.mem_keys_put.mp hkey with rfl | hkey
      · exact .inr List.mem_cons_self
      · exact .inl hkey
    · exact .inr (List.mem_cons_of_mem w hkey)

theorem mem_keys_of_check {l : Limiter τ} {identity : String} {now : τ} {key : String × Window}
    (h : key ∈ (l.check identity now).2.table.keys) : key ∈ l.table.keys ∨ key.2 ∈ l.limits.enabled := by
  obtain ⟨decision, table, hsurvey, -, -, htable⟩ := check_cases l identity now
  have hsurveyed : key ∈ table.keys → key ∈ l.table.keys ∨ key.2 ∈ l.limits.enabled := by
    intro hkey
    have hkey : key ∈ (survey l.limits identity now l.limits.enabled (l.sweepIfDue now).table).2.keys := by
      rw [hsurvey]
      exact hkey
    refine (mem_keys_of_survey hkey).imp_left fun hkey => ?_
    unfold sweepIfDue at hkey
    split at hkey
    · exact (keys_sweep_sublist l now).subset hkey
    · exact hkey
  rw [htable] at h
  cases decision with
  | denied window limit retryAfter => exact hsurveyed h
  | allowed => exact (mem_keys_of_record h).elim hsurveyed .inr

end

/-! ### The invariant -/

section

variable [Sub τ] [LE τ] [ClockTime τ]

/-- What a queue lacks of a log was out of date at one of the readings. -/
def Lags (readings : List τ) (w : Window) (queue log : List τ) : Prop :=
  ∃ gone, gone ++ queue = log ∧ ∀ t ∈ gone, ∃ now ∈ readings, t ≤ now - ClockTime.seconds w.seconds

namespace Lags

variable {readings : List τ} {w : Window} {queue log : List τ}

theorem nil (readings : List τ) (w : Window) : Lags readings w [] [] := ⟨[], rfl, by simp⟩

theorem suffix (h : Lags readings w queue log) : queue <:+ log := by
  obtain ⟨gone, rfl, -⟩ := h
  exact List.suffix_append gone queue

theorem mono (h : Lags readings w queue log) (more : List τ) : Lags (readings ++ more) w queue log := by
  obtain ⟨gone, rfl, hgone⟩ := h
  refine ⟨gone, rfl, fun t ht => ?_⟩
  obtain ⟨now, hnow, hold⟩ := hgone t ht
  exact ⟨now, List.mem_append_left more hnow, hold⟩

theorem append (h : Lags readings w queue log) (t : τ) : Lags readings w (queue ++ [t]) (log ++ [t]) := by
  obtain ⟨gone, rfl, hgone⟩ := h
  exact ⟨gone, by rw [List.append_assoc], hgone⟩

variable [DecidableLE τ]

theorem live {now : τ} (h : Lags readings w queue log) (hnow : now ∈ readings) :
    Lags readings w (live now w queue) log := by
  obtain ⟨gone, rfl, hgone⟩ := h
  let old : τ → Bool := fun t => decide (t ≤ now - ClockTime.seconds w.seconds)
  refine ⟨gone ++ queue.takeWhile old, ?_, List.forall_mem_append.mpr ⟨hgone, fun t ht => ?_⟩⟩
  · rw [List.append_assoc]
    exact congrArg (gone ++ ·) List.takeWhile_append_dropWhile
  · have hold : old t = true := List.all_eq_true.mp List.all_takeWhile t ht
    exact ⟨now, hnow, of_decide_eq_true hold⟩

/-- Of two ends of one log, the live part of the one that is cut sooner lies in the other: what is missing there was out of
date for the longer window, so it is out of date for the shorter one. -/
theorem live_suffix {now : τ} {longer : Window} {queue' : List τ}
    (hold : ∀ t, ∀ r ∈ readings, t ≤ r - ClockTime.seconds longer.seconds → t ≤ now - ClockTime.seconds w.seconds)
    (h : queue <:+ log) (h' : Lags readings longer queue' log) : Limiter.live now w queue <:+ queue' := by
  obtain ⟨gone, rfl, hgone⟩ := h'
  have hout : ∀ t ∈ gone, t ≤ now - ClockTime.seconds w.seconds := by
    intro t ht
    obtain ⟨r, hr, hle⟩ := hgone t ht
    exact hold t r hr hle
  rcases List.suffix_or_suffix_of_suffix h (List.suffix_append gone queue') with hinside | houtside
  · exact (Limiter.live_suffix now w queue).trans hinside
  · -- The queue reaches into what the other lacks, but this part of it is not live.
    obtain ⟨before, rfl⟩ := houtside
    have hbefore : before <:+ gone := ((List.suffix_append_inj_of_length_eq rfl).mp h).1
    unfold Limiter.live
    rw [List.dropWhile_append_of_pos]
    · exact List.dropWhile_suffix _
    · exact fun t ht => decide_eq_true (hout t (hbefore.subset ht))

end Lags

/-- The queues of enabled windows, and no others, are ends of the log of their identity within their limits. -/
structure Holds (limits : Limits) (readings : List τ) (log : String → List τ) (table : Table τ) : Prop where
  distinct : table.keys.Nodup
  enabled : ∀ key ∈ table.keys, key.2 ∈ limits.enabled
  lags : ∀ identity, ∀ w ∈ limits.enabled, Lags readings w (table.queue identity w) (log identity)
  short : ∀ identity, ∀ w ∈ limits.enabled, ((table.queue identity w).length : Int) ≤ limits.of w

namespace Holds

variable {limits : Limits} {readings : List τ} {log : String → List τ} {table : Table τ}

theorem nil (limits : Limits) (readings : List τ) : Holds limits readings (fun _ => []) [] :=
  ⟨List.nodup_nil, by simp [Table.keys], fun _ w _ => .nil readings w,
    fun _ _ hw => Int.le_of_lt (Limits.pos_of_mem_enabled hw)⟩

theorem window_enabled (h : Holds limits readings log table) {q : Queue τ} (hq : q ∈ table) :
    q.window ∈ limits.enabled :=
  h.enabled (q.identity, q.window) (List.mem_map.mpr ⟨q, hq, rfl⟩)

theorem times_lag (h : Holds limits readings log table) {q : Queue τ} (hq : q ∈ table) :
    Lags readings q.window q.times (log q.identity) := by
  rw [← Table.queue_of_mem h.distinct hq]
  exact h.lags q.identity q.window (h.window_enabled hq)

theorem length_times_le (h : Holds limits readings log table) {q : Queue τ} (hq : q ∈ table) :
    (q.times.length : Int) ≤ limits.of q.window := by
  rw [← Table.queue_of_mem h.distinct hq]
  exact h.short q.identity q.window (h.window_enabled hq)

variable [Add τ] [LT τ] [DecidableLE τ] [DecidableLT τ]

theorem check {l : Limiter τ} (h : Holds l.limits readings log l.table) (identity : String) (now : τ) :
    Holds l.limits (readings ++ [now]) (fun i => noted i (log i) (.checked identity now (l.check identity now).1))
      (l.check identity now).2.table := by
  obtain ⟨trimmed, htrims, heffect⟩ := check_effect h.distinct identity now
  have hkeys : ∀ key ∈ (l.check identity now).2.table.keys, key.2 ∈ l.limits.enabled :=
    fun key hkey => (mem_keys_of_check hkey).elim (h.enabled key) id
  have hlags : ∀ i, ∀ w ∈ l.limits.enabled, Lags (readings ++ [now]) w (trimmed.queue i w) (log i) := by
    intro i w hw
    have hbefore := (h.lags i w hw).mono [now]
    rcases htrims.queue i w with hq | hq
    · rw [hq]
      exact hbefore
    · rw [hq]
      exact hbefore.live (List.mem_append_right readings List.mem_cons_self)
  have hshort : ∀ i, ∀ w ∈ l.limits.enabled, ((trimmed.queue i w).length : Int) ≤ l.limits.of w := by
    intro i w hw
    have hlength := (htrims.queue_sublist i w).length_le
    have hbefore := h.short i w hw
    omega
  revert heffect hkeys
  cases (l.check identity now).1 with
  | denied window limit retryAfter =>
    intro htable hkeys
    rw [htable] at hkeys ⊢
    exact ⟨htrims.distinct, hkeys, hlags, hshort⟩
  | allowed =>
    rintro ⟨hqueues, htable⟩ hkeys
    rw [htable] at hkeys ⊢
    refine ⟨Table.nodup_keys_record htrims.distinct identity now _, hkeys, fun i w hw => ?_, fun i w hw => ?_⟩
    · rw [Table.queue_record l.limits.nodup_enabled]
      show Lags _ w _ (if i = identity then log i ++ [now] else log i)
      by_cases hi : i = identity
      · simp only [hi, hw, and_self, if_true]
        exact (hlags identity w hw).append now
      · simp only [hi, false_and, if_false]
        exact hlags i w hw
    · rw [Table.queue_record l.limits.nodup_enabled]
      by_cases hi : i = identity
      · simp only [hi, hw, and_self, if_true]
        rw [List.length_append, List.length_singleton]
        have hroom := (hqueues w hw).2
        omega
      · simp only [hi, false_and, if_false]
        exact hshort i w hw

end Holds

end

/-! ### Runs -/

section

variable [Add τ] [Sub τ] [LE τ] [LT τ] [DecidableLE τ] [DecidableLT τ] [ClockTime τ]

theorem run_holds {l : Limiter τ} (hl : l.table = []) (calls : List (Call τ)) :
    Holds l.limits (readings calls) (fun i => admitted i (l.run calls).1) (l.run calls).2.table := by
  induction calls using List.reverseRecOn with
  | nil =>
    show Holds l.limits _ _ l.table
    rw [hl]
    exact .nil l.limits []
  | append_singleton calls c ih =>
    rw [run_snoc, readings_append]
    simp only [admitted_snoc]
    cases c with
    | reset => exact .nil l.limits _
    | check identity now =>
      rw [← run_limits l calls] at ih
      have hafter := ih.check identity now
      rw [run_limits] at hafter
      exact hafter

/-- Whatever the clock does, no check fails for a key that is not there or a queue that is empty; keys are distinct and belong
to enabled windows; every queue is within the limit of its window, and is the end of the row of the readings at which its
identity was let through since the last reset.  With readings that do not decrease all queues are sorted, and what is live in
a queue is the end of the queue of each longer window. -/
theorem table_holds_ends_of_log (limits : Limits) (begin : τ) (calls : List (Call τ)) :
    let events := ((start limits begin).run calls).1
    let l := ((start limits begin).run calls).2
    (∀ identity now, l.checkStrictly identity now = .ok (l.check identity now)) ∧
      l.table.keys.Nodup ∧
      (∀ q ∈ l.table, q.window ∈ limits.enabled ∧ (q.times.length : Int) ≤ limits.of q.window ∧
        q.times <:+ admitted q.identity events) ∧
      ((readings calls).Pairwise (· ≤ ·) → ∀ q ∈ l.table, q.times.Pairwise (· ≤ ·)) ∧
      ((∀ a b c : τ, a ≤ b → b ≤ c → a ≤ c) → (∀ a b s : τ, a ≤ b → a - s ≤ b - s) →
        (∀ (t : τ) (m n : Nat), m ≤ n → t - ClockTime.seconds n ≤ t - ClockTime.seconds m) →
        ∀ now, (readings calls ++ [now]).Pairwise (· ≤ ·) → ∀ q ∈ l.table, ∀ longer ∈ limits.enabled,
          q.window.seconds < longer.seconds → live now q.window q.times <:+ l.table.queue q.identity longer) := by
  intro events l
  have hholds : Holds limits (readings calls) (fun i => admitted i events) l.table :=
    run_holds (l := start limits begin) rfl calls
  refine ⟨checkStrictly_eq l, hholds.distinct, fun q hq => ?_, fun hclock q hq => ?_, ?_⟩
  · exact ⟨hholds.window_enabled hq, hholds.length_times_le hq, (hholds.times_lag hq).suffix⟩
  · have hlog : (admitted q.identity events).Pairwise (· ≤ ·) :=
      hclock.sublist (admitted_sublist (start limits begin) q.identity calls)
    exact hlog.sublist (hholds.times_lag hq).suffix.sublist
  · intro htrans hsub hspan now hclock q hq longer hlonger hless
    have hpast : ∀ r ∈ readings calls, r ≤ now := fun r hr => (List.pairwise_append.mp hclock).2.2 r hr now (by simp)
    refine Lags.live_suffix (fun t r hr hold => ?_) (hholds.times_lag hq).suffix (hholds.lags q.identity longer hlonger)
    have hlater : r - ClockTime.seconds longer.seconds ≤ now - ClockTime.seconds longer.seconds := hsub r now _ (hpast r hr)
    have hshorter := hspan now q.window.seconds longer.seconds (Nat.le_of_lt hless)
    exact htrans _ _ _ hold (htrans _ _ _ hlater hshorter)

/-- The queue of the minute has lost a reading that the one of the hour still has. -/
private def parted : List (Call Int) := [.check "a" 0, .check "b" 30, .check "a" 70, .check "a" 75]

theorem table_holds_ends_of_log_parted :
    let l := ((start ⟨2, 3, 0⟩ (0 : Int)).run parted).2
    (readings parted ++ [76]).Pairwise (· ≤ ·) ∧
      l.table.queue "a" .minute = [70, 75] ∧ l.table.queue "a" .hour = [0, 70, 75] ∧
      l.checkStrictly "a" 76 = .ok (l.check "a" 76) ∧
      ∀ q ∈ l.table, ∀ longer ∈ (⟨2, 3, 0⟩ : Limits).enabled, q.window.seconds < longer.seconds →
        live 76 q.window q.times <:+ l.table.queue q.identity longer := by
  intro l
  have hclock : (readings parted ++ [76]).Pairwise (· ≤ ·) := by decide
  obtain ⟨hfound, -, -, -, hnested⟩ := table_holds_ends_of_log ⟨2, 3, 0⟩ (0 : Int) parted
  have hsub : ∀ a b s : Int, a ≤ b → a - s ≤ b - s := fun a b s h => Int.sub_le_sub_right h s
  have hspan : ∀ (t : Int) (m n : Nat), m ≤ n → t - ClockTime.seconds n ≤ t - ClockTime.seconds m :=
    fun t m n h => Int.sub_le_sub_left (Int.ofNat_le.mpr h) t
  exact ⟨hclock, by decide +kernel, by decide +kernel, hfound "a" 76,
    hnested (fun _ _ _ => Int.le_trans) hsub hspan 76 hclock⟩

end

end Limiter

end Tabletop
