import Tabletop.Proofs.Limiter.Unordered

/-!
# Where a limiter stands

With readings that do not decrease, all that matters of a limiter is which calls it has let through (`Stands`).  Two
limiters that have let through the same calls answer alike from then on (`Stands.check_eq`), so a denied call, which adds
none, changes nothing that could be noticed, although it may empty queues and put off the next sweep.  And in no window,
wherever it ends, are there more calls than its limit allows (`Respects`).
-/

namespace Tabletop

namespace Limiter

variable {τ : Type} [LinearOrder τ] [Sub τ] [ClockTime τ]

/-! ### Windows that end anywhere -/

/-- The readings of a log in the window that ends with `last`. -/
def within (last : τ) (w : Window) (log : List τ) : List τ :=
  log.filter fun t => decide (last - ClockTime.seconds w.seconds < t ∧ t ≤ last)

theorem within_append (last : τ) (w : Window) (log more : List τ) :
    within last w (log ++ more) = within last w log ++ within last w more :=
  List.filter_append log more

theorem within_sublist_counted (last : τ) (w : Window) (log : List τ) :
    (within last w log).Sublist (counted last w log) := by
  unfold within counted
  apply List.monotone_filter_right
  intro t ht
  exact decide_eq_true (of_decide_eq_true ht).1

/-- No window holds more readings than its limit allows, wherever it ends. -/
def Respects (limits : Limits) (log : List τ) : Prop :=
  ∀ w ∈ limits.enabled, ∀ last, ((within last w log).length : Int) ≤ limits.of w

theorem Respects.nil (limits : Limits) : Respects limits ([] : List τ) :=
  fun _ hw _ => Int.le_of_lt (Limits.pos_of_mem_enabled hw)

theorem Respects.snoc (hsub : ∀ a b s : τ, a ≤ b → a - s ≤ b - s) {limits : Limits} {log : List τ} {now : τ}
    (h : Respects limits log) (hroom : ∀ w ∈ limits.enabled, HasRoom limits now log w) :
    Respects limits (log ++ [now]) := by
  intro w hw last
  rw [within_append, List.length_append]
  by_cases hlast : now ≤ last
  · -- What is in a window that ends later counted at `now`, where there was room for one more.
    have hcounted := (within_sublist_counted last w log).trans (counted_sublist_of_le hsub hlast w log)
    have hlength := hcounted.length_le
    have hone : (within last w [now]).length ≤ 1 := List.length_filter_le _ [now]
    have hless : ((counted now w log).length : Int) < limits.of w := hroom w hw
    omega
  · have hnone : within last w [now] = [] := by
      unfold within
      rw [List.filter_cons_of_neg (by simp [hlast]), List.filter_nil]
    rw [hnone]
    exact h w hw last

/-! ### Decisions -/

variable [Add τ]

instance (limits : Limits) (now : τ) (log : List τ) (w : Window) : Decidable (HasRoom limits now log w) :=
  inferInstanceAs (Decidable (_ < _))

/-- A denial names the first full window. -/
theorem Verdict.find?_eq {limits : Limits} {now retryAfter : τ} {log : List τ} {ws : List Window} {w : Window}
    {limit : Int} (h : Verdict limits now log ws (.denied w limit retryAfter)) :
    ws.find? (fun v => !decide (HasRoom limits now log v)) = some w ∧ limit = limits.of w ∧
      ∃ oldest others, counted now w log = oldest :: others ∧ retryAfter = waiting now w oldest := by
  cases h with
  | @denied before after _ oldest others hbefore hfull hcounted =>
    refine ⟨?_, rfl, oldest, others, hcounted, rfl⟩
    rw [List.find?_append, List.find?_eq_none.mpr (by simpa using hbefore), Option.none_or,
      List.find?_cons_of_pos (by simpa using hfull)]

theorem Verdict.unique {limits : Limits} {now : τ} {log : List τ} {ws : List Window} {d d' : Decision τ}
    (h : Verdict limits now log ws d) (h' : Verdict limits now log ws d') : d = d' := by
  have hboth : d = .allowed ↔ d' = .allowed := h.allowed_iff.trans h'.allowed_iff.symm
  cases d with
  | allowed => exact (hboth.mp rfl).symm
  | denied w limit retryAfter =>
    cases d' with
    | allowed => exact hboth.mpr rfl
    | denied w' limit' retryAfter' =>
      obtain ⟨hw, rfl, oldest, others, hcounted, rfl⟩ := h.find?_eq
      obtain ⟨hw', rfl, oldest', others', hcounted', rfl⟩ := h'.find?_eq
      obtain rfl : w = w' := Option.some.inj (hw.symm.trans hw')
      obtain ⟨rfl, -⟩ := List.cons.inj (hcounted.symm.trans hcounted')
      rfl

/-! ### The calls that were let through -/

/-- The limiter has let through the calls in `log`, none of them after `now`. -/
structure Stands (now : τ) (log : String → List τ) (l : Limiter τ) : Prop where
  tracks : Tracks l.limits now log l.table
  sorted : ∀ identity, (log identity).Pairwise (· ≤ ·)
  past : ∀ identity, ∀ t ∈ log identity, t ≤ now
  respects : ∀ identity, Respects l.limits (log identity)

namespace Stands

variable {now : τ} {log : String → List τ} {l l' : Limiter τ}

omit [Add τ] in
theorem start (limits : Limits) (now : τ) : Stands now (fun _ => []) (Limiter.start limits now) :=
  ⟨.nil limits now, by simp, by simp, fun _ => .nil limits⟩

omit [Add τ] in
theorem mono (hsub : ∀ a b s : τ, a ≤ b → a - s ≤ b - s) {later : τ} (h : Stands now log l) (hlater : now ≤ later) :
    Stands later log l :=
  ⟨h.tracks.mono hsub hlater, h.sorted, fun identity t ht => le_trans (h.past identity t ht) hlater, h.respects⟩

theorem verdict (h : Stands now log l) (identity : String) :
    Verdict l.limits now (log identity) l.limits.enabled (l.check identity now).1 :=
  check_verdict h.tracks (h.sorted identity)

theorem check (hsub : ∀ a b s : τ, a ≤ b → a - s ≤ b - s) (h : Stands now log l) (identity : String) :
    Stands now (fun i => noted i (log i) (.checked identity now (l.check identity now).1)) (l.check identity now).2 := by
  have htracks := h.tracks.check identity
  have hverdict := h.verdict identity
  rw [← check_limits l identity now] at htracks hverdict
  revert htracks hverdict
  cases (l.check identity now).1 with
  | denied window limit retryAfter =>
    intro htracks _
    exact ⟨htracks, h.sorted, h.past, by rw [check_limits]; exact h.respects⟩
  | allowed =>
    intro htracks hverdict
    have hroom := hverdict.allowed_iff.mp rfl
    refine ⟨htracks, fun i => ?_, fun i => ?_, fun i => ?_⟩
    · show (if i = identity then log i ++ [now] else log i).Pairwise (· ≤ ·)
      split
      · exact List.pairwise_append.mpr ⟨h.sorted i, by simp, by simpa using h.past i⟩
      · exact h.sorted i
    · show ∀ t ∈ (if i = identity then log i ++ [now] else log i), t ≤ now
      split
      · exact List.forall_mem_append.mpr ⟨h.past i, by simp⟩
      · exact h.past i
    · show Respects _ (if i = identity then log i ++ [now] else log i)
      have hrespects := h.respects i
      rw [← check_limits l identity now] at hrespects
      split
      · rename_i hi
        subst hi
        exact hrespects.snoc hsub hroom
      · exact hrespects

/-- Limiters that have let through the same calls decide alike. -/
theorem check_eq (h : Stands now log l) (h' : Stands now log l') (hlimits : l'.limits = l.limits) (identity : String) :
    (l'.check identity now).1 = (l.check identity now).1 := by
  have hverdict := h'.verdict identity
  rw [hlimits] at hverdict
  exact hverdict.unique (h.verdict identity)

end Stands

/-- Nothing that comes later can tell the limiters apart. -/
def Alike (now : τ) (l l' : Limiter τ) : Prop :=
  l'.limits = l.limits ∧ ∃ log, Stands now log l ∧ Stands now log l'

namespace Alike

variable {now : τ} {l l' : Limiter τ}

omit [Add τ] in
theorem mono (hsub : ∀ a b s : τ, a ≤ b → a - s ≤ b - s) {later : τ} (h : Alike now l l') (hlater : now ≤ later) :
    Alike later l l' := by
  obtain ⟨hlimits, log, hl, hl'⟩ := h
  exact ⟨hlimits, log, hl.mono hsub hlater, hl'.mono hsub hlater⟩

theorem check (hsub : ∀ a b s : τ, a ≤ b → a - s ≤ b - s) (h : Alike now l l') (identity : String) :
    (l'.check identity now).1 = (l.check identity now).1 ∧
      Alike now (l.check identity now).2 (l'.check identity now).2 := by
  obtain ⟨hlimits, log, hl, hl'⟩ := h
  have hdecision := hl.check_eq hl' hlimits identity
  have hafter := hl'.check hsub identity
  rw [hdecision] at hafter
  refine ⟨hdecision, ?_, _, hl.check hsub identity, hafter⟩
  rw [check_limits, check_limits, hlimits]

/-- A denied call leaves no trace. -/
theorem of_denied (hsub : ∀ a b s : τ, a ≤ b → a - s ≤ b - s) {log : String → List τ} (h : Stands now log l)
    {identity : String} {window : Window} {limit : Int} {retryAfter : τ}
    (hdenied : (l.check identity now).1 = .denied window limit retryAfter) :
    Alike now l (l.check identity now).2 := by
  have hafter := h.check hsub identity
  rw [hdenied] at hafter
  exact ⟨check_limits l identity now, log, h, hafter⟩

end Alike

end Limiter

end Tabletop
