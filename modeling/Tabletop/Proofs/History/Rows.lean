import Tabletop.History
import Tabletop.Proofs.Text.Numeral

/-!
# The rows of a history

The newest row stands first: ids fall along the table, also when an id is used again.  The rows of a client are
therefore a part of the table as it stands, and pruning cuts the tail off them and leaves all other rows alone
(`rowsOf_prune`).
-/

namespace Tabletop.History

/-! ### Order -/

def Falling (rows : List Row) : Prop := rows.Pairwise fun a b => b.id < a.id

instance (rows : List Row) : Decidable (Falling rows) := inferInstanceAs (Decidable (rows.Pairwise _))

theorem falling_filter {rows : List Row} (h : Falling rows) (p : Row → Bool) : Falling (rows.filter p) :=
  List.Pairwise.filter p h

/-- A row with the next id may be put in front. -/
theorem falling_cons {h : History} (hrows : Falling h.rows) {row : Row} (hid : row.id = h.nextId) :
    Falling (row :: h.rows) :=
  List.pairwise_cons.mpr ⟨fun _ hr => by rw [hid]; exact lt_nextId hr, hrows⟩

theorem rowsOf_eq_filter {h : History} (hrows : Falling h.rows) (client : String) :
    h.rowsOf client = h.rows.filter fun r => r.client == client := by
  unfold rowsOf
  apply List.mergeSort_of_pairwise
  exact (falling_filter hrows _).imp fun hlt => by simpa using Nat.le_of_lt hlt

theorem rowsOf_of_nil {h : History} (hrows : h.rows = []) (client : String) : h.rowsOf client = [] := by
  unfold rowsOf
  rw [hrows, List.filter_nil, List.mergeSort_nil]

theorem falling_rowsOf {h : History} (hrows : Falling h.rows) (client : String) : Falling (h.rowsOf client) := by
  rw [rowsOf_eq_filter hrows]
  exact falling_filter hrows _

theorem rowsOf_cons {h : History} {row : Row} (hrows : Falling (row :: h.rows)) (client : String) :
    { h with rows := row :: h.rows }.rowsOf client =
      if row.client = client then row :: h.rowsOf client else h.rowsOf client := by
  rw [rowsOf_eq_filter (h := { h with rows := row :: h.rows }) hrows, rowsOf_eq_filter (List.pairwise_cons.mp hrows).2]
  by_cases hclient : row.client = client
  · rw [List.filter_cons_of_pos (by simpa using hclient), if_pos hclient]
  · rw [List.filter_cons_of_neg (by simpa using hclient), if_neg hclient]

/-- Where only rows of one client go, the rows of the others stay. -/
theorem filter_other_eq {rows : List Row} {client other : String} {gone : Row → Bool}
    (hgone : ∀ r, gone r = true → r.client = client) (hother : other ≠ client) :
    (rows.filter fun r => !gone r).filter (fun r => r.client == other) = rows.filter fun r => r.client == other := by
  rw [List.filter_filter]
  apply List.filter_congr
  intro r _
  cases hclient : r.client == other with
  | false => rfl
  | true =>
    have hstays : gone r = false := by
      rw [Bool.eq_false_iff]
      intro hr
      exact hother ((eq_of_beq hclient).symm.trans (hgone r hr))
    rw [hstays]
    rfl

/-! ### Pruning -/

/-- The rows that are newer than the row at a place are those before it. -/
private theorem filter_newer_eq_take {rows rest : List Row} {n : Nat} {old : Row} (hrows : Falling rows)
    (hdrop : rows.drop n = old :: rest) : rows.filter (fun r => !decide (r.id ≤ old.id)) = rows.take n := by
  have hsplit : Falling (rows.take n ++ old :: rest) := by
    rw [← hdrop, List.take_append_drop]
    exact hrows
  obtain ⟨-, hold, hbefore⟩ := List.pairwise_append.mp hsplit
  -- Ids fall, so the row at the place divides the rows into those to keep and those to remove.
  have hkeep : ∀ r ∈ rows.take n, (!decide (r.id ≤ old.id)) = true := by
    intro r hr
    simpa using hbefore r hr old List.mem_cons_self
  have hgone : ∀ r ∈ old :: rest, ¬(!decide (r.id ≤ old.id)) = true := by
    intro r hr
    rcases List.mem_cons.mp hr with rfl | hr
    · simp
    · simpa using Nat.le_of_lt ((List.pairwise_cons.mp hold).1 r hr)
  conv => lhs; rw [← List.take_append_drop n rows, hdrop]
  rw [List.filter_append, List.filter_eq_self.mpr hkeep, List.filter_eq_nil_iff.mpr hgone, List.append_nil]

/-- What goes and what stays of the rows of one client. -/
theorem rowsOf_prune {h : History} (hrows : Falling h.rows) (client other : String) :
    (h.prune client).2.rowsOf other =
      if other = client then (h.rowsOf client).take h.maxEntries.toNat else h.rowsOf other := by
  unfold prune cutoff?
  cases hdrop : (h.rowsOf client).drop h.maxEntries.toNat with
  | nil =>
    simp only [List.head?_nil, Option.map_none]
    split
    · rename_i hother
      rw [hother, List.take_of_length_le (List.drop_eq_nil_iff.mp hdrop)]
    · rfl
  | cons old rest =>
    simp only [List.head?_cons, Option.map_some]
    rw [rowsOf_eq_filter (falling_filter hrows _)]
    split
    · rename_i hother
      rw [List.filter_filter, ← filter_newer_eq_take (falling_rowsOf hrows client) hdrop, rowsOf_eq_filter hrows, List.filter_filter,
        hother]
      congr 1
      funext r
      cases hclient : r.client == client <;> simp [isOutdated, hclient]
    · rename_i hother
      rw [rowsOf_eq_filter hrows]
      exact filter_other_eq (fun r hr => eq_of_beq (Bool.and_eq_true_iff.mp hr).1) hother

/-- The number that pruning gives is that of the rows which a client loses. -/
theorem fst_prune {h : History} (hrows : Falling h.rows) (client : String) :
    (h.prune client).1 = (h.rowsOf client).length - h.maxEntries.toNat := by
  unfold prune cutoff?
  cases hdrop : (h.rowsOf client).drop h.maxEntries.toNat with
  | nil =>
    have hlength := List.drop_eq_nil_iff.mp hdrop
    simp only [List.head?_nil, Option.map_none]
    omega
  | cons old rest =>
    simp only [List.head?_cons, Option.map_some]
    have hcount : h.rows.countP (isOutdated client old.id) =
        (h.rowsOf client).countP fun r => decide (r.id ≤ old.id) := by
      rw [rowsOf_eq_filter hrows, List.countP_filter]
      congr 1
      funext r
      exact Bool.and_comm _ _
    have hnewer := congrArg List.length (filter_newer_eq_take (falling_rowsOf hrows client) hdrop)
    have htotal := (h.rowsOf client).length_eq_countP_add_countP fun r => decide (r.id ≤ old.id)
    simp only [Bool.decide_eq_true, decide_not] at htotal
    rw [List.length_take, ← List.countP_eq_length_filter] at hnewer
    rw [hcount]
    omega

theorem mem_of_mem_prune {h : History} {client : String} {r : Row} (hr : r ∈ (h.prune client).2.rows) : r ∈ h.rows := by
  unfold prune at hr
  split at hr
  · exact hr
  · exact (List.mem_filter.mp hr).1

theorem falling_prune {h : History} (hrows : Falling h.rows) (client : String) :
    Falling (h.prune client).2.rows := by
  unfold prune
  split
  · exact hrows
  · exact falling_filter hrows _

theorem prune_maxEntries (h : History) (client : String) : (h.prune client).2.maxEntries = h.maxEntries := by
  unfold prune
  split <;> rfl

theorem prune_medium (h : History) (client : String) : (h.prune client).2.medium = h.medium := by
  unfold prune
  split <;> rfl

end Tabletop.History
