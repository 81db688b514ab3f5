import Tabletop.Proofs.History.Rows

/-!
# A history keeps a list for each client

A ledger has a list of entries for each client, the newest first, and no table, ids or texts.  Whatever is asked of a
history, it answers like the ledger (`answers_eq_ledger`), as long as the totals that are recorded can be read again.
-/

namespace Tabletop

/-- The total is not too long for `Text.readInteger`. -/
def Outcome.IsReadable (o : Outcome) : Prop := (Nat.toDigits 10 o.total.natAbs).length ≤ Text.maxDigits

instance (o : Outcome) : Decidable o.IsReadable := inferInstanceAs (Decidable (_ ≤ _))

namespace History

/-! ### Operations -/

inductive Operation where
  | record (client : String) (outcome : Outcome) (description : Option String) (now : Moment)
  | recent (client : String) (limit : Int)
  | clear (client : String)
  | reopen (maxEntries : Int)

inductive Answer where
  | recorded (entry : Entry) (pruned : Nat)
  | entries (entries : List Entry)
  | cleared (rows : Nat)
  | reopened
  | failed (fault : HistoryFault)
  deriving DecidableEq

/-- What fails changes nothing. -/
def perform (h : History) : Operation → Answer × History
  | .record client outcome description now =>
    match h.record client outcome description now with
    | .ok added => (.recorded added.entry added.pruned, added.history)
    | .error fault => (.failed fault, h)
  | .recent client limit =>
    match h.recent client limit with
    | .ok entries => (.entries entries, h)
    | .error fault => (.failed fault, h)
  | .clear client => (.cleared (h.clear client).1, (h.clear client).2)
  | .reopen maxEntries => (.reopened, h.reopen maxEntries)

def answers (h : History) : List Operation → List Answer
  | [] => []
  | op :: rest => (h.perform op).1 :: (h.perform op).2.answers rest

/-- What is recorded can be read again. -/
def Operation.IsReadable : Operation → Prop
  | .record _ outcome _ _ => outcome.IsReadable
  | _ => True

instance : DecidablePred Operation.IsReadable
  | .record _ outcome _ _ => inferInstanceAs (Decidable outcome.IsReadable)
  | .recent _ _ => inferInstanceAs (Decidable True)
  | .clear _ => inferInstanceAs (Decidable True)
  | .reopen _ => inferInstanceAs (Decidable True)

/-- The entry of an outcome that is recorded. -/
def entryOf (o : Outcome) (description : Option String) (now : Moment) : Entry :=
  { expression := o.expression, description, total := o.total, breakdown := o.breakdown, stamp := .universal now }

/-- The numbers that a table takes. -/
def fits (n : Int) : Bool := decide (-9223372036854775808 ≤ n ∧ n < 9223372036854775808)

end History

/-! ### Ledgers -/

structure Ledger where
  medium : Medium
  maxEntries : Int
  list : String → List Entry

namespace Ledger

open History

def start (medium : Medium) (maxEntries : Int) : Ledger := ⟨medium, maxEntries, fun _ => []⟩

def set (l : Ledger) (client : String) (entries : List Entry) : Ledger :=
  { l with list := fun c => if c = client then entries else l.list c }

def perform (l : Ledger) : Operation → Answer × Ledger
  | .record client outcome description now =>
    let entry := entryOf outcome description now
    let all := entry :: l.list client
    if fits l.maxEntries then
      (.recorded entry (all.length - l.maxEntries.toNat), l.set client (all.take l.maxEntries.toNat))
    else (.failed .numberTooLarge, l)
  | .recent client limit =>
    if fits limit then (.entries (if limit < 0 then l.list client else (l.list client).take limit.toNat), l)
    else (.failed .numberTooLarge, l)
  | .clear client => (.cleared (l.list client).length, l.set client [])
  | .reopen maxEntries =>
    match l.medium with
    | .memory => (.reopened, { l with maxEntries, list := fun _ => [] })
    | .file => (.reopened, { l with maxEntries })

def answers (l : Ledger) : List Operation → List Answer
  | [] => []
  | op :: rest => (l.perform op).1 :: (l.perform op).2.answers rest

end Ledger

namespace History

/-! ### Rows and entries -/

theorem checkNumber_eq (n : Int) : checkNumber n = if fits n then .ok () else .error .numberTooLarge := by
  unfold checkNumber fits
  simp only [decide_eq_true_eq]

private theorem entry_of_readable {o : Outcome} (ho : o.IsReadable) (id : Nat) (client : String)
    (description : Option String) (stamp : Stamp) :
    Row.entry ⟨id, client, o.expression, description, toString o.total, o.breakdown, stamp⟩ =
      .ok { entryOf o description stamp.moment with stamp := stamp.orUniversal } := by
  unfold Row.entry
  simp only [Text.readInteger_toString ho]
  rfl

/-- A history with a new row that nothing was pruned for yet. -/
def withRow (h : History) (client : String) (o : Outcome) (description : Option String) (now : Moment) : History :=
  { h with rows := h.newRow client o description now :: h.rows }

theorem record_eq {h : History} {o : Outcome} (ho : o.IsReadable) (client : String) (description : Option String)
    (now : Moment) :
    h.record client o description now =
      if fits h.maxEntries then
        .ok ⟨entryOf o description now, ((h.withRow client o description now).prune client).1,
          ((h.withRow client o description now).prune client).2⟩
      else .error .numberTooLarge := by
  unfold record newRow
  simp only [entry_of_readable ho, checkNumber_eq]
  split <;> rfl

theorem falling_withRow {h : History} (hrows : Falling h.rows) (client : String) (o : Outcome)
    (description : Option String) (now : Moment) : Falling (h.withRow client o description now).rows :=
  falling_cons hrows rfl

/-- The new row is the newest of its client, and the others keep theirs. -/
theorem rowsOf_withRow {h : History} (hrows : Falling h.rows) (client : String) (o : Outcome)
    (description : Option String) (now : Moment) (other : String) :
    (h.withRow client o description now).rowsOf other =
      if client = other then h.newRow client o description now :: h.rowsOf other else h.rowsOf other :=
  rowsOf_cons (falling_withRow hrows client o description now) other

/-- What is recorded can be read again. -/
theorem isReadable_of_record {h : History} {o : Outcome} {client : String} {description : Option String} {now : Moment}
    {added : Addition} (hrecord : h.record client o description now = .ok added) : o.IsReadable := by
  unfold record at hrecord
  cases hread : Text.readInteger (toString o.total) with
  | error fault =>
    simp only [Row.entry, newRow, hread] at hrecord
    cases hrecord
  | ok n => exact Text.length_le_of_readInteger_toString hread

/-- Recording puts a row in front and prunes. -/
theorem eq_of_record {h : History} {o : Outcome} {client : String} {description : Option String} {now : Moment}
    {added : Addition} (hrecord : h.record client o description now = .ok added) :
    added = ⟨entryOf o description now, ((h.withRow client o description now).prune client).1,
      ((h.withRow client o description now).prune client).2⟩ := by
  rw [record_eq (isReadable_of_record hrecord)] at hrecord
  split at hrecord
  · exact (Except.ok.inj hrecord).symm
  · cases hrecord

/-- The new row says what was given back when it was stored. -/
theorem newRow_entry {o : Outcome} (ho : o.IsReadable) (h : History) (client : String)
    (description : Option String) (now : Moment) :
    (h.newRow client o description now).entry = .ok (entryOf o description now) :=
  entry_of_readable ho _ _ _ _

theorem mapM_entry {rows : List Row} {entries : List Entry} (h : rows.map Row.entry = entries.map .ok) :
    rows.mapM Row.entry = .ok entries := by
  induction rows generalizing entries with
  | nil =>
    cases entries with
    | nil => rfl
    | cons e rest => cases h
  | cons r rest ih =>
    cases entries with
    | nil => cases h
    | cons e others =>
      obtain ⟨hr, hrest⟩ := List.cons.inj h
      rw [List.mapM_cons, hr, ih hrest]
      rfl

/-! ### Operations on both sides -/

/-- The rows of each client say what stands in its list. -/
structure Follows (h : History) (l : Ledger) : Prop where
  medium : h.medium = l.medium
  maxEntries : h.maxEntries = l.maxEntries
  falling : Falling h.rows
  entries : ∀ client, (h.rowsOf client).map Row.entry = (l.list client).map .ok

namespace Follows

variable {h : History} {l : Ledger}

theorem start (medium : Medium) (maxEntries : Int) :
    Follows (create medium maxEntries) (Ledger.start medium maxEntries) :=
  ⟨rfl, rfl, List.Pairwise.nil, fun client => by rw [rowsOf_of_nil rfl]; rfl⟩

theorem length_eq (hl : Follows h l) (client : String) : (h.rowsOf client).length = (l.list client).length := by
  simpa using congrArg List.length (hl.entries client)

/-- A list changes if the rows of its client change accordingly and those of the others stay. -/
theorem set (hl : Follows h l) {h' : History} {client : String} {entries : List Entry}
    (hmedium : h'.medium = h.medium) (hmax : h'.maxEntries = h.maxEntries) (hrows : Falling h'.rows)
    (hclient : (h'.rowsOf client).map Row.entry = entries.map .ok)
    (hothers : ∀ other, other ≠ client → h'.rowsOf other = h.rowsOf other) : Follows h' (l.set client entries) := by
  refine ⟨hmedium.trans hl.medium, hmax.trans hl.maxEntries, hrows, fun other => ?_⟩
  unfold Ledger.set
  simp only
  by_cases hother : other = client
  · rw [hother, if_pos rfl]
    exact hclient
  · rw [if_neg hother, hothers other hother]
    exact hl.entries other

theorem recent_eq (hl : Follows h l) (client : String) (limit : Int) :
    h.recent client limit =
      if fits limit then .ok (if limit < 0 then l.list client else (l.list client).take limit.toNat)
      else .error .numberTooLarge := by
  have hentries : (if limit < 0 then h.rowsOf client else (h.rowsOf client).take limit.toNat).map Row.entry =
      (if limit < 0 then l.list client else (l.list client).take limit.toNat).map .ok := by
    split
    · exact hl.entries client
    · rw [List.map_take, hl.entries, List.map_take]
  unfold History.recent
  rw [checkNumber_eq]
  split
  · exact mapM_entry hentries
  · rfl

theorem record (hl : Follows h l) {o : Outcome} (ho : o.IsReadable) (client : String)
    (description : Option String) (now : Moment) :
    ((h.withRow client o description now).prune client).1 =
        (entryOf o description now :: l.list client).length - l.maxEntries.toNat ∧
      Follows ((h.withRow client o description now).prune client).2
        (l.set client ((entryOf o description now :: l.list client).take l.maxEntries.toNat)) := by
  have hfalling := falling_withRow hl.falling client o description now
  have hself : (h.withRow client o description now).rowsOf client =
      h.newRow client o description now :: h.rowsOf client :=
    (rowsOf_withRow hl.falling client o description now client).trans (if_pos rfl)
  have hmax : (h.withRow client o description now).maxEntries = l.maxEntries := hl.maxEntries
  constructor
  · rw [fst_prune hfalling, hself, hmax, List.length_cons, List.length_cons, hl.length_eq]
  · refine hl.set (prune_medium _ _) (prune_maxEntries _ _) (falling_prune hfalling client) ?_ fun other hother => ?_
    · rw [rowsOf_prune hfalling, if_pos rfl, hself, hmax, List.map_take, List.map_cons, newRow_entry ho, hl.entries,
        List.map_take, List.map_cons]
    · rw [rowsOf_prune hfalling, if_neg hother, rowsOf_withRow hl.falling, if_neg (Ne.symm hother)]

theorem clear (hl : Follows h l) (client : String) : Follows (h.clear client).2 (l.set client []) := by
  have hfalling : Falling (h.clear client).2.rows := falling_filter hl.falling _
  refine hl.set rfl rfl hfalling ?_ fun other hother => ?_
  · rw [rowsOf_eq_filter hfalling]
    simp [History.clear]
  · rw [rowsOf_eq_filter hfalling, rowsOf_eq_filter hl.falling]
    exact filter_other_eq (fun r hr => eq_of_beq hr) hother

theorem reopen (hl : Follows h l) (maxEntries : Int) :
    Follows (h.reopen maxEntries) (l.perform (.reopen maxEntries)).2 := by
  have hmedium := hl.medium
  unfold History.reopen Ledger.perform
  cases hh : h.medium with
  | memory =>
    rw [hh] at hmedium
    simp only [← hmedium]
    exact ⟨rfl, rfl, List.Pairwise.nil, fun client => by rw [rowsOf_of_nil rfl]; rfl⟩
  | file =>
    rw [hh] at hmedium
    simp only [← hmedium]
    exact ⟨rfl, rfl, hl.falling, hl.entries⟩

theorem step (hl : Follows h l) {op : Operation} (hop : op.IsReadable) :
    (h.perform op).1 = (l.perform op).1 ∧ Follows (h.perform op).2 (l.perform op).2 := by
  cases op with
  | record client o description now =>
    obtain ⟨hpruned, hafter⟩ := hl.record hop client description now
    simp only [perform, Ledger.perform, record_eq hop, hl.maxEntries]
    by_cases hfits : fits l.maxEntries
    · simp only [hfits, if_true]
      exact ⟨by rw [hpruned], hafter⟩
    · simp only [hfits]
      exact ⟨rfl, hl⟩
  | recent client limit =>
    simp only [perform, Ledger.perform, hl.recent_eq]
    by_cases hfits : fits limit
    · simp only [hfits, if_true]
      exact ⟨trivial, hl⟩
    · simp only [hfits]
      exact ⟨rfl, hl⟩
  | clear client => exact ⟨congrArg Answer.cleared (hl.length_eq client), hl.clear client⟩
  | reopen maxEntries =>
    refine ⟨?_, hl.reopen maxEntries⟩
    unfold Ledger.perform
    simp only
    split <;> rfl

theorem answers_eq (hl : Follows h l) {operations : List Operation} (h' : ∀ op ∈ operations, op.IsReadable) :
    h.answers operations = l.answers operations := by
  induction operations generalizing h l with
  | nil => rfl
  | cons op rest ih =>
    obtain ⟨hanswer, hafter⟩ := hl.step (h' op List.mem_cons_self)
    unfold answers Ledger.answers
    rw [hanswer, ih hafter fun op' hop' => h' op' (List.mem_cons_of_mem op hop')]

end Follows

theorem answers_eq_ledger (medium : Medium) (maxEntries : Int) {operations : List Operation}
    (h : ∀ op ∈ operations, op.IsReadable) :
    (create medium maxEntries).answers operations = (Ledger.start medium maxEntries).answers operations :=
  (Follows.start medium maxEntries).answers_eq h

private def noon : Moment := { year := 2024, month := 1, day := 2, hour := 12 }

private def fall (face : Int) : Outcome := ⟨face, [face], "1d6", "[" ++ toString face ++ "] = " ++ toString face⟩

/-- Two clients; the store is opened again with room for one row of each. -/
private def shrinking : List Operation :=
  [.record "a" (fall 1) none noon, .record "b" (fall 2) none noon, .record "a" (fall 3) none noon, .reopen 1,
    .record "a" (fall 4) none noon, .recent "a" 10, .recent "b" (-1), .clear "b", .recent "b" 10]

theorem answers_eq_ledger_shrinking :
    (∀ op ∈ shrinking, op.IsReadable) ∧
      (create .file 5).answers shrinking =
        [.recorded (entryOf (fall 1) none noon) 0, .recorded (entryOf (fall 2) none noon) 0,
          .recorded (entryOf (fall 3) none noon) 0, .reopened, .recorded (entryOf (fall 4) none noon) 2,
          .entries [entryOf (fall 4) none noon], .entries [entryOf (fall 2) none noon], .cleared 1, .entries []] := by
  have hreadable : ∀ op ∈ shrinking, op.IsReadable := by decide +kernel
  exact ⟨hreadable, (answers_eq_ledger .file 5 hreadable).trans (by decide +kernel)⟩

/-- A limit that the table does not take gives no entries, not even the one there is. -/
theorem recent_fails_beyond_word :
    (create .file 3).answers [.record "a" (fall 4) none noon, .recent "a" 9223372036854775808] ≠
      [.recorded (entryOf (fall 4) none noon) 0, .entries [entryOf (fall 4) none noon]] := by
  decide +kernel

end History

end Tabletop
