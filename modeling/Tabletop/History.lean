import Tabletop.Calendar
import Tabletop.Outcome
import Tabletop.Text.Numeral

/-!
# The history of rolls

Rolls of all clients are rows of one table and are told apart by their ids; the larger the id, the newer the row.  A
row keeps its total as a decimal text, since totals have no bound that a number column would hold, and its time
without an offset.  Recording a roll removes the rows of its client beyond the newest `maxEntries`; the rows of other
clients stay.

The table takes numbers that fit into 64 bits.  What needs another number fails and changes nothing.
-/

namespace Tabletop

structure Entry where
  expression : String
  description : Option String
  total : Int
  breakdown : String
  stamp : Stamp
  deriving DecidableEq, Repr

inductive HistoryFault where
  | numberTooLarge
  | unreadableTotal (fault : Text.NumeralFault)
  deriving DecidableEq, Repr

def HistoryFault.message : HistoryFault → String
  | numberTooLarge => "Python int too large to convert to SQLite INTEGER"
  | unreadableTotal fault => fault.message

structure Row where
  id : Nat
  client : String
  expression : String
  description : Option String
  total : String
  breakdown : String
  stamp : Stamp
  deriving DecidableEq, Repr

/-- What a row says; its time is universal time unless it says otherwise. -/
def Row.entry (r : Row) : Except HistoryFault Entry := do
  return {
    expression := r.expression
    description := r.description
    total := ← (Text.readInteger r.total).mapError .unreadableTotal
    breakdown := r.breakdown
    stamp := r.stamp.orUniversal }

inductive Medium where
  | memory
  | file
  deriving DecidableEq, Repr

structure History where
  medium : Medium
  maxEntries : Int
  rows : List Row
  deriving Repr

namespace History

def defaultMaxEntries : Int := 100
def defaultLimit : Int := 10

def create (medium : Medium) (maxEntries : Int) : History := ⟨medium, maxEntries, []⟩

/-- The table takes numbers of 64 bits with their sign. -/
def checkNumber (n : Int) : Except HistoryFault Unit :=
  if -9223372036854775808 ≤ n ∧ n < 9223372036854775808 then .ok () else .error .numberTooLarge

/-- The rows of a client, those with the larger ids first. -/
def rowsOf (h : History) (client : String) : List Row :=
  (h.rows.filter fun r => r.client == client).mergeSort fun a b => decide (b.id ≤ a.id)

/-- One above the largest id in use, so an id returns after the newest rows are gone. -/
def nextId (h : History) : Nat :=
  (h.rows.map Row.id).max?.getD 0 + 1

theorem lt_nextId {h : History} {r : Row} (hr : r ∈ h.rows) : r.id < h.nextId := by
  have hm : r.id ∈ h.rows.map Row.id := List.mem_map_of_mem hr
  unfold nextId
  cases hmax : (h.rows.map Row.id).max? with
  | none => rw [List.max?_eq_none_iff.mp hmax] at hm; exact absurd hm List.not_mem_nil
  | some m =>
    have := (List.max?_le_iff hmax).mp (Nat.le_refl m) r.id hm
    simp only [Option.getD_some]
    omega

/-- The newest row of a client that is too old to keep. -/
def cutoff? (h : History) (client : String) : Option Nat :=
  ((h.rowsOf client).drop h.maxEntries.toNat).head?.map Row.id

def isOutdated (client : String) (cutoff : Nat) (r : Row) : Bool :=
  r.client == client && decide (r.id ≤ cutoff)

/-- Removes what is too old of one client; also gives the number of rows removed. -/
def prune (h : History) (client : String) : Nat × History :=
  match h.cutoff? client with
  | none => (0, h)
  | some cutoff =>
    (h.rows.countP (isOutdated client cutoff),
      { h with rows := h.rows.filter fun r => !isOutdated client cutoff r })

structure Addition where
  entry : Entry
  pruned : Nat
  history : History

/-- The new row as the table keeps it. -/
def newRow (h : History) (client : String) (o : Outcome) (description : Option String) (now : Moment) : Row :=
  { id := h.nextId, client, expression := o.expression, description, total := toString o.total,
    breakdown := o.breakdown, stamp := ⟨now, none⟩ }

/-- The entry that is given back still has the offset which the table drops. -/
def record (h : History) (client : String) (o : Outcome) (description : Option String) (now : Moment) :
    Except HistoryFault Addition := do
  let row := h.newRow client o description now
  let entry ← { row with stamp := .universal now }.entry
  checkNumber h.maxEntries
  let (pruned, history) := { h with rows := row :: h.rows }.prune client
  return { entry, pruned, history }

/-- The newest entries of a client, at most `limit` of them; a negative limit takes them all. -/
def recent (h : History) (client : String) (limit : Int) : Except HistoryFault (List Entry) := do
  checkNumber limit
  let rows := h.rowsOf client
  (if limit < 0 then rows else rows.take limit.toNat).mapM Row.entry

/-- Removes all rows of a client; also gives their number. -/
def clear (h : History) (client : String) : Nat × History :=
  ((h.rowsOf client).length, { h with rows := h.rows.filter fun r => !(r.client == client) })

/-- Only rows in a file are there again after the store was closed. -/
def reopen (h : History) (maxEntries : Int) : History :=
  match h.medium with
  | .memory => { h with maxEntries, rows := [] }
  | .file => { h with maxEntries }

end History

end Tabletop
