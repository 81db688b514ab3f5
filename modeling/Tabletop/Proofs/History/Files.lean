import Tabletop.Disk
import Tabletop.Proofs.History.Ledger

/-!
# What the files have of each client

`Disk.Holds` says of the files what `History.Follows` says of a history: what stands in them of each client.  A history
begins with the lists of the database that it is opened on (`Disk.Holds.connect`), and its own lists are in the file when
the database is closed (`Disk.Holds.keep`).  Closed and opened again, a database is as a history that is reopened
(`Disk.connect_keep`).
-/

namespace Tabletop

/-- The entries of each client, the newest first. -/
abbrev Lists := String → List Entry

namespace Database

/-- The lists of a database when it is opened, `filed` being those in the files. -/
def lists (filed : String → Lists) : Database → Lists
  | memory => fun _ => []
  | file name => filed name

/-- The lists in the files after a database with other lists was closed. -/
def shelve (filed : String → Lists) (closed : Lists) : Database → String → Lists
  | memory => filed
  | file name => fun n => if n = name then closed else filed n

end Database

namespace Disk

open History

/-- Ids fall along every file, and the rows of each client say what stands in its list. -/
structure Holds (d : Disk) (filed : String → Lists) : Prop where
  falling : ∀ name, Falling (d.rows name)
  entries : ∀ name client,
    ((d.rows name).filter fun r => r.client == client).map Row.entry = (filed name client).map .ok

/-- Where nothing was written there are no entries. -/
theorem Holds.of_empty {d : Disk} (h : ∀ name, d.rows name = []) : d.Holds fun _ _ => [] := by
  constructor
  · intro name
    rw [h]
    exact List.Pairwise.nil
  · intro name client
    rw [h]
    rfl

variable {d : Disk} {filed : String → Lists}

theorem Holds.connect (hd : d.Holds filed) (address : String) (maxEntries : Int) :
    Follows (d.connect address maxEntries)
      ⟨(d.database address).medium, maxEntries, (d.database address).lists filed⟩ := by
  unfold Disk.connect Disk.rowsAt
  cases d.database address with
  | memory => exact .start .memory maxEntries
  | file name =>
    refine ⟨rfl, rfl, hd.falling name, fun client => ?_⟩
    rw [rowsOf_eq_filter (h := ⟨_, _, d.rows name⟩) (hd.falling name)]
    exact hd.entries name client

theorem Holds.keep (hd : d.Holds filed) {h : History} {l : Ledger} (hl : Follows h l) (address : String) :
    (d.keep address h).Holds ((d.database address).shelve filed l.list) := by
  unfold Disk.keep Database.shelve
  cases d.database address with
  | memory => exact hd
  | file name =>
    constructor
    · intro n
      by_cases hn : n = name
      · simpa only [hn, if_true] using hl.falling
      · simpa only [hn, if_false] using hd.falling n
    · intro n client
      by_cases hn : n = name
      · simp only [hn, if_true]
        rw [← rowsOf_eq_filter hl.falling]
        exact hl.entries client
      · simp only [hn, if_false]
        exact hd.entries n client

theorem keep_database (d : Disk) (address : String) (h : History) : (d.keep address h).database = d.database := by
  unfold keep
  split <;> rfl

/-- Whichever address leads to it, only a file is there again. -/
theorem connect_keep {h : History} {address other : String} (hmedium : h.medium = (d.database address).medium)
    (hsame : d.database other = d.database address) (maxEntries : Int) :
    (d.keep address h).connect other maxEntries = h.reopen maxEntries := by
  unfold connect rowsAt reopen
  rw [keep_database, hsame, hmedium]
  unfold keep
  cases d.database address with
  | memory => rfl
  | file name => simp [Database.medium]

end Disk

end Tabletop
