import Tabletop.History

/-!
# Databases on a disk

A database is found by its address.  It is in memory or in a file, and several addresses may lead to one file.  While a
database is open its rows are in a history.  When it is closed, those of a file stay on the disk for whoever opens the
file next; those in memory are gone.

Which database an address leads to is given with the disk.  Every address leads to a SQLite database that can be opened,
and while it is open nobody else writes to its file.
-/

namespace Tabletop

inductive Database where
  | memory
  | file (name : String)
  deriving DecidableEq, Repr

namespace Database

def medium : Database → Medium
  | memory => .memory
  | file _ => .file

/-- How a database in memory is usually addressed. -/
def memoryAddresses : List String := ["sqlite://", "sqlite:///", "sqlite:///:memory:"]

/-- Takes every other address for the name of a file of its own. -/
def ofAddress (address : String) : Database :=
  if memoryAddresses.contains address then memory else file address

end Database

structure Disk where
  database : String → Database
  /-- The rows of each file whose database is closed. -/
  rows : String → List Row

namespace Disk

/-- All databases are in memory. -/
def inMemory : Disk := ⟨fun _ => .memory, fun _ => []⟩

/-- Nothing was written to any file. -/
def blank : Disk := ⟨.ofAddress, fun _ => []⟩

/-- What there is in the database at an address when it is opened. -/
def rowsAt (d : Disk) (address : String) : List Row :=
  match d.database address with
  | .memory => []
  | .file name => d.rows name

/-- Opens the database at an address. -/
def connect (d : Disk) (address : String) (maxEntries : Int) : History :=
  ⟨(d.database address).medium, maxEntries, d.rowsAt address⟩

/-- Closes the database that a history was opened on at an address. -/
def keep (d : Disk) (address : String) (h : History) : Disk :=
  match d.database address with
  | .memory => d
  | .file name => { d with rows := fun n => if n = name then h.rows else d.rows n }

end Disk

end Tabletop
