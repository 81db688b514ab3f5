import Tabletop.Limiter.Clock

/-!
# A limiter with sliding windows

Every identity may make a number of calls in any minute, hour and day; a limit that is not positive leaves its
window out.  For each identity and window the limiter keeps the readings at which calls were allowed, the oldest
first.  `Limiter.check` looks at the windows from the shortest to the longest and denies at the first full one; only
an allowed call is recorded, in every window.

Readings leave a queue when the queue is looked at.  Queues that nobody looks at are swept away when a check finds
that the last sweep is `sweepInterval` seconds ago.
-/

namespace Tabletop

inductive Window where
  | minute
  | hour
  | day
  deriving DecidableEq, Repr

namespace Window

def all : List Window := [minute, hour, day]

def name : Window → String
  | minute => "minute"
  | hour => "hour"
  | day => "day"

def seconds : Window → Nat
  | minute => 60
  | hour => 3600
  | day => 86400

end Window

structure Limits where
  perMinute : Int := 0
  perHour : Int := 0
  perDay : Int := 0
  deriving DecidableEq, Repr

namespace Limits

def of (l : Limits) : Window → Int
  | .minute => l.perMinute
  | .hour => l.perHour
  | .day => l.perDay

/-- The windows that are looked at, the shortest first. -/
def enabled (l : Limits) : List Window :=
  Window.all.filter fun w => decide (0 < l.of w)

theorem pos_of_mem_enabled {l : Limits} {w : Window} (h : w ∈ l.enabled) : 0 < l.of w := by
  simpa using (List.mem_filter.mp h).2

theorem nodup_enabled (l : Limits) : l.enabled.Nodup :=
  List.Pairwise.filter _ (by decide)

end Limits

/-- The recorded readings of one identity in one window, the oldest first. -/
structure Queue (τ : Type) where
  identity : String
  window : Window
  times : List τ
  deriving Repr

abbrev Table (τ : Type) := List (Queue τ)

namespace Table

variable {τ : Type}

def times? (table : Table τ) (identity : String) (window : Window) : Option (List τ) :=
  (table.find? fun q => q.identity == identity && q.window == window).map Queue.times

/-- What is not in the table is empty. -/
def queue (table : Table τ) (identity : String) (window : Window) : List τ :=
  (table.times? identity window).getD []

def put (identity : String) (window : Window) (times : List τ) : Table τ → Table τ
  | [] => [⟨identity, window, times⟩]
  | q :: rest =>
    if q.identity = identity ∧ q.window = window then ⟨identity, window, times⟩ :: rest
    else q :: put identity window times rest

theorem times?_put_self (identity : String) (window : Window) (times : List τ) (table : Table τ) :
    (put identity window times table).times? identity window = some times := by
  induction table with
  | nil => simp [put, times?]
  | cons q rest ih =>
    unfold put
    split
    · simp [times?]
    · rename_i hq
      simp only [times?] at ih ⊢
      rw [List.find?_cons_of_neg (by simpa using hq)]
      exact ih

theorem times?_put_of_ne {identity identity' : String} {window window' : Window}
    (h : ¬(identity' = identity ∧ window' = window)) (times : List τ) (table : Table τ) :
    (put identity window times table).times? identity' window' = table.times? identity' window' := by
  have hnew : ¬(identity = identity' ∧ window = window') := fun e => h ⟨e.1.symm, e.2.symm⟩
  induction table with
  | nil => simpa [put, times?] using hnew
  | cons q rest ih =>
    unfold put
    split
    · rename_i hq
      simp only [times?]
      rw [List.find?_cons_of_neg (by simpa using hnew),
        List.find?_cons_of_neg (by rw [hq.1, hq.2]; simpa using hnew)]
    · simp only [times?, List.find?_cons] at ih ⊢
      split
      · rfl
      · exact ih

/-- Records a reading in each of the windows. -/
def record (identity : String) (now : τ) : List Window → Table τ → Table τ
  | [], table => table
  | w :: ws, table =>
    record identity now ws (table.put identity w (table.queue identity w ++ [now]))

end Table

inductive Decision (τ : Type) where
  | allowed
  | denied (window : Window) (limit : Int) (retryAfter : τ)
  deriving DecidableEq, Repr

structure Limiter (τ : Type) where
  limits : Limits
  table : Table τ
  lastSweep : τ

namespace Limiter

def sweepInterval : Nat := 60

variable {τ : Type} [Add τ] [Sub τ] [LE τ] [LT τ] [DecidableLE τ] [DecidableLT τ] [ClockTime τ]

def start (limits : Limits) (now : τ) : Limiter τ := ⟨limits, [], now⟩

/-- What remains of a queue once the readings at its head that lie outside the window are gone. -/
def live (now : τ) (window : Window) (times : List τ) : List τ :=
  times.dropWhile fun t => decide (t ≤ now - ClockTime.seconds window.seconds)

omit [Add τ] [LT τ] [DecidableLT τ] in
theorem live_suffix (now : τ) (window : Window) (times : List τ) : live now window times <:+ times :=
  List.dropWhile_suffix _

/-- The time until the oldest reading leaves the window. -/
def waiting (now : τ) (window : Window) (oldest : τ) : τ :=
  let wait := oldest + ClockTime.seconds window.seconds - now
  if ClockTime.seconds 0 < wait then wait else ClockTime.seconds 0

/-- Drops outdated readings window by window, up to the first window that is full. -/
def survey (limits : Limits) (identity : String) (now : τ) : List Window → Table τ → Decision τ × Table τ
  | [], table => (.allowed, table)
  | w :: ws, table =>
    let times := live now w (table.queue identity w)
    let table := table.put identity w times
    match times with
    | [] => survey limits identity now ws table
    | oldest :: _ =>
      if limits.of w ≤ times.length then (.denied w (limits.of w) (waiting now w oldest), table)
      else survey limits identity now ws table

/-- What a sweep leaves of a queue; an empty queue goes. -/
def remaining? (now : τ) (q : Queue τ) : Option (Queue τ) :=
  match live now q.window q.times with
  | [] => none
  | times => some { q with times }

def sweep (l : Limiter τ) (now : τ) : Limiter τ :=
  { l with table := l.table.filterMap (remaining? now), lastSweep := now }

def sweepIfDue (l : Limiter τ) (now : τ) : Limiter τ :=
  if ClockTime.seconds sweepInterval ≤ now - l.lastSweep then l.sweep now else l

def check (l : Limiter τ) (identity : String) (now : τ) : Decision τ × Limiter τ :=
  let l := l.sweepIfDue now
  match survey l.limits identity now l.limits.enabled l.table with
  | (.allowed, table) => (.allowed, { l with table := table.record identity now l.limits.enabled })
  | (denied, table) => (denied, { l with table })

/-- Forgets every call; the time of the last sweep stays. -/
def reset (l : Limiter τ) : Limiter τ := { l with table := [] }

/-- The queues in order of identity and name of the window, with their lengths. -/
def tracked (l : Limiter τ) : List (String × String × Nat) :=
  (l.table.map fun q => (q.identity, q.window.name, q.times.length)).mergeSort fun a b =>
    decide (a.1 < b.1) || (a.1 == b.1 && decide (a.2.1 ≤ b.2.1))

end Limiter

end Tabletop
