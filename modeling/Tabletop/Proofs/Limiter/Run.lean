import Tabletop.Proofs.Limiter.Table
import Mathlib.Data.List.Induction

/-!
# Runs of a limiter

A limiter is asked by `check` and `reset`.  `Limiter.run` carries out a row of calls and keeps what was answered;
`admitted` is what a plain log of the answers says about an identity: the readings of its allowed checks since the
last reset.
-/

namespace Tabletop

namespace Limiter

variable {τ : Type}

/-! ### Calls and answers -/

inductive Call (τ : Type) where
  | check (identity : String) (now : τ)
  | reset

inductive Event (τ : Type) where
  | checked (identity : String) (now : τ) (decision : Decision τ)
  | reset

/-- The clock readings of the checks. -/
def readings : List (Call τ) → List τ
  | [] => []
  | .check _ now :: rest => now :: readings rest
  | .reset :: rest => readings rest

theorem readings_append (calls more : List (Call τ)) :
    readings (calls ++ more) = readings calls ++ readings more := by
  induction calls with
  | nil => rfl
  | cons c rest ih =>
    cases c with
    | check identity now => exact congrArg (now :: ·) ih
    | reset => exact ih

/-! ### The plain log -/

/-- What an event does to the readings that a log has of an identity. -/
def noted (identity : String) (log : List τ) : Event τ → List τ
  | .checked identity' now .allowed => if identity = identity' then log ++ [now] else log
  | .checked _ _ (.denied _ _ _) => log
  | .reset => []

def admitted (identity : String) (events : List (Event τ)) : List τ := events.foldl (noted identity) []

theorem admitted_snoc (identity : String) (events : List (Event τ)) (e : Event τ) :
    admitted identity (events ++ [e]) = noted identity (admitted identity events) e := by
  unfold admitted
  rw [List.foldl_append, List.foldl_cons, List.foldl_nil]

/-! ### Runs -/

variable [Add τ] [Sub τ] [LE τ] [LT τ] [DecidableLE τ] [DecidableLT τ] [ClockTime τ]

def answer (l : Limiter τ) : Call τ → Event τ × Limiter τ
  | .check identity now => (.checked identity now (l.check identity now).1, (l.check identity now).2)
  | .reset => (.reset, l.reset)

def run (l : Limiter τ) : List (Call τ) → List (Event τ) × Limiter τ
  | [] => ([], l)
  | c :: rest => ((l.answer c).1 :: ((l.answer c).2.run rest).1, ((l.answer c).2.run rest).2)

theorem run_snoc (l : Limiter τ) (calls : List (Call τ)) (c : Call τ) :
    l.run (calls ++ [c]) = ((l.run calls).1 ++ [((l.run calls).2.answer c).1], ((l.run calls).2.answer c).2) := by
  induction calls generalizing l with
  | nil => rfl
  | cons first rest ih =>
    rw [List.cons_append]
    unfold run
    rw [ih]
    rfl

/-- What a check can do: it surveys the swept table, and only an allowed call is recorded. -/
theorem check_cases (l : Limiter τ) (identity : String) (now : τ) :
    ∃ decision table,
      survey l.limits identity now l.limits.enabled (l.sweepIfDue now).table = (decision, table) ∧
        (l.check identity now).1 = decision ∧ (l.check identity now).2.limits = l.limits ∧
        (l.check identity now).2.table =
          match decision with
          | .allowed => table.record identity now l.limits.enabled
          | .denied _ _ _ => table := by
  unfold check
  simp only [sweepIfDue_limits]
  rcases survey l.limits identity now l.limits.enabled (l.sweepIfDue now).table with ⟨decision, table⟩
  refine ⟨decision, table, rfl, ?_⟩
  cases decision with
  | allowed => exact ⟨rfl, rfl, rfl⟩
  | denied window limit retryAfter => exact ⟨rfl, rfl, rfl⟩

theorem check_limits (l : Limiter τ) (identity : String) (now : τ) : (l.check identity now).2.limits = l.limits := by
  obtain ⟨decision, table, -, -, hlimits, -⟩ := check_cases l identity now
  exact hlimits

theorem run_limits (l : Limiter τ) (calls : List (Call τ)) : (l.run calls).2.limits = l.limits := by
  induction calls generalizing l with
  | nil => rfl
  | cons c rest ih =>
    refine (ih (l.answer c).2).trans ?_
    cases c with
    | check identity now => exact check_limits l identity now
    | reset => rfl

theorem admitted_sublist (l : Limiter τ) (identity : String) (calls : List (Call τ)) :
    (admitted identity (l.run calls).1).Sublist (readings calls) := by
  induction calls using List.reverseRecOn with
  | nil => exact List.Sublist.refl _
  | append_singleton calls c ih =>
    rw [run_snoc, admitted_snoc, readings_append]
    cases c with
    | reset => exact List.nil_sublist _
    | check identity' now =>
      show (noted identity _ (.checked identity' now ((l.run calls).2.check identity' now).1)).Sublist _
      cases ((l.run calls).2.check identity' now).1 with
      | denied => exact ih.trans (List.sublist_append_left _ _)
      | allowed =>
        show (if identity = identity' then _ ++ [now] else _).Sublist (readings calls ++ [now])
        split
        · exact ih.append (List.Sublist.refl _)
        · exact ih.trans (List.sublist_append_left _ _)

end Limiter

end Tabletop
