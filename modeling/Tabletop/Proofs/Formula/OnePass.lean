import Tabletop.Formula.Roll

/-!
# One pass and a tree

Reading a formula to its tree and working the tree out afterwards comes to the same as working the formula out while
it is read: `rollNormal_eq_settle`.  This holds of the outcome, of the fault and of the source that is left, whether or
not the text is a formula, because a `Break` keeps the parts that were complete when the reading broke off, and these
are the parts that the one pass has worked out by then.
-/

namespace Tabletop.Formula

variable {σ : Type}

/-! ### Faults before any draw -/

private theorem lift_bind {α β : Type} (x : Except Fault α) (f : α → Except Fault β) :
    (liftM (x >>= f) : Roller σ β) = liftM x >>= fun a => liftM (f a) := by
  cases x with
  | error fault => rfl
  | ok a => rfl

private theorem throw_bind {α β : Type} (fault : Fault) (f : α → Roller σ β) :
    (throw fault : Roller σ α) >>= f = throw fault := rfl

variable [RandomSource σ]

/-! ### What a reading comes to -/

/-- Works out formulas one after the other for what they draw; the first fault ends it. -/
def evaluateAll : List Formula → Roller σ Unit
  | [] => pure ()
  | f :: rest => do
    let _ ← evaluate f
    evaluateAll rest

/-- Works out what was complete where a reading broke off. -/
def abandon {α : Type} (b : Break) : Roller σ α := do
  evaluateAll b.completed
  throw b.fault

def settleReading : Reading Formula → Roller σ (Outcome × Cursor)
  | .ok (f, c) => do
    let o ← f.evaluate
    return (o, c)
  | .error b => abandon b

def settle : Except Break Formula → Roller σ Outcome
  | .ok f => f.evaluate
  | .error b => abandon b

private theorem settleReading_ok (r : Formula × Cursor) :
    (settleReading (.ok r) : Roller σ (Outcome × Cursor)) = r.1.evaluate >>= fun o => pure (o, r.2) := rfl

private theorem settleReading_error (b : Break) :
    (settleReading (.error b) : Roller σ (Outcome × Cursor)) = abandon b := rfl

private theorem abandon_nil {α : Type} (fault : Fault) :
    (abandon ⟨[], fault⟩ : Roller σ α) = throw fault := by
  simp [abandon, evaluateAll]

private theorem abandon_singleton {α : Type} (f : Formula) (fault : Fault) :
    (abandon ⟨[f], fault⟩ : Roller σ α) = f.evaluate >>= fun _ => throw fault := by
  simp [abandon, evaluateAll]

private theorem abandon_after {α : Type} (f : Formula) (b : Break) :
    (abandon (b.after f) : Roller σ α) = f.evaluate >>= fun _ => abandon b := by
  simp [abandon, Break.after, evaluateAll]

private theorem abandon_bind {α β : Type} (b : Break) (f : α → Roller σ β) :
    (abandon b : Roller σ α) >>= f = abandon b := by
  simp only [abandon, bind_assoc, throw_bind]

/-! ### Every part of the one pass -/

/-- A term draws only when all of it was read, so a fault of its text has no completed part before it. -/
theorem rollTerm_eq (c : Cursor) :
    (rollTerm c : Roller σ (Outcome × Cursor)) = settleReading ((term c).mapError (⟨[], ·⟩)) := by
  have h : (rollTerm c : Roller σ (Outcome × Cursor)) = do
      let (f, c') ← (liftM (term c) : Roller σ (Formula × Cursor))
      let o ← f.evaluate
      return (o, c') := by
    unfold rollTerm term
    simp only [lift_bind, bind_assoc]
    congr 1
    funext r
    split
    · simp only [lift_bind, bind_assoc]
      congr 1
    · cases r.1 with
      | none => rfl
      | some n => rfl
  rw [h]
  cases term c with
  | error fault => exact (abandon_nil fault).symm
  | ok r => rfl

private theorem rollJoined_eq {symbol? : Char → Option Symbol} {operand : Passage σ}
    {read : Cursor → Reading Formula} (h : ∀ c, operand c = settleReading (read c)) (room : Nat) (left : Formula)
    (c : Cursor) :
    (left.evaluate >>= fun o => rollJoined symbol? operand room o c) =
      settleReading (joinWithin symbol? read room left c) := by
  induction room generalizing left c with
  | zero => rfl
  | succ room ih =>
    unfold rollJoined joinWithin
    cases c.next?.bind symbol? with
    | none => rfl
    | some symbol =>
      -- A break in the right operand keeps `left` before what was complete there.
      simp only [h]
      cases read c.skip with
      | error b => simp only [settleReading_error, abandon_bind, abandon_after]
      | ok r =>
        simp only [settleReading_ok, bind_assoc, pure_bind]
        rw [← ih]
        simp only [evaluate, bind_assoc]

theorem rollChain_eq {symbol? : Char → Option Symbol} {operand : Passage σ}
    {read : Cursor → Reading Formula} (h : ∀ c, operand c = settleReading (read c)) (c : Cursor) :
    rollChain symbol? operand c = settleReading (chain symbol? read c) := by
  unfold rollChain chain
  rw [h]
  cases read c with
  | error b => simp only [settleReading_error, abandon_bind]
  | ok r =>
    rw [← rollJoined_eq h]
    simp only [settleReading_ok, bind_assoc, pure_bind]

theorem rollFactor_none_eq (c : Cursor) :
    (rollFactor none c : Roller σ (Outcome × Cursor)) = settleReading (factor none c) := by
  unfold rollFactor factor
  split
  · exact (abandon_nil _).symm
  · exact rollTerm_eq c

theorem rollFactor_some_eq {inside : Passage σ} {read : Cursor → Reading Formula}
    (h : ∀ c, inside c = settleReading (read c)) (c : Cursor) :
    rollFactor (some inside) c = settleReading (factor (some read) c) := by
  unfold rollFactor factor
  split
  · simp only [h]
    cases read c.skip with
    | error b => simp only [settleReading_error, abandon_bind]
    | ok r =>
      simp only [settleReading_ok, bind_assoc, pure_bind]
      split
      · simp only [settleReading_ok, evaluate, bind_assoc, pure_bind]
      · exact (abandon_singleton r.1 _).symm
  · exact rollTerm_eq c

theorem rollExpression_eq (room : Nat) (c : Cursor) :
    (rollExpression room c : Roller σ (Outcome × Cursor)) = settleReading (expression room c) := by
  induction room generalizing c with
  | zero => exact rollChain_eq (rollChain_eq rollFactor_none_eq) c
  | succ room ih => exact rollChain_eq (rollChain_eq (rollFactor_some_eq ih)) c

theorem rollNormal_eq_settle (text : List Char) : (rollNormal text : Roller σ Outcome) = settle (read text) := by
  unfold rollNormal read
  split
  · exact (abandon_nil _).symm
  · split
    · exact (abandon_nil _).symm
    · rw [rollExpression_eq]
      cases expression maxNesting (.start text) with
      | error b => simp only [settleReading_error, settle, abandon_bind]
      | ok r =>
        simp only [settleReading_ok, bind_assoc, pure_bind]
        cases r.2.next? with
        | none => exact bind_pure _
        | some found => exact (abandon_singleton r.1 _).symm

end Tabletop.Formula
