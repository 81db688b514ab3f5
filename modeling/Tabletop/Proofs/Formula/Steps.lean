import Tabletop.Outcome.Stack
import Tabletop.Proofs.Formula.Evaluation

/-!
# The order of work

`Formula.steps` lists the steps that work a formula out on a stack of outcomes: the operands before their operator, the
left one before the right one, so that dice terms come in the order of the text.  To run them is to evaluate the formula
(`runAll_steps`).  A run that ends in a fault has taken all steps before a certain one, and this one draws nothing
(`exists_step_of_fault`); the steps that were taken rolled their dice terms one after the other (`rolled_of_runAll`).
-/

namespace Tabletop

/-! ### Rows of dice terms -/

namespace DiceTerm

theorem position_of_check {t : DiceTerm} {fault : Fault} (h : t.check = .error fault) : fault.position = none := by
  have hguard : ∀ {p : Prop} [Decidable p] {f : Fault}, f.position = none →
      (if p then .ok () else .error f : Except Fault Unit) = .error fault → fault.position = none := by
    intro p _ f hf hguard
    split at hguard
    · cases hguard
    · cases hguard
      exact hf
  have hbounds : ∀ {sides : Int}, checkBounds t.count sides = .error fault → fault.position = none := by
    intro sides hbounds
    unfold checkBounds at hbounds
    cases hcount : checkCount t.count with
    | error f =>
      rw [hcount] at hbounds
      cases hbounds
      exact hguard rfl hcount
    | ok u =>
      rw [hcount] at hbounds
      cases hsides : checkSides sides with
      | error f =>
        rw [hsides] at hbounds
        cases hbounds
        exact hguard rfl hsides
      | ok u =>
        rw [hsides] at hbounds
        exact hguard rfl hbounds
  unfold check at h
  split at h
  · exact hbounds h
  · exact hbounds h
  · exact hguard rfl h

variable {σ : Type} [RandomSource σ]

/-- The terms are rolled one after the other, each from the source that the one before has left, with these outcomes. -/
inductive Rolled : List DiceTerm → σ → List Outcome → σ → Prop where
  | nil (s : σ) : Rolled [] s [] s
  | cons {t : DiceTerm} {rest : List DiceTerm} {s s₁ s₂ : σ} {o : Outcome} {os : List Outcome}
      (h : t.roll.run.run s = (.ok o, s₁)) (hrest : Rolled rest s₁ os s₂) : Rolled (t :: rest) s (o :: os) s₂

end DiceTerm

/-! ### Rows of steps -/

namespace StackStep

def term? : StackStep → Option DiceTerm
  | throwDice t => some t
  | _ => none

variable {σ : Type} [RandomSource σ]

/-- One step after the other; the first fault ends the run. -/
def runAll : List StackStep → List Outcome → Roller σ (List Outcome)
  | [], stack => pure stack
  | step :: rest, stack => do
    let stack' ← step.run stack
    runAll rest stack'

/-- Only dice draw. -/
theorem run_eq_ok {step : StackStep} {stack stack' : List Outcome} {s s' : σ}
    (h : (step.run stack).run.run s = (Except.ok stack', s')) :
    (step.term? = none ∧ s' = s) ∨ ∃ t o, step.term? = some t ∧ t.roll.run.run s = (Except.ok o, s') := by
  unfold run at h
  split at h
  · exact .inl ⟨rfl, (Roller.pure_eq_ok.mp h).2.symm⟩
  · obtain ⟨o, s₁, hroll, h⟩ := Roller.bind_eq_ok.mp h
    obtain ⟨-, rfl⟩ := Roller.pure_eq_ok.mp h
    exact .inr ⟨_, o, rfl, hroll⟩
  · exact .inl ⟨rfl, (Roller.pure_eq_ok.mp h).2.symm⟩
  · exact .inl ⟨rfl, (Roller.pure_eq_ok.mp h).2.symm⟩
  · obtain ⟨o, s₁, hcombine, h⟩ := Roller.bind_eq_ok.mp h
    obtain ⟨-, rfl⟩ := Roller.liftM_eq_ok.mp hcombine
    exact .inl ⟨rfl, (Roller.pure_eq_ok.mp h).2.symm⟩
  · rename_i hdice _ _ _
    refine .inl ⟨?_, (Roller.pure_eq_ok.mp h).2.symm⟩
    cases step with
    | throwDice t => exact absurd rfl (hdice t)
    | push o => rfl
    | duplicate => rfl
    | group => rfl
    | combine op => rfl

theorem position_of_combine {op : Operator} {left right : Outcome} {fault : Fault}
    (h : Outcome.combine op left right = .error fault) : fault.position = none := by
  unfold Outcome.combine at h
  cases hcheck : Outcome.checkResult (op.apply left.total right.total) with
  | error f =>
    simp only [hcheck, bind, Except.bind, Except.error.injEq] at h
    subst h
    unfold Outcome.checkResult at hcheck
    split at hcheck
    · cases hcheck
      rfl
    · cases hcheck
  | ok u =>
    simp only [hcheck, bind, Except.bind, pure, Except.pure, reduceCtorEq] at h

/-- A step that ends in a fault has drawn nothing, and its fault points at no character. -/
theorem run_eq_error {step : StackStep} {stack : List Outcome} {s s' : σ} {fault : Fault}
    (h : (step.run stack).run.run s = (Except.error fault, s')) : s' = s ∧ fault.position = none := by
  unfold run at h
  split at h
  · exact absurd h Roller.pure_ne_error
  · rcases Roller.bind_eq_error.mp h with hroll | ⟨o, s₁, -, h⟩
    · obtain ⟨hcheck, rfl⟩ := DiceTerm.roll_eq_error_iff.mp hroll
      exact ⟨rfl, DiceTerm.position_of_check hcheck⟩
    · exact absurd h Roller.pure_ne_error
  · exact absurd h Roller.pure_ne_error
  · exact absurd h Roller.pure_ne_error
  · rcases Roller.bind_eq_error.mp h with hlift | ⟨o, s₁, -, h⟩
    · obtain ⟨hcombine, rfl⟩ := Roller.liftM_eq_error.mp hlift
      exact ⟨rfl, position_of_combine hcombine⟩
    · exact absurd h Roller.pure_ne_error
  · exact absurd h Roller.pure_ne_error

/-- The dice terms among the steps that were taken were rolled in their order, and nothing else was drawn. -/
theorem rolled_of_runAll {steps : List StackStep} {stack stack' : List Outcome} {s s' : σ}
    (h : (runAll steps stack).run.run s = (Except.ok stack', s')) :
    ∃ os, DiceTerm.Rolled (steps.filterMap term?) s os s' := by
  induction steps generalizing stack s with
  | nil =>
    obtain ⟨-, rfl⟩ := Roller.pure_eq_ok.mp h
    exact ⟨[], .nil s⟩
  | cons step rest ih =>
    obtain ⟨stack₁, s₁, hstep, h⟩ := Roller.bind_eq_ok.mp h
    obtain ⟨os, hos⟩ := ih h
    rcases run_eq_ok hstep with ⟨hterm, rfl⟩ | ⟨t, o, hterm, hroll⟩
    · rw [List.filterMap_cons_none hterm]
      exact ⟨os, hos⟩
    · rw [List.filterMap_cons_some hterm]
      exact ⟨o :: os, .cons hroll hos⟩

/-- Where a run ends in a fault, the steps before were taken, and the next one ends in this fault at once. -/
theorem exists_step_of_fault {steps : List StackStep} {stack : List Outcome} {s s' : σ} {fault : Fault}
    (h : (runAll steps stack).run.run s = (Except.error fault, s')) :
    ∃ done step rest stack', steps = done ++ step :: rest ∧
      (runAll done stack).run.run s = (Except.ok stack', s') ∧
      (step.run stack').run.run s' = (Except.error fault, s') := by
  induction steps generalizing stack s with
  | nil => exact absurd h Roller.pure_ne_error
  | cons step rest ih =>
    rcases Roller.bind_eq_error.mp h with hstep | ⟨stack₁, s₁, hstep, h⟩
    · obtain ⟨rfl, -⟩ := run_eq_error hstep
      exact ⟨[], step, rest, stack, rfl, rfl, hstep⟩
    · obtain ⟨done, last, rest', stack', rfl, hdone, hlast⟩ := ih h
      exact ⟨step :: done, last, rest', stack', rfl, Roller.bind_eq_ok.mpr ⟨stack₁, s₁, hstep, hdone⟩, hlast⟩

end StackStep

/-! ### The steps of a formula -/

namespace Formula

open StackStep

def steps : Formula → List StackStep
  | literal negative n => [.push (.literal (literalValue negative n))]
  | dice d => [.throwDice d.term]
  | group inner => steps inner ++ [.group]
  | binary symbol left right => steps left ++ steps right ++ [.combine symbol.operator]

/-- The dice terms come in the order of the text. -/
theorem filterMap_term?_steps (f : Formula) : f.steps.filterMap term? = f.diceTerms := by
  induction f with
  | literal negative n => rfl
  | dice d => rfl
  | group inner ih =>
    unfold steps diceTerms
    rw [List.filterMap_append, ih]
    exact List.append_nil _
  | binary symbol left right ihl ihr =>
    unfold steps diceTerms
    rw [List.filterMap_append, List.filterMap_append, ihl, ihr]
    exact List.append_nil _

variable {σ : Type} [RandomSource σ]

/-- The steps of a formula push its outcome. -/
theorem runAll_steps (f : Formula) (rest : List StackStep) (stack : List Outcome) :
    (runAll (f.steps ++ rest) stack : Roller σ (List Outcome)) = f.evaluate >>= fun o => runAll rest (o :: stack) := by
  induction f generalizing rest stack with
  | literal negative n => rfl
  | dice d =>
    unfold steps evaluate
    simp only [List.singleton_append, runAll, run, bind_assoc, pure_bind]
  | group inner ih =>
    unfold steps evaluate
    rw [List.append_assoc, ih, bind_assoc]
    simp only [List.singleton_append, runAll, run, pure_bind]
  | binary symbol left right ihl ihr =>
    unfold steps evaluate
    rw [List.append_assoc, List.append_assoc, ihl]
    simp only [ihr, List.singleton_append, runAll, run, bind_assoc, pure_bind]

/-- Dice and operators are refused as a whole, at no character. -/
theorem position_of_evaluate {f : Formula} {s s' : σ} {fault : Fault}
    (h : f.evaluate.run.run s = (Except.error fault, s')) : fault.position = none := by
  have hrun : (runAll (f.steps ++ []) []).run.run s = (Except.error fault, s') := by
    rw [runAll_steps]
    exact Roller.bind_eq_error.mpr (.inl h)
  obtain ⟨-, step, -, stack, -, -, hstep⟩ := exists_step_of_fault hrun
  exact (run_eq_error hstep).2

end Formula

end Tabletop
