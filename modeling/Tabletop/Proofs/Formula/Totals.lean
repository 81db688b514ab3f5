import Tabletop.Proofs.Dice.Faces
import Tabletop.Proofs.Formula.Plan
import Tabletop.Proofs.History.Ledger
import Mathlib.Data.Nat.Digits.Defs

/-!
# Totals are short

Only the three operators look at their results.  With a fair source every outcome that a roll builds is short all the same,
be it the last one or one on the way (`Formula.isShort_of_plan`): numbers are written with at most `maxNumber`, dice are
bounded by what may be thrown, groups change nothing, and an operator refuses what is too long.  So whatever is rolled can be
kept as a text and read again (`Formula.isReadable_of_roll`).
-/

namespace Tabletop

namespace Outcome

theorem resultBound_eq : resultBound = 10 ^ maxResultDigits := by
  unfold resultBound
  rw [Nat.pow_eq]

/-- The total has at most `maxResultDigits` digits. -/
structure IsShort (o : Outcome) : Prop where
  lt : o.total.natAbs < 10 ^ maxResultDigits
  digits : (toString o.total).toList.countP Char.isDigit ≤ maxResultDigits

theorem isShort_of_lt {o : Outcome} (h : o.total.natAbs < resultBound) : o.IsShort := by
  rw [resultBound_eq] at h
  refine ⟨h, ?_⟩
  rw [Text.countP_isDigit_toString]
  exact Nat.toDigits_length 10 o.total.natAbs maxResultDigits (by decide) h

theorem isShort_of_le {o : Outcome} (h : o.total.natAbs ≤ DiceTerm.maxTotal) : o.IsShort := by
  have hshort : DiceTerm.maxTotal < 10 ^ 9 := by decide
  have hdigits : 10 ^ 9 ≤ 10 ^ maxResultDigits := Nat.pow_le_pow_right (by decide) (by decide)
  refine isShort_of_lt ?_
  rw [resultBound_eq]
  omega

/-- What is short can be read again. -/
theorem IsShort.isReadable {o : Outcome} (h : o.IsShort) : o.IsReadable := by
  have hdigits := h.digits
  rw [Text.countP_isDigit_toString] at hdigits
  exact hdigits.trans (by decide)

/-- A result that is too long is not even written. -/
theorem combine_of_large {op : Operator} {left right : Outcome}
    (h : resultBound ≤ (op.apply left.total right.total).natAbs) : left.combine op right = .error .resultTooLarge := by
  simp only [combine, checkResult, if_pos h]
  rfl

end Outcome

variable {σ : Type} [RandomSource σ]

/-- Whatever the modifiers of a term are. -/
theorem DiceTerm.total_le_of_roll (hfair : RandomSource.IsFair σ) {t : DiceTerm} {s s' : σ} {o : Outcome}
    (h : t.roll.run.run s = (Except.ok o, s')) : o.total.natAbs ≤ maxTotal := by
  obtain ⟨hbounds, hthrow⟩ := roll_eq_ok_iff.mp h
  have htotal := yields_throwAll hfair hbounds s
  rw [hthrow] at htotal
  exact htotal

/-! ### Steps on a stack -/

namespace StackStep

theorem run_isShort (hfair : RandomSource.IsFair σ) {step : StackStep} (hstep : ∀ o, step = .push o → o.IsShort)
    {stack stack' : List Outcome} (hstack : ∀ o ∈ stack, o.IsShort) {s s' : σ}
    (h : (step.run stack).run.run s = (Except.ok stack', s')) : ∀ o ∈ stack', o.IsShort := by
  unfold run at h
  split at h
  · rename_i o
    obtain ⟨rfl, -⟩ := Roller.pure_eq_ok.mp h
    exact List.forall_mem_cons.mpr ⟨hstep o rfl, hstack⟩
  · obtain ⟨o, s₁, hroll, h⟩ := Roller.bind_eq_ok.mp h
    obtain ⟨rfl, -⟩ := Roller.pure_eq_ok.mp h
    exact List.forall_mem_cons.mpr ⟨Outcome.isShort_of_le (DiceTerm.total_le_of_roll hfair hroll), hstack⟩
  · obtain ⟨rfl, -⟩ := Roller.pure_eq_ok.mp h
    exact List.forall_mem_cons.mpr ⟨hstack _ List.mem_cons_self, hstack⟩
  · obtain ⟨rfl, -⟩ := Roller.pure_eq_ok.mp h
    obtain ⟨⟨hlt, hdigits⟩, hrest⟩ := List.forall_mem_cons.mp hstack
    exact List.forall_mem_cons.mpr ⟨⟨hlt, hdigits⟩, hrest⟩
  · -- Nothing is asked of the operands here: the operator has looked at the result itself.
    obtain ⟨o, s₁, hcombine, h⟩ := Roller.bind_eq_ok.mp h
    obtain ⟨rfl, -⟩ := Roller.pure_eq_ok.mp h
    obtain ⟨hcombine, -⟩ := Roller.liftM_eq_ok.mp hcombine
    obtain ⟨-, hbelow⟩ := List.forall_mem_cons.mp hstack
    obtain ⟨-, hrest⟩ := List.forall_mem_cons.mp hbelow
    exact List.forall_mem_cons.mpr ⟨Outcome.isShort_of_lt (Outcome.combine_eq_ok hcombine).2.2, hrest⟩
  · obtain ⟨rfl, -⟩ := Roller.pure_eq_ok.mp h
    exact hstack

theorem runAll_isShort (hfair : RandomSource.IsFair σ) {steps : List StackStep}
    (hsteps : ∀ o, .push o ∈ steps → o.IsShort) {stack stack' : List Outcome} (hstack : ∀ o ∈ stack, o.IsShort) {s s' : σ}
    (h : (runAll steps stack).run.run s = (Except.ok stack', s')) : ∀ o ∈ stack', o.IsShort := by
  induction steps generalizing stack s with
  | nil =>
    obtain ⟨rfl, -⟩ := Roller.pure_eq_ok.mp h
    exact hstack
  | cons step rest ih =>
    obtain ⟨stack₁, s₁, hstep, h⟩ := Roller.bind_eq_ok.mp h
    refine ih (fun o ho => hsteps o (List.mem_cons_of_mem step ho)) (run_isShort hfair ?_ hstack hstep) h
    rintro o rfl
    exact hsteps o List.mem_cons_self

end StackStep

/-! ### Rolls -/

namespace Formula

open StackStep

/-- Whatever lies on the stack after some first steps of the plan is short. -/
theorem isShort_of_plan (hfair : RandomSource.IsFair σ) {text : List Char} {done rest : List StackStep}
    (hplan : plan text = done ++ rest) {source source' : σ} {stack : List Outcome}
    (h : (runAll done []).run.run source = (Except.ok stack, source')) : ∀ o ∈ stack, o.IsShort := by
  refine runAll_isShort hfair (fun o ho => Outcome.isShort_of_le ?_) (by simp) h
  have hpush : .push o ∈ plan text := by
    rw [hplan]
    exact List.mem_append_left rest ho
  obtain ⟨value, rfl, hvalue⟩ := exists_literal_of_push hpush
  exact hvalue.trans (by decide)

omit [RandomSource σ] in
private theorem conclude_eq_ok {text : List Char} {stack stack' : List Outcome} {s s' : σ}
    (h : (conclude text stack).run.run s = (Except.ok stack', s')) : stack' = stack ∧ s' = s := by
  unfold conclude at h
  split at h
  · obtain ⟨rfl, rfl⟩ := Roller.pure_eq_ok.mp h
    exact ⟨rfl, rfl⟩
  · exact absurd h Roller.throw_ne_ok

/-- The outcome of a text is the last one that is built. -/
theorem runAll_plan_of_roll {text : String} {source source' : σ} {o : Outcome}
    (h : (roll text).run.run source = (Except.ok o, source')) :
    (runAll (plan (normalize text)) []).run.run source = (Except.ok [o], source') := by
  have hmap : (List.singleton <$> rollNormal (normalize text) : Roller σ (List Outcome)).run.run source =
      (Except.ok [o], source') := by
    rw [map_eq_pure_bind]
    exact Roller.bind_eq_ok.mpr ⟨o, source', h, rfl⟩
  rw [rollNormal_eq_plan] at hmap
  obtain ⟨stack, s₁, hrun, hconclude⟩ := Roller.bind_eq_ok.mp hmap
  obtain ⟨rfl, rfl⟩ := conclude_eq_ok hconclude
  exact hrun

theorem isShort_of_roll (hfair : RandomSource.IsFair σ) {text : String} {source source' : σ} {o : Outcome}
    (h : (roll text).run.run source = (Except.ok o, source')) : o.IsShort :=
  isShort_of_plan hfair (List.append_nil _).symm (runAll_plan_of_roll h) o List.mem_cons_self

theorem isReadable_of_roll (hfair : RandomSource.IsFair σ) {text : String} {source source' : σ} {o : Outcome}
    (h : (roll text).run.run source = (Except.ok o, source')) : o.IsReadable :=
  (isShort_of_roll hfair h).isReadable

/-- The outcomes that rolls of a text build, whether they succeed or not. -/
structure StaysShort (σ : Type) [RandomSource σ] (text : String) : Prop where
  /-- A roll builds what the steps of the plan put on the stack, and nothing else. -/
  roll_eq : (List.singleton <$> roll text : Roller σ (List Outcome)) =
    runAll (plan (normalize text)) [] >>= conclude (normalize text)
  built : ∀ done rest, plan (normalize text) = done ++ rest → ∀ (source source' : σ) (stack : List Outcome),
    (runAll done []).run.run source = (.ok stack, source') → ∀ o ∈ stack, o.IsShort
  numbers : ∀ o, .push o ∈ plan (normalize text) → ∃ value : Int, o = .literal value ∧ value.natAbs ≤ maxNumber
  dice : ∀ t : DiceTerm, .throwDice t ∈ plan (normalize text) → ∀ (source source' : σ) (o : Outcome),
    t.roll.run.run source = (.ok o, source') → o.total.natAbs ≤ DiceTerm.maxTotal
  results : ∀ (op : Operator) (left right : Outcome) (stack : List Outcome) (source : σ),
    Outcome.resultBound ≤ (op.apply left.total right.total).natAbs →
      ((StackStep.combine op).run (right :: left :: stack)).run.run source = (.error .resultTooLarge, source)
  outcome : ∀ (source source' : σ) (o : Outcome), (roll text).run.run source = (.ok o, source') → o.IsShort

/-- What a term may come to at most. -/
example : DiceTerm.maxTotal = 101 * 1000000 := rfl

theorem staysShort (hfair : RandomSource.IsFair σ) (text : String) : StaysShort σ text where
  roll_eq := rollNormal_eq_plan (normalize text)
  built := fun _ _ hplan _ _ _ hrun => isShort_of_plan hfair hplan hrun
  numbers := fun _ hpush => exists_literal_of_push hpush
  dice := fun _ _ _ _ _ hroll => DiceTerm.total_le_of_roll hfair hroll
  results := by
    intro op left right stack source hlarge
    exact Roller.bind_eq_error.mpr (.inl (Roller.liftM_eq_error.mpr ⟨Outcome.combine_of_large hlarge, rfl⟩))
  outcome := fun _ _ _ hroll => isShort_of_roll hfair hroll

end Formula

end Tabletop
