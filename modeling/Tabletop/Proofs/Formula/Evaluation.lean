import Tabletop.Proofs.Formula.Grammar
import Tabletop.Formula.Basic

/-!
# When a formula has an outcome

Working a formula out succeeds exactly if its dice terms are within their bounds and no operator gives a result that is
too long (`evaluate_succeeds_iff`).  The results of the operators are those of `Formula.tally`, which computes with the
same faces and refuses nothing.
-/

namespace Tabletop

/-! ### Computations that succeed -/

namespace Roller

variable {σ α β : Type}

theorem bind_eq_ok {x : Roller σ α} {f : α → Roller σ β} {s s' : σ} {b : β} :
    (x >>= f).run.run s = (Except.ok b, s') ↔
      ∃ a s₁, x.run.run s = (Except.ok a, s₁) ∧ (f a).run.run s₁ = (Except.ok b, s') := by
  rw [ExceptT.run_bind, StateT.run_bind]
  cases hx : x.run.run s with
  | mk r s₁ =>
    cases r with
    | error fault =>
      constructor
      · intro h
        cases h
      · rintro ⟨a, s₂, h, -⟩
        cases h
    | ok a =>
      constructor
      · intro h
        exact ⟨a, s₁, rfl, h⟩
      · rintro ⟨a', s₂, h, hf⟩
        cases h
        exact hf

theorem bind_eq_error {x : Roller σ α} {f : α → Roller σ β} {s s' : σ} {fault : Fault} :
    (x >>= f).run.run s = (Except.error fault, s') ↔
      x.run.run s = (Except.error fault, s') ∨
        ∃ a s₁, x.run.run s = (Except.ok a, s₁) ∧ (f a).run.run s₁ = (Except.error fault, s') := by
  rw [ExceptT.run_bind, StateT.run_bind]
  cases hx : x.run.run s with
  | mk r s₁ =>
    cases r with
    | error fault₁ =>
      constructor
      · intro h
        cases h
        exact .inl rfl
      · rintro (h | ⟨a, s₂, h, -⟩)
        · cases h
          rfl
        · cases h
    | ok a =>
      constructor
      · intro h
        exact .inr ⟨a, s₁, rfl, h⟩
      · rintro (h | ⟨a', s₂, h, hf⟩)
        · cases h
        · cases h
          exact hf

theorem pure_eq_ok {a b : α} {s s' : σ} :
    (pure a : Roller σ α).run.run s = (Except.ok b, s') ↔ a = b ∧ s = s' := by
  constructor
  · intro h
    cases h
    exact ⟨rfl, rfl⟩
  · rintro ⟨rfl, rfl⟩
    rfl

theorem throw_ne_ok {fault : Fault} {b : α} {s s' : σ} :
    (throw fault : Roller σ α).run.run s ≠ (Except.ok b, s') := by
  intro h
  cases h

theorem pure_ne_error {a : α} {fault : Fault} {s s' : σ} :
    (pure a : Roller σ α).run.run s ≠ (Except.error fault, s') := by
  intro h
  cases h

theorem throw_eq_error {fault fault' : Fault} {s s' : σ} :
    (throw fault : Roller σ α).run.run s = (Except.error fault', s') ↔ fault = fault' ∧ s = s' := by
  constructor
  · intro h
    cases h
    exact ⟨rfl, rfl⟩
  · rintro ⟨rfl, rfl⟩
    rfl

/-- What draws nothing leaves the source as it is. -/
theorem liftM_eq_ok {x : Except Fault α} {b : α} {s s' : σ} :
    (liftM x : Roller σ α).run.run s = (Except.ok b, s') ↔ x = .ok b ∧ s = s' := by
  cases x with
  | error fault =>
    constructor
    · intro h
      cases h
    · rintro ⟨h, -⟩
      cases h
  | ok a =>
    constructor
    · intro h
      cases h
      exact ⟨rfl, rfl⟩
    · rintro ⟨h, rfl⟩
      cases h
      rfl

theorem liftM_eq_error {x : Except Fault α} {fault : Fault} {s s' : σ} :
    (liftM x : Roller σ α).run.run s = (Except.error fault, s') ↔ x = .error fault ∧ s = s' := by
  cases x with
  | error fault₁ =>
    constructor
    · intro h
      cases h
      exact ⟨rfl, rfl⟩
    · rintro ⟨h, rfl⟩
      cases h
      rfl
  | ok a =>
    constructor
    · intro h
      cases h
    · rintro ⟨h, -⟩
      cases h

/-- What only draws always succeeds. -/
theorem lift_eq_ok {x : StateM σ α} {b : α} {s s' : σ} :
    (ExceptT.lift x : Roller σ α).run.run s = (Except.ok b, s') ↔ x.run s = (b, s') := by
  rw [ExceptT.run_lift, StateT.run_map]
  cases hx : x.run s with
  | mk a s₁ =>
    constructor
    · intro h
      cases h
      rfl
    · intro h
      cases h
      rfl

theorem lift_ne_error {x : StateM σ α} {fault : Fault} {s s' : σ} :
    (ExceptT.lift x : Roller σ α).run.run s ≠ (Except.error fault, s') := by
  rw [ExceptT.run_lift, StateT.run_map]
  intro h
  cases h

/-- A computation that cannot fail runs in two steps. -/
theorem draw_bind_eq {x : StateM σ α} {f : α → StateM σ β} {s s' : σ} {b : β} :
    (x >>= f).run s = (b, s') ↔ ∃ a s₁, x.run s = (a, s₁) ∧ (f a).run s₁ = (b, s') := by
  rw [StateT.run_bind]
  cases hx : x.run s with
  | mk a s₁ =>
    constructor
    · intro h
      exact ⟨a, s₁, rfl, h⟩
    · rintro ⟨a', s₂, h, hf⟩
      cases h
      exact hf

end Roller

/-! ### Dice terms -/

/-- The bounds of a dice term; percentile dice have 100 sides, and Fudge dice have none to bound. -/
def DiceTerm.InBounds (t : DiceTerm) : Prop :=
  (1 ≤ t.count ∧ t.count ≤ maxCount) ∧
    match t.kind with
    | .sided sides _ => (1 ≤ sides ∧ sides ≤ maxSides) ∧ t.count * sides ≤ maxOutcomeSpace
    | .percentile => t.count * percentileSides ≤ maxOutcomeSpace
    | .fudge => True

namespace DiceTerm

private theorem guard_eq_ok_iff {p : Prop} [Decidable p] {fault : Fault} :
    (if p then .ok () else .error fault : Except Fault Unit) = .ok () ↔ p := by
  split <;> simp [*]

private theorem both_eq_ok_iff {x y : Except Fault Unit} :
    (x >>= fun _ => y) = .ok () ↔ x = .ok () ∧ y = .ok () := by
  cases x with
  | error fault => exact ⟨fun h => (by cases h), fun h => (by cases h.1)⟩
  | ok u => exact ⟨fun h => ⟨rfl, h⟩, fun h => h.2⟩

private theorem checkBounds_eq_ok_iff {count sides : Int} :
    checkBounds count sides = .ok () ↔
      (1 ≤ count ∧ count ≤ maxCount) ∧ (1 ≤ sides ∧ sides ≤ maxSides) ∧ count * sides ≤ maxOutcomeSpace := by
  unfold checkBounds
  rw [both_eq_ok_iff, both_eq_ok_iff]
  exact and_congr guard_eq_ok_iff (and_congr guard_eq_ok_iff guard_eq_ok_iff)

theorem check_eq_ok_iff {t : DiceTerm} : t.check = .ok () ↔ t.InBounds := by
  unfold check InBounds
  cases t.kind with
  | sided sides m => exact checkBounds_eq_ok_iff
  | percentile =>
    have hsides : (1 : Int) ≤ percentileSides ∧ (percentileSides : Int) ≤ maxSides := by decide
    simp only [checkBounds_eq_ok_iff, hsides, and_self, true_and]
  | fudge => simp only [checkCount, guard_eq_ok_iff, and_true]

variable {σ : Type} [RandomSource σ]

/-- A term within its bounds is thrown; any other one draws nothing. -/
theorem roll_eq_ok_iff {t : DiceTerm} {s s' : σ} {o : Outcome} :
    t.roll.run.run s = (Except.ok o, s') ↔ t.InBounds ∧ t.throwAll.run s = (o, s') := by
  unfold roll
  rw [Roller.bind_eq_ok, ← check_eq_ok_iff]
  constructor
  · rintro ⟨u, s₁, hcheck, hthrow⟩
    obtain ⟨hok, rfl⟩ := Roller.liftM_eq_ok.mp hcheck
    exact ⟨hok, Roller.lift_eq_ok.mp hthrow⟩
  · rintro ⟨hok, hthrow⟩
    exact ⟨(), s, Roller.liftM_eq_ok.mpr ⟨hok, rfl⟩, Roller.lift_eq_ok.mpr hthrow⟩

/-- A term is refused before any die is thrown. -/
theorem roll_eq_error_iff {t : DiceTerm} {s s' : σ} {fault : Fault} :
    t.roll.run.run s = (Except.error fault, s') ↔ t.check = .error fault ∧ s = s' := by
  unfold roll
  rw [Roller.bind_eq_error]
  constructor
  · rintro (hcheck | ⟨u, s₁, -, hthrow⟩)
    · exact Roller.liftM_eq_error.mp hcheck
    · exact absurd hthrow Roller.lift_ne_error
  · intro h
    exact .inl (Roller.liftM_eq_error.mpr h)

end DiceTerm

/-! ### Formulas -/

private theorem exists_combine_eq_ok {op : Operator} {left right : Outcome}
    (h : (op.apply left.total right.total).natAbs < Outcome.resultBound) :
    ∃ o, Outcome.combine op left right = .ok o ∧ o.total = op.apply left.total right.total := by
  simp only [Outcome.combine, Outcome.checkResult_eq_ok_iff.mpr h]
  exact ⟨_, rfl, rfl⟩

/-- The total of a formula and the totals of all its operators in the order in which they are applied. -/
structure Tally where
  total : Int
  results : List Int
  deriving DecidableEq, Repr

/-- The results of all operators are short enough. -/
def Tally.IsShort (y : Tally) : Prop := ∀ n ∈ y.results, n.natAbs < Outcome.resultBound

private theorem isShort_join {a b : Tally} {op : Operator} :
    Tally.IsShort ⟨op.apply a.total b.total, a.results ++ b.results ++ [op.apply a.total b.total]⟩ ↔
      a.IsShort ∧ b.IsShort ∧ (op.apply a.total b.total).natAbs < Outcome.resultBound := by
  unfold Tally.IsShort
  simp only [List.forall_mem_append, List.forall_mem_singleton, and_assoc]

namespace Formula

variable {σ : Type} [RandomSource σ]

/-- The arithmetic of a formula on the faces that are drawn for it from the left to the right; no bound is looked at. -/
def tally : Formula → StateM σ Tally
  | literal negative n => pure ⟨literalValue negative n, []⟩
  | dice d => do
    let o ← d.term.throwAll
    return ⟨o.total, []⟩
  | group inner => tally inner
  | binary symbol left right => do
    let a ← tally left
    let b ← tally right
    let total := symbol.operator.apply a.total b.total
    return ⟨total, a.results ++ b.results ++ [total]⟩

private theorem tally_of_evaluate {f : Formula} {s s' : σ} {o : Outcome}
    (h : f.evaluate.run.run s = (Except.ok o, s')) :
    (∀ t ∈ f.diceTerms, t.InBounds) ∧ ∃ y, f.tally.run s = (y, s') ∧ y.total = o.total ∧ y.IsShort := by
  induction f generalizing s s' o with
  | literal negative n =>
    obtain ⟨rfl, rfl⟩ := Roller.pure_eq_ok.mp h
    exact ⟨by simp [diceTerms], _, rfl, rfl, by simp [Tally.IsShort]⟩
  | dice d =>
    obtain ⟨hbounds, hthrow⟩ := DiceTerm.roll_eq_ok_iff.mp h
    exact ⟨by simpa [diceTerms] using hbounds, _, Roller.draw_bind_eq.mpr ⟨o, s', hthrow, rfl⟩, rfl,
      by simp [Tally.IsShort]⟩
  | group inner ih =>
    obtain ⟨o₁, s₁, hinner, h⟩ := Roller.bind_eq_ok.mp h
    obtain ⟨rfl, rfl⟩ := Roller.pure_eq_ok.mp h
    exact ih (o := o₁) hinner
  | binary symbol left right ihl ihr =>
    obtain ⟨a, s₁, hleft, h⟩ := Roller.bind_eq_ok.mp h
    obtain ⟨b, s₂, hright, h⟩ := Roller.bind_eq_ok.mp h
    obtain ⟨hcombine, rfl⟩ := Roller.liftM_eq_ok.mp h
    obtain ⟨hdl, yl, htl, hyl, hsl⟩ := ihl hleft
    obtain ⟨hdr, yr, htr, hyr, hsr⟩ := ihr hright
    obtain ⟨htotal, -, hshort⟩ := Outcome.combine_eq_ok hcombine
    -- The bound is one of the outcomes; the tally has the same totals.
    rw [← hyl, ← hyr] at htotal
    rw [htotal] at hshort
    exact ⟨List.forall_mem_append.mpr ⟨hdl, hdr⟩, _,
      Roller.draw_bind_eq.mpr ⟨yl, s₁, htl, Roller.draw_bind_eq.mpr ⟨yr, s₂, htr, rfl⟩⟩, htotal.symm,
      isShort_join.mpr ⟨hsl, hsr, hshort⟩⟩

private theorem evaluate_of_tally {f : Formula} {s s' : σ} {y : Tally} (hdice : ∀ t ∈ f.diceTerms, t.InBounds)
    (h : f.tally.run s = (y, s')) (hy : y.IsShort) :
    ∃ o, f.evaluate.run.run s = (Except.ok o, s') ∧ o.total = y.total := by
  induction f generalizing s s' y with
  | literal negative n =>
    cases h
    exact ⟨_, rfl, rfl⟩
  | dice d =>
    obtain ⟨o, s₁, hthrow, h⟩ := Roller.draw_bind_eq.mp h
    cases h
    exact ⟨o, DiceTerm.roll_eq_ok_iff.mpr ⟨hdice _ (by simp [diceTerms]), hthrow⟩, rfl⟩
  | group inner ih =>
    obtain ⟨o, hinner, htotal⟩ := ih hdice h hy
    exact ⟨o.group, Roller.bind_eq_ok.mpr ⟨o, s', hinner, rfl⟩, htotal⟩
  | binary symbol left right ihl ihr =>
    obtain ⟨yl, s₁, hleft, h⟩ := Roller.draw_bind_eq.mp h
    obtain ⟨yr, s₂, hright, h⟩ := Roller.draw_bind_eq.mp h
    cases h
    obtain ⟨hdl, hdr⟩ := List.forall_mem_append.mp hdice
    obtain ⟨hsl, hsr, hshort⟩ := isShort_join.mp hy
    obtain ⟨a, ha, hta⟩ := ihl hdl hleft hsl
    obtain ⟨b, hb, htb⟩ := ihr hdr hright hsr
    rw [← hta, ← htb] at hshort
    obtain ⟨o, ho, hto⟩ := exists_combine_eq_ok hshort
    rw [hta, htb] at hto
    exact ⟨o, Roller.bind_eq_ok.mpr ⟨a, s₁, ha, Roller.bind_eq_ok.mpr ⟨b, s', hb, Roller.liftM_eq_ok.mpr ⟨ho, rfl⟩⟩⟩,
      hto⟩

/-- A formula has an outcome exactly if its dice are within their bounds and the results of its operators, with the
faces that the source gives, are short enough. -/
theorem evaluate_succeeds_iff {f : Formula} {s : σ} :
    (∃ o s', f.evaluate.run.run s = (Except.ok o, s')) ↔
      (∀ t ∈ f.diceTerms, t.InBounds) ∧ (f.tally.run s).1.IsShort := by
  constructor
  · rintro ⟨o, s', h⟩
    obtain ⟨hdice, y, hy, -, hshort⟩ := tally_of_evaluate h
    rw [hy]
    exact ⟨hdice, hshort⟩
  · rintro ⟨hdice, hshort⟩
    obtain ⟨o, ho, -⟩ := evaluate_of_tally hdice rfl hshort
    exact ⟨o, _, ho⟩

end Formula

end Tabletop
