import Tabletop.Proofs.Formula.Rendering

/-!
# Luck does not change the syntax

`verdict` says without drawing a face what becomes of a text: the canonical form that it has, or the fault that refuses it.
Whatever the source gives, a roll that succeeds has this canonical form, and a roll that is refused has this fault, unless an
operator came to a result that is too long (`foretold_roll`).  So two rolls of one text differ in nothing else
(`roll_alike`).
-/

namespace Tabletop.Formula

/-! ### What can be known before a roll -/

/-- Looks at the dice terms of a formula in the order of the text and throws none. -/
def inspect : Formula → Except Fault Unit
  | literal _ _ => .ok ()
  | dice d => d.term.check
  | group inner => inspect inner
  | binary _ left right => do
    inspect left
    inspect right

def inspectAll : List Formula → Except Fault Unit
  | [] => .ok ()
  | f :: rest => do
    inspect f
    inspectAll rest

/-- The canonical form of a text in normal form, or why it is refused. -/
def verdict (text : List Char) : Except Fault String :=
  match read text with
  | .ok f => do
    inspect f
    return f.rendered
  | .error b => do
    inspectAll b.completed
    throw b.fault

variable {σ : Type} [RandomSource σ]

/-! ### Formulas -/

theorem inspect_of_evaluate {f : Formula} {s s' : σ} {o : Outcome}
    (h : f.evaluate.run.run s = (Except.ok o, s')) : f.inspect = .ok () := by
  induction f generalizing s s' o with
  | literal negative n => rfl
  | dice d => exact DiceTerm.check_eq_ok_iff.mpr (DiceTerm.roll_eq_ok_iff.mp h).1
  | group inner ih =>
    obtain ⟨o₁, s₁, hinner, -⟩ := Roller.bind_eq_ok.mp h
    exact ih hinner
  | binary symbol left right ihl ihr =>
    obtain ⟨a, s₁, hleft, h⟩ := Roller.bind_eq_ok.mp h
    obtain ⟨b, s₂, hright, -⟩ := Roller.bind_eq_ok.mp h
    unfold inspect
    rw [ihl hleft]
    exact ihr hright

private theorem combine_eq_error {op : Operator} {left right : Outcome} {fault : Fault}
    (h : Outcome.combine op left right = .error fault) : fault = .resultTooLarge := by
  unfold Outcome.combine Outcome.checkResult at h
  dsimp only at h
  split at h
  · cases h
    rfl
  · cases h

theorem inspect_of_evaluate_error {f : Formula} {s s' : σ} {fault : Fault}
    (h : f.evaluate.run.run s = (Except.error fault, s')) (hfault : fault ≠ .resultTooLarge) :
    f.inspect = .error fault := by
  induction f generalizing s s' with
  | literal negative n => exact absurd h Roller.pure_ne_error
  | dice d => exact (DiceTerm.roll_eq_error_iff.mp h).1
  | group inner ih =>
    rcases Roller.bind_eq_error.mp h with hinner | ⟨o, s₁, -, h⟩
    · exact ih hinner
    · exact absurd h Roller.pure_ne_error
  | binary symbol left right ihl ihr =>
    unfold inspect
    rcases Roller.bind_eq_error.mp h with hleft | ⟨a, s₁, hleft, h⟩
    · rw [ihl hleft]
      rfl
    · rw [inspect_of_evaluate hleft]
      rcases Roller.bind_eq_error.mp h with hright | ⟨b, s₂, hright, h⟩
      · exact ihr hright
      · exact absurd (combine_eq_error (Roller.liftM_eq_error.mp h).1) hfault

theorem inspectAll_of_evaluateAll {parts : List Formula} {s s' : σ}
    (h : (evaluateAll parts).run.run s = (Except.ok (), s')) : inspectAll parts = .ok () := by
  induction parts generalizing s with
  | nil => rfl
  | cons f rest ih =>
    obtain ⟨o, s₁, hf, h⟩ := Roller.bind_eq_ok.mp h
    unfold inspectAll
    rw [inspect_of_evaluate hf]
    exact ih h

theorem inspectAll_of_evaluateAll_error {parts : List Formula} {s s' : σ} {fault : Fault}
    (h : (evaluateAll parts).run.run s = (Except.error fault, s')) (hfault : fault ≠ .resultTooLarge) :
    inspectAll parts = .error fault := by
  induction parts generalizing s with
  | nil => exact absurd h Roller.pure_ne_error
  | cons f rest ih =>
    unfold inspectAll
    rcases Roller.bind_eq_error.mp h with hf | ⟨o, s₁, hf, h⟩
    · rw [inspect_of_evaluate_error hf hfault]
      rfl
    · rw [inspect_of_evaluate hf]
      exact ih h

/-! ### Texts -/

theorem verdict_of_roll {text : String} {s s' : σ} {o : Outcome}
    (h : (roll text).run.run s = (Except.ok o, s')) : verdict (normalize text) = .ok o.expression := by
  obtain ⟨f, hread⟩ := read_of_roll h
  rw [roll_of_read hread] at h
  unfold verdict
  rw [hread, evaluate_expression h]
  dsimp only
  rw [inspect_of_evaluate h]
  rfl

theorem verdict_of_roll_error {text : String} {s s' : σ} {fault : Fault}
    (h : (roll text).run.run s = (Except.error fault, s')) (hfault : fault ≠ .resultTooLarge) :
    verdict (normalize text) = .error fault := by
  unfold roll at h
  rw [rollNormal_eq_settle] at h
  unfold verdict
  cases hread : read (normalize text) with
  | ok f =>
    rw [hread] at h
    dsimp only
    rw [inspect_of_evaluate_error h hfault]
    rfl
  | error b =>
    rw [hread] at h
    dsimp only
    rcases Roller.bind_eq_error.mp h with hparts | ⟨u, s₁, hparts, h⟩
    · rw [inspectAll_of_evaluateAll_error hparts hfault]
      rfl
    · obtain ⟨rfl, -⟩ := Roller.throw_eq_error.mp h
      rw [inspectAll_of_evaluateAll hparts]
      rfl

/-- A roll comes to the verdict, or to a result that is too long. -/
theorem foretold_roll (text : String) (s : σ) :
    ((roll text).run.run s).1 = Except.error .resultTooLarge ∨
      ((roll text).run.run s).1.map Outcome.expression = verdict (normalize text) := by
  rcases hrun : (roll text).run.run s with ⟨r, s'⟩
  cases r with
  | ok o =>
    right
    rw [verdict_of_roll hrun]
    rfl
  | error fault =>
    by_cases hfault : fault = .resultTooLarge
    · left
      rw [hfault]
    · right
      rw [verdict_of_roll_error hrun hfault]
      rfl

/-- Rolled from whatever two sources, a text has one canonical form or is refused for one reason, unless one of the rolls
comes to a result that is too long. -/
theorem roll_alike (text : String) {τ : Type} [RandomSource τ] (source : σ) (other : τ) :
    (∃ o o', ((roll text).run.run source).1 = Except.ok o ∧ ((roll text).run.run other).1 = Except.ok o' ∧
        o.expression = o'.expression) ∨
      (∃ fault, ((roll text).run.run source).1 = Except.error fault ∧
        ((roll text).run.run other).1 = Except.error fault) ∨
      ((roll text).run.run source).1 = Except.error .resultTooLarge ∨
      ((roll text).run.run other).1 = Except.error .resultTooLarge := by
  rcases foretold_roll text source with hlong | hfirst
  · exact .inr (.inr (.inl hlong))
  rcases foretold_roll text other with hlong | hsecond
  · exact .inr (.inr (.inr hlong))
  have hsame := hfirst.trans hsecond.symm
  cases hr : ((roll text).run.run source).1 with
  | ok o =>
    cases hr' : ((roll text).run.run other).1 with
    | ok o' =>
      rw [hr, hr'] at hsame
      exact .inl ⟨o, o', rfl, rfl, Except.ok.inj hsame⟩
    | error fault =>
      rw [hr, hr'] at hsame
      cases hsame
  | error fault =>
    cases hr' : ((roll text).run.run other).1 with
    | ok o' =>
      rw [hr, hr'] at hsame
      cases hsame
    | error fault' =>
      rw [hr, hr'] at hsame
      cases hsame
      exact .inr (.inl ⟨fault, rfl, rfl⟩)

end Tabletop.Formula
