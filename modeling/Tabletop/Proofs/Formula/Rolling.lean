import Tabletop.Proofs.Formula.Completeness
import Tabletop.Proofs.Formula.Evaluation
import Tabletop.Proofs.Formula.OnePass
import Mathlib.Control.Monad.Basic

/-!
# Rolling a text

The one pass over a text agrees with the grammar and with the evaluation of trees.  If it succeeds, the text has exactly
one tree, and the pass is the evaluation of this tree: same outcome, same faces drawn, whatever the source
(`roll_eq_evaluate`).  It succeeds exactly on the formulas within all bounds (`roll_succeeds_iff`).
-/

namespace Tabletop.Formula

variable {σ : Type} [RandomSource σ]

private theorem abandon_ne_ok {α : Type} {b : Break} {s s' : σ} {a : α} :
    (abandon b : Roller σ α).run.run s ≠ (Except.ok a, s') := by
  intro h
  obtain ⟨u, s₁, -, hthrow⟩ := Roller.bind_eq_ok.mp h
  exact Roller.throw_ne_ok hthrow

theorem read_of_roll {text : String} {s s' : σ} {o : Outcome}
    (h : (roll text).run.run s = (Except.ok o, s')) : ∃ f, read (normalize text) = .ok f := by
  unfold roll at h
  rw [rollNormal_eq_settle] at h
  cases hread : read (normalize text) with
  | error b =>
    rw [hread] at h
    exact absurd h abandon_ne_ok
  | ok f => exact ⟨f, rfl⟩

theorem roll_of_read {text : String} {f : Formula} (h : read (normalize text) = .ok f) :
    (roll text : Roller σ Outcome) = f.evaluate := by
  unfold roll
  rw [rollNormal_eq_settle, h]
  rfl

theorem roll_eq_evaluate {text : String} {source source' : σ} {o : Outcome}
    (h : (roll text).run.run source = (Except.ok o, source')) :
    ∃ f, Derives .expression (normalize text) f ∧ (∀ g, Derives .expression (normalize text) g → g = f) ∧
      f.evaluate.run.run source = (Except.ok o, source') ∧
      ∀ (τ : Type) [RandomSource τ], (roll text : Roller τ Outcome) = f.evaluate := by
  obtain ⟨f, hread⟩ := read_of_roll h
  refine ⟨f, read_sound hread, fun g hg => eq_of_read hread hg, ?_, fun τ _ => roll_of_read hread⟩
  rw [← roll_of_read hread]
  exact h

private theorem roll_product :
    (roll "(2d6+3)*2").run.run (Script.ofFaces [2, 5]) =
      (Except.ok ⟨20, [2, 5], "(2d6+3)*2", "([2, 5] = 7 + 3 = 10) * (2) = 20"⟩, ⟨[2, 5], []⟩) := by
  show @Eq (Except Fault Outcome × Script) _ _
  decide +kernel

theorem roll_eq_evaluate_product :
    (roll "(2d6+3)*2").run.run (Script.ofFaces [2, 5]) =
        (Except.ok ⟨20, [2, 5], "(2d6+3)*2", "([2, 5] = 7 + 3 = 10) * (2) = 20"⟩, ⟨[2, 5], []⟩) ∧
      ∃ f, Derives .expression (normalize "(2d6+3)*2") f ∧
        (∀ g, Derives .expression (normalize "(2d6+3)*2") g → g = f) ∧
        f.evaluate.run.run (Script.ofFaces [2, 5]) =
          (Except.ok ⟨20, [2, 5], "(2d6+3)*2", "([2, 5] = 7 + 3 = 10) * (2) = 20"⟩, ⟨[2, 5], []⟩) ∧
        ∀ (τ : Type) [RandomSource τ], (roll "(2d6+3)*2" : Roller τ Outcome) = f.evaluate :=
  ⟨roll_product, roll_eq_evaluate roll_product⟩

theorem roll_succeeds_iff {text : String} {source : σ} :
    (∃ o source', (roll text).run.run source = (Except.ok o, source')) ↔
      normalize text ≠ [] ∧ (normalize text).length ≤ maxLength ∧
        ∃ f, Derives .expression (normalize text) f ∧ Fits maxNesting f ∧ (∀ t ∈ f.diceTerms, t.InBounds) ∧
          (f.tally.run source).1.IsShort := by
  constructor
  · rintro ⟨o, source', h⟩
    obtain ⟨f, hread⟩ := read_of_roll h
    obtain ⟨hlength, hf, hfits⟩ := read_eq_ok_iff.mp hread
    rw [roll_of_read hread] at h
    obtain ⟨hdice, hshort⟩ := evaluate_succeeds_iff.mp ⟨o, source', h⟩
    exact ⟨hf.ne_nil, hlength, f, hf, hfits, hdice, hshort⟩
  · rintro ⟨-, hlength, f, hf, hfits, hdice, hshort⟩
    rw [roll_of_read (read_eq_ok_iff.mpr ⟨hlength, hf, hfits⟩)]
    exact evaluate_succeeds_iff.mpr ⟨hdice, hshort⟩

end Tabletop.Formula
