import Tabletop.Proofs.Dice.Resolution
import Tabletop.Proofs.Formula.Plan

/-!
# The faces that a text draws

The faces of an outcome are all the faces that were drawn for it, in their order, and to play them back is to get the outcome
again (`traces_roll`).  A roll that is refused has taken the steps before its fault (`Refusal.Explains`): it has drawn the
faces of the dice terms among them, and nothing for a term that is at fault (`roll_draws`).
-/

namespace Tabletop

/-- If there is an outcome, its faces are those that were drawn. -/
def DrawnFor (faces : List Int) (r : Except Fault Outcome) : Prop := ∀ o, r = .ok o → o.rolls = faces

private theorem drawnFor_error (faces : List Int) (fault : Fault) : DrawnFor faces (.error fault) := by
  intro o h
  cases h

/-! ### Dice terms -/

namespace DiceTerm

theorem traces_throwAll (t : DiceTerm) : Traces (fun _ _ => t.throwAll) fun faces o => o.rolls = faces := by
  unfold throwAll
  cases t.kind with
  | sided sides m => exact .map (.throwMany (traces_throwDie sides m) _) fun faces dice hdice => hdice.1.symm
  | percentile => exact .map (.throwMany (traces_throwDie _ {}) _) fun faces dice hdice => hdice.1.symm
  | fudge =>
    have hone : Traces (fun _ _ => drawFace (-1) 1) fun faces n => faces = [n] ∧ True :=
      (traces_drawFace (-1) 1).mono fun faces n h => ⟨h, trivial⟩
    refine .map (.throwMany hone _) fun faces values hvalues => ?_
    show values = faces
    rw [hvalues.1, List.flatMap_singleton']

theorem traces_roll (t : DiceTerm) : Traces (fun σ _ => (t.roll : Roller σ Outcome).run) DrawnFor := by
  unfold roll
  refine .roller (p := fun faces _ => faces = []) (.liftM rfl) (fun faces fault _ => drawnFor_error faces fault) ?_
  rintro faces u rfl
  refine .lift t.traces_throwAll fun more o hmore o' ho => ?_
  cases ho
  exact hmore

end DiceTerm

/-! ### Formulas -/

namespace Formula

theorem traces_evaluate (f : Formula) : Traces (fun σ _ => (f.evaluate : Roller σ Outcome).run) DrawnFor := by
  induction f with
  | literal negative n =>
    refine .pure fun o ho => ?_
    cases ho
    rfl
  | dice d => exact d.term.traces_roll
  | group inner ih =>
    refine .roller ih (fun faces fault _ => drawnFor_error faces fault) fun faces a ha => .pure fun o ho => ?_
    cases ho
    rw [List.append_nil]
    exact ha a rfl
  | binary symbol left right ihl ihr =>
    refine .roller ihl (fun faces fault _ => drawnFor_error faces fault) fun faces a ha => ?_
    refine .roller ihr (fun more fault _ => drawnFor_error _ fault) fun more b hb => .liftM fun o ho => ?_
    obtain ⟨-, hrolls, -⟩ := Outcome.combine_eq_ok ho
    rw [List.append_nil, hrolls, ha a rfl, hb b rfl]

private theorem traces_evaluateAll (parts : List Formula) :
    Traces (fun σ _ => (evaluateAll parts : Roller σ Unit).run) fun _ _ => True := by
  induction parts with
  | nil => exact .pure trivial
  | cons f rest ih => exact .roller (traces_evaluate f) (fun _ _ _ => trivial) fun _ _ _ => ih

/-- The faces of the outcome of a text are those that were drawn. -/
theorem traces_roll (text : String) : Traces (fun σ _ => (roll text : Roller σ Outcome).run) DrawnFor := by
  simp only [roll, rollNormal_eq_settle]
  cases read (normalize text) with
  | ok f => exact traces_evaluate f
  | error b =>
    exact .roller (traces_evaluateAll b.completed) (fun faces fault _ => drawnFor_error faces fault) fun faces u _ =>
      .pure (drawnFor_error _ b.fault)

end Formula

/-! ### Rolls that are refused -/

variable {σ : Type} [RandomSource σ]

/-- Recorded or not, the same terms are rolled; the record is of their faces. -/
theorem DiceTerm.Rolled.of_recorded {terms : List DiceTerm} {r r' : Recorded σ} {os : List Outcome}
    (h : Rolled terms r os r') :
    Rolled terms r.source os r'.source ∧ r'.drawn = (os.flatMap Outcome.rolls).reverse ++ r.drawn := by
  induction h with
  | nil r => exact ⟨.nil r.source, rfl⟩
  | @cons t rest r r₁ r₂ o os h hrest ih =>
    obtain ⟨faces, hfaces, hrun, hdrawn, -⟩ := t.traces_roll.run_recorded h
    refine ⟨.cons hrun ih.1, ?_⟩
    rw [ih.2, hdrawn, List.flatMap_cons, hfaces o rfl, List.reverse_append, List.append_assoc]

namespace Formula

open StackStep

/-- What had been done when a text was refused. -/
structure Refusal where
  /-- The text that was read, up to the fault. -/
  taken : List Char
  /-- The parts that are complete in it. -/
  parts : List Formula
  done : List StackStep
  left : List StackStep
  stack : List Outcome
  /-- The outcomes of the dice terms among the steps that are done. -/
  outcomes : List Outcome

namespace Refusal

/-- The refusal of a text with a fault, rolled from the source with the record. -/
structure Explains (w : Refusal) (text : List Char) (source : σ) (fault : Fault) (r : Recorded σ) : Prop where
  begins : w.taken <+: text
  reached : Reached w.taken w.parts
  steps_eq : w.parts.flatMap steps = w.done ++ w.left
  run_done : (runAll w.done []).run.run (Recorded.start source) = (.ok w.stack, r)
  /-- The dice terms that are done come first in the text. -/
  inOrder : w.done.filterMap term? <+: w.parts.flatMap diceTerms
  rolled : DiceTerm.Rolled (w.done.filterMap term?) source w.outcomes r.source
  /-- Nothing else was drawn. -/
  drawn_eq : r.drawn.reverse = w.outcomes.flatMap Outcome.rolls
  /-- Either all parts are done and the text is at fault behind them, or the next step is, and it draws nothing. -/
  caused : (w.left = [] ∧ read text = .error ⟨w.parts, fault⟩ ∧ w.taken.length = fault.position.getD 0) ∨
    ∃ step rest, w.left = step :: rest ∧ (step.run w.stack).run.run r = (.error fault, r)

end Refusal

private theorem exists_refusal {text taken : List Char} {source : σ} {fault : Fault} {r : Recorded σ} {parts : List Formula}
    {done left : List StackStep} {stack : List Outcome} (hbegins : taken <+: text) (hreached : Reached taken parts)
    (hsteps : parts.flatMap steps = done ++ left)
    (hdone : (runAll done []).run.run (Recorded.start source) = (Except.ok stack, r))
    (hcaused : (left = [] ∧ read text = .error ⟨parts, fault⟩ ∧ taken.length = fault.position.getD 0) ∨
      ∃ step rest, left = step :: rest ∧ (step.run stack).run.run r = (Except.error fault, r)) :
    ∃ w : Refusal, w.Explains text source fault r := by
  obtain ⟨os, hos⟩ := rolled_of_runAll hdone
  obtain ⟨hrolled, hdrawn⟩ := hos.of_recorded
  have hterms : parts.flatMap diceTerms = done.filterMap term? ++ left.filterMap term? := by
    rw [← List.filterMap_append, ← hsteps, List.filterMap_flatMap]
    simp only [filterMap_term?_steps]
  refine ⟨⟨taken, parts, done, left, stack, os⟩, hbegins, hreached, hsteps, hdone, ⟨_, hterms.symm⟩, hrolled, ?_, hcaused⟩
  rw [hdrawn, Recorded.start, List.append_nil, List.reverse_reverse]

/-- A formula that cannot be worked out is stopped at one of its steps. -/
private theorem exists_refusal_of_parts {text taken : List Char} {source : σ} {fault : Fault} {r : Recorded σ}
    {parts : List Formula} (hbegins : taken <+: text) (hreached : Reached taken parts)
    (h : (evaluateAll parts).run.run (Recorded.start source) = (Except.error fault, r)) :
    ∃ w : Refusal, w.Explains text source fault r := by
  rw [evaluateAll_eq parts []] at h
  rcases Roller.bind_eq_error.mp h with hsteps | ⟨stack, r', -, h⟩
  · obtain ⟨done, step, rest, stack, hsplit, hdone, hstep⟩ := exists_step_of_fault hsteps
    exact exists_refusal hbegins hreached hsplit hdone (.inr ⟨step, rest, rfl, hstep⟩)
  · exact absurd h Roller.pure_ne_error

theorem exists_refusal_of_roll {text : String} {source : σ} {fault : Fault} {r : Recorded σ}
    (h : (roll text).run.run (Recorded.start source) = (Except.error fault, r)) :
    ∃ w : Refusal, w.Explains (normalize text) source fault r := by
  unfold roll at h
  rw [rollNormal_eq_settle] at h
  cases hread : read (normalize text) with
  | ok f =>
    rw [hread] at h
    obtain ⟨-, hf, hfits⟩ := read_eq_ok_iff.mp hread
    refine exists_refusal_of_parts List.prefix_rfl (.whole hf hfits) ?_
    exact Roller.bind_eq_error.mpr (.inl h)
  | error b =>
    rw [hread] at h
    obtain ⟨s, hbegins, hreached, hlength⟩ := reached_of_read_error hread
    rcases Roller.bind_eq_error.mp h with hparts | ⟨u, r', hparts, h⟩
    · exact exists_refusal_of_parts hbegins hreached hparts
    · obtain ⟨rfl, rfl⟩ := Roller.throw_eq_error.mp h
      rw [evaluateAll_eq b.completed []] at hparts
      obtain ⟨stack, r'', hdone, hparts⟩ := Roller.bind_eq_ok.mp hparts
      obtain ⟨-, rfl⟩ := Roller.pure_eq_ok.mp hparts
      exact exists_refusal hbegins hreached (List.append_nil _).symm hdone (.inl ⟨rfl, hread, hlength⟩)

/-! ### Terms that are refused -/

/-- A computation that ends in a fault leaves the source as it was. -/
def SparesOnFault {α : Type} (x : Roller σ α) : Prop :=
  ∀ source fault source', x.run.run source = (Except.error fault, source') → source' = source

/-- For whatever reason a term is refused, it has drawn nothing. -/
theorem sparesOnFault_rollTerm (c : Cursor) : SparesOnFault (rollTerm c : Roller σ (Outcome × Cursor)) := by
  intro source fault source' h
  unfold rollTerm at h
  rcases Roller.bind_eq_error.mp h with hcount | ⟨⟨count, c₁⟩, s₁, hcount, h⟩
  · exact (Roller.liftM_eq_error.mp hcount).2.symm
  · obtain ⟨-, rfl⟩ := Roller.liftM_eq_ok.mp hcount
    dsimp only at h
    split at h
    · rcases Roller.bind_eq_error.mp h with hkind | ⟨⟨k, c₂⟩, s₂, hkind, h⟩
      · exact (Roller.liftM_eq_error.mp hkind).2.symm
      · obtain ⟨-, rfl⟩ := Roller.liftM_eq_ok.mp hkind
        rcases Roller.bind_eq_error.mp h with hroll | ⟨o, s₃, -, h⟩
        · exact (DiceTerm.roll_eq_error_iff.mp hroll).2.symm
        · exact absurd h Roller.pure_ne_error
    · cases count with
      | none => exact (Roller.throw_eq_error.mp h).2.symm
      | some n => exact absurd h Roller.pure_ne_error

/-! ### All draws of a text -/

/-- What a recorded roll of a text has drawn: the faces of its outcome, which lead to the outcome again if they are played
back, or the faces of the dice terms before the fault. -/
def Accounted (text : String) (source : σ) : Except Fault Outcome × Recorded σ → Prop
  | (.ok o, r) => r.drawn.reverse = o.rolls ∧ (roll text).run.run source = (Except.ok o, r.source) ∧
      ∀ rest, (roll text).run.run (⟨o.rolls ++ rest⟩ : Tape) = (Except.ok o, ⟨rest⟩)
  | (.error fault, r) => (roll text).run.run source = (Except.error fault, r.source) ∧
      ∃ w : Refusal, w.Explains (normalize text) source fault r

theorem roll_draws (text : String) (source : σ) :
    Accounted text source ((roll text).run.run (Recorded.start source)) ∧
      ∀ c, SparesOnFault (rollTerm c : Roller σ (Outcome × Cursor)) := by
  refine ⟨?_, sparesOnFault_rollTerm⟩
  rcases h : (roll text).run.run (Recorded.start source) with ⟨result, r⟩
  obtain ⟨faces, hfaces, hplain, hdrawn, hplayed⟩ := (traces_roll text).run_recorded h
  cases result with
  | ok o =>
    have hrolls : o.rolls = faces := hfaces o rfl
    refine ⟨?_, hplain, ?_⟩
    · rw [hdrawn, hrolls, Recorded.start, List.append_nil, List.reverse_reverse]
    · rw [hrolls]
      exact hplayed
  | error fault => exact ⟨hplain, exists_refusal_of_roll h⟩

/-- The dice before a term without sides have fallen, those behind it have not. -/
example : ((roll "2d6+1d0+1d6").run.run (Recorded.start (Script.ofFaces [3, 4, 5]))).2.drawn = [4, 3] := by
  decide +kernel

end Formula

end Tabletop
