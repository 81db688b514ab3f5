import Tabletop.Proofs.Dice.Faces
import Tabletop.Proofs.Formula.Rolling

/-!
# The ranges that are drawn from

A source cannot give a face of an empty range, and a Fudge die shows nothing but the three faces it has.  `Draws` relates a
source to what is left of it after draws that were all answered by a face of the range that was asked for.  With a fair source
every roll draws in this way, whether it comes to an outcome or not (`Formula.draws_roll`): the bounds of a term are looked at
before its first die is thrown.
-/

namespace Tabletop

variable {σ : Type} [RandomSource σ]

/-- `Draws s s'`: drawing leads from `s` to `s'`, and each face lies in its range, which is not empty. -/
inductive Draws : σ → σ → Prop where
  | refl (s : σ) : Draws s s
  | face {low high : Int} {s s' : σ} (hlow : low ≤ (RandomSource.draw low high s).1)
      (hhigh : (RandomSource.draw low high s).1 ≤ high) (hrest : Draws (RandomSource.draw low high s).2 s') : Draws s s'

theorem Draws.trans {s s' s'' : σ} (h : Draws s s') (h' : Draws s' s'') : Draws s s'' := by
  induction h with
  | refl s => exact h'
  | face hlow hhigh hrest ih => exact .face hlow hhigh (ih h')

/-! ### Dice -/

section Dice

variable {α β : Type}

/-- Whatever the source, the computation only draws. -/
def OnlyDraws (x : StateM σ α) : Prop := ∀ source, Draws source (x.run source).2

theorem OnlyDraws.pure (a : α) : OnlyDraws (pure a : StateM σ α) := Draws.refl

theorem OnlyDraws.bind {x : StateM σ α} {f : α → StateM σ β} (hx : OnlyDraws x) (hf : ∀ a, OnlyDraws (f a)) :
    OnlyDraws (x >>= f) :=
  fun source => (hx source).trans (hf _ _)

theorem OnlyDraws.map {x : StateM σ α} (f : α → β) (hx : OnlyDraws x) : OnlyDraws (f <$> x) := hx

theorem onlyDraws_throwMany {throw : StateM σ α} (h : OnlyDraws throw) (n : Nat) : OnlyDraws (throwMany throw n) := by
  induction n with
  | zero => exact .pure []
  | succ n ih => exact .bind h fun first => .bind ih fun more => .pure _

variable (hfair : RandomSource.IsFair σ)

include hfair

theorem onlyDraws_drawFace {low high : Int} (h : low ≤ high) : OnlyDraws (drawFace low high : StateM σ Int) := by
  intro source
  obtain ⟨hlow, hhigh⟩ := hfair low high source h
  exact .face hlow hhigh (.refl _)

variable {sides : Int} (hsides : 1 ≤ sides)

include hsides

theorem onlyDraws_explosions (threshold : Int) (room : Nat) (face : Int) :
    OnlyDraws (explosions sides threshold room face : StateM σ (List Int)) := by
  induction room generalizing face with
  | zero => exact .pure []
  | succ room ih =>
    unfold explosions
    split
    · exact .bind (onlyDraws_drawFace hfair hsides) fun next => .bind (ih next) fun more => .pure _
    · exact .pure []

theorem onlyDraws_throwDie (m : Modifiers) : OnlyDraws (throwDie sides m : StateM σ Die) := by
  have hface := onlyDraws_drawFace hfair hsides
  have hchain : OnlyDraws (throwChain sides m : StateM σ (List Int)) := by
    refine .bind hface fun first => ?_
    split
    · exact .bind (onlyDraws_explosions hfair hsides _ _ first) fun more => .pure _
    · exact .pure _
  refine .bind hchain fun chain => ?_
  split
  · exact .bind hface fun fresh => .pure _
  · exact .pure _

end Dice

theorem DiceTerm.onlyDraws_throwAll (hfair : RandomSource.IsFair σ) {t : DiceTerm} (h : t.InBounds) :
    OnlyDraws (t.throwAll : StateM σ Outcome) := by
  obtain ⟨-, hkind⟩ := h
  unfold throwAll
  cases hk : t.kind with
  | sided sides m =>
    rw [hk] at hkind
    exact .map _ (onlyDraws_throwMany (onlyDraws_throwDie hfair hkind.1.1 m) _)
  | percentile => exact .map _ (onlyDraws_throwMany (onlyDraws_throwDie hfair (by decide) {}) _)
  | fudge => exact .map _ (onlyDraws_throwMany (onlyDraws_drawFace hfair (by decide)) _)

/-! ### Rolls -/

section Rolls

variable {α β : Type}

theorem onlyDraws_bind {x : Roller σ α} {k : α → Roller σ β} (hx : OnlyDraws x.run) (hk : ∀ a, OnlyDraws (k a).run) :
    OnlyDraws (x >>= k).run := by
  refine OnlyDraws.bind (f := fun r => (ExceptT.bindCont k r : StateM σ (Except Fault β))) hx fun r => ?_
  cases r with
  | error fault => exact .pure _
  | ok a => exact hk a

theorem onlyDraws_liftM (x : Except Fault α) : OnlyDraws (MonadLiftT.monadLift x : Roller σ α).run := by
  cases x with
  | error fault => exact .pure _
  | ok a => exact .pure _

variable (hfair : RandomSource.IsFair σ)

include hfair

theorem DiceTerm.draws_roll (t : DiceTerm) : OnlyDraws (t.roll : Roller σ Outcome).run := by
  intro source
  rcases h : (t.roll : Roller σ Outcome).run.run source with ⟨result, source'⟩
  cases result with
  | error fault =>
    obtain ⟨-, rfl⟩ := DiceTerm.roll_eq_error_iff.mp h
    exact .refl _
  | ok o =>
    obtain ⟨hbounds, hthrow⟩ := DiceTerm.roll_eq_ok_iff.mp h
    have hdraws := DiceTerm.onlyDraws_throwAll hfair hbounds source
    rw [hthrow] at hdraws
    exact hdraws

namespace Formula

theorem draws_evaluate (f : Formula) : OnlyDraws (f.evaluate : Roller σ Outcome).run := by
  induction f with
  | literal negative n => exact .pure _
  | dice d => exact DiceTerm.draws_roll hfair d.term
  | group inner ih => exact onlyDraws_bind ih fun o => .pure _
  | binary symbol left right ihl ihr => exact onlyDraws_bind ihl fun a => onlyDraws_bind ihr fun b => onlyDraws_liftM _

theorem draws_evaluateAll (parts : List Formula) : OnlyDraws (evaluateAll parts : Roller σ Unit).run := by
  induction parts with
  | nil => exact .pure _
  | cons f rest ih => exact onlyDraws_bind (draws_evaluate hfair f) fun o => ih

theorem draws_roll (text : String) : OnlyDraws (roll text : Roller σ Outcome).run := by
  unfold roll
  rw [rollNormal_eq_settle]
  cases read (normalize text) with
  | ok f => exact draws_evaluate hfair f
  | error b => exact onlyDraws_bind (draws_evaluateAll hfair b.completed) fun u => .pure _

end Formula

end Rolls

end Tabletop
