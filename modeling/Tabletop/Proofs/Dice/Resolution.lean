import Tabletop.Proofs.Dice.Kept
import Tabletop.Proofs.Dice.Trace
import Mathlib.Control.Monad.Basic

/-!
# How the dice of a term fall

`Die.Falls` says without a loop how one die may fall: a chain of faces, all but the last at the threshold or above it if the
die explodes, and one fresh face behind a chain that comes to too little.  The faces drawn for a term are the faces of its
dice one after the other, and total and breakdown are those of the values of these dice (`DiceTerm.roll_resolves`).
-/

namespace Tabletop

/-! ### One die -/

/-- The least face on which a die explodes. -/
def Modifiers.threshold (m : Modifiers) (sides : Int) : Int := m.explodeOn.getD sides

/-- How the faces of a die fall up to the one on which it comes to rest. -/
structure Modifiers.Chains (m : Modifiers) (sides : Int) (chain : List Int) : Prop where
  thrown : 1 ≤ chain.length
  capped : chain.length ≤ maxExplosions + 1
  single : m.explode = false → chain.length = 1
  /-- Every face before the last one made the die explode. -/
  exploded : m.explode → ∀ f ∈ chain.dropLast, m.threshold sides ≤ f
  /-- The last face does not, unless no face may follow. -/
  ended : m.explode → chain.length = maxExplosions + 1 ∨ ∀ f ∈ chain.getLast?, f < m.threshold sides

namespace Die

structure Falls (sides : Int) (m : Modifiers) (d : Die) : Prop where
  chains : m.Chains sides d.chain
  rerolled : d.fresh.isSome ↔ ∃ r, m.reroll = some r ∧ subtotal d.chain ≤ r

theorem Falls.faces_bounds {sides : Int} {m : Modifiers} {d : Die} (h : d.Falls sides m) :
    1 ≤ d.faces.length ∧ d.faces.length ≤ maxExplosions + 2 := by
  have hthrown := h.chains.thrown
  have hcapped := h.chains.capped
  have hfresh : d.fresh.toList.length ≤ 1 := by
    cases d.fresh with
    | none => exact Nat.zero_le 1
    | some f => exact Nat.le_refl 1
  unfold faces
  rw [List.length_append]
  omega

end Die

/-- The faces that follow a first one while each reaches the threshold and the room lasts. -/
structure Explodes (threshold : Int) (room : Nat) (first : Int) (more : List Int) : Prop where
  length_le : more.length ≤ room
  reached : ∀ f ∈ (first :: more).dropLast, threshold ≤ f
  ended : more.length = room ∨ ∀ f ∈ (first :: more).getLast?, f < threshold

theorem traces_explosions (sides threshold : Int) (room : Nat) (face : Int) :
    Traces (fun _ _ => explosions sides threshold room face) fun faces more =>
      faces = more ∧ Explodes threshold room face more := by
  induction room generalizing face with
  | zero => exact .pure ⟨rfl, Nat.le_refl 0, by simp, .inl rfl⟩
  | succ room ih =>
    unfold explosions
    by_cases hface : threshold ≤ face
    · simp only [if_pos hface]
      refine .bind (traces_drawFace 1 sides) fun faces next hnext => .bind (ih next) fun faces' more hmore => .pure ?_
      obtain ⟨rfl, hlength, hreached, hended⟩ := hmore
      refine ⟨by rw [hnext, List.append_nil, List.singleton_append], ?_, ?_, ?_⟩
      · exact Nat.succ_le_succ hlength
      · rw [List.dropLast_cons_of_ne_nil (List.cons_ne_nil _ _)]
        exact List.forall_mem_cons.mpr ⟨hface, hreached⟩
      · rw [List.getLast?_cons_cons]
        rcases hended with hfull | hbelow
        · exact .inl (congrArg (· + 1) hfull)
        · exact .inr hbelow
    · simp only [if_neg hface]
      refine .pure ⟨rfl, Nat.zero_le _, by simp, .inr ?_⟩
      intro f hf
      have hface' : f = face := by simpa using hf.symm
      omega

private theorem traces_throwChain (sides : Int) (m : Modifiers) :
    Traces (fun _ _ => throwChain sides m) fun faces chain => faces = chain ∧ m.Chains sides chain := by
  unfold throwChain
  refine .bind (traces_drawFace 1 sides) fun faces first hfirst => ?_
  cases hexplode : m.explode with
  | false =>
    simp only [Bool.false_eq_true, if_false]
    refine .pure ⟨by rw [hfirst, List.append_nil], Nat.le_refl 1, Nat.succ_le_succ (Nat.zero_le _), fun _ => rfl, ?_, ?_⟩
    · rw [hexplode]
      intro h
      cases h
    · rw [hexplode]
      intro h
      cases h
  | true =>
    simp only [if_true]
    refine .bind (traces_explosions sides _ maxExplosions first) fun faces' more hmore => .pure ?_
    obtain ⟨rfl, hlength, hreached, hended⟩ := hmore
    refine ⟨by rw [hfirst, List.append_nil, List.singleton_append], ?_, ?_, ?_, fun _ => hreached, fun _ => ?_⟩
    · exact Nat.succ_le_succ (Nat.zero_le _)
    · exact Nat.succ_le_succ hlength
    · rw [hexplode]
      intro h
      cases h
    · rcases hended with hfull | hbelow
      · exact .inl (congrArg (· + 1) hfull)
      · exact .inr hbelow

theorem traces_throwDie (sides : Int) (m : Modifiers) :
    Traces (fun _ _ => throwDie sides m) fun faces d => faces = d.faces ∧ d.Falls sides m := by
  unfold throwDie
  refine .bind (traces_throwChain sides m) fun faces chain hchain => ?_
  obtain ⟨hfaces, hchains⟩ := hchain
  -- The test is the same in words, so it decides which of the two dice it is.
  have htest : (m.reroll.any fun r => decide (subtotal chain ≤ r)) = true ↔ ∃ r, m.reroll = some r ∧ subtotal chain ≤ r := by
    rw [Option.any_eq_true]
    simp only [decide_eq_true_eq]
  by_cases hreroll : (m.reroll.any fun r => decide (subtotal chain ≤ r)) = true
  · simp only [if_pos hreroll]
    refine .bind (traces_drawFace 1 sides) fun faces' fresh hfresh => .pure ?_
    refine ⟨?_, hchains, ?_⟩
    · rw [hfaces, hfresh, List.append_nil]
      rfl
    · exact ⟨fun _ => htest.mp hreroll, fun _ => rfl⟩
  · simp only [if_neg hreroll]
    refine .pure ⟨?_, hchains, ?_⟩
    · rw [hfaces]
      rfl
    · exact ⟨fun h => absurd h (by simp), fun h => absurd (htest.mpr h) hreroll⟩

/-! ### Terms -/

/-- The fresh face of a die that was rerolled, the sum of its chain otherwise. -/
def faceValues (dice : List Die) : List Int :=
  dice.map fun d => d.fresh.getD (subtotal d.chain)

/-- How a term with numbered sides comes out when its dice have fallen and what counts of them is `kept`. -/
structure Resolves (count sides : Int) (m : Modifiers) (negative : Bool) (dice : List Die) (kept : Option (List Int))
    (o : Outcome) : Prop where
  count_eq : (dice.length : Int) = count
  falls : ∀ d ∈ dice, d.Falls sides m
  rolls_eq : o.rolls = dice.flatMap fun d => d.chain ++ d.fresh.toList
  retains : m.Retains (faceValues dice) kept
  total_eq : o.total = if negative then -subtotal (kept.getD (faceValues dice)) else subtotal (kept.getD (faceValues dice))
  breakdown_eq : o.breakdown =
    listText (faceValues dice) ++ (kept.elim "" fun list => " → " ++ listText list) ++ " = " ++ toString o.total

private theorem length_flatMap_faces {sides : Int} {m : Modifiers} {dice : List Die} (h : ∀ d ∈ dice, d.Falls sides m) :
    dice.length ≤ (dice.flatMap Die.faces).length ∧
      (dice.flatMap Die.faces).length ≤ (maxExplosions + 2) * dice.length := by
  induction dice with
  | nil => simp
  | cons d rest ih =>
    obtain ⟨hd, hrest⟩ := List.forall_mem_cons.mp h
    have hfaces := hd.faces_bounds
    have hmore := ih hrest
    rw [List.flatMap_cons, List.length_append, List.length_cons, Nat.mul_succ]
    omega

namespace DiceTerm

theorem traces_throwAll_of_sided {t : DiceTerm} {sides : Int} {m : Modifiers} (hkind : t.kind = .sided sides m) :
    Traces (fun _ _ => t.throwAll) fun faces o => ∃ dice, o = t.ofDice m dice ∧
      faces = dice.flatMap Die.faces ∧ dice.length = t.count.toNat ∧ ∀ d ∈ dice, d.Falls sides m := by
  unfold throwAll
  rw [hkind]
  exact .map (.throwMany (traces_throwDie sides m) _) fun faces dice hdice => ⟨dice, rfl, hdice⟩

private theorem resolves_ofDice {t : DiceTerm} {sides : Int} {m : Modifiers} {dice : List Die}
    (hcount : (dice.length : Int) = t.count) (hfalls : ∀ d ∈ dice, d.Falls sides m) :
    Resolves t.count sides m t.negative dice (m.select (faceValues dice)) (t.ofDice m dice) := by
  refine ⟨hcount, hfalls, rfl, Modifiers.retains_select m _, rfl, ?_⟩
  have hvalues : dice.map Die.value = faceValues dice := rfl
  unfold ofDice
  simp only [hvalues]
  cases m.select (faceValues dice) with
  | none => rfl
  | some kept => rfl

variable {σ : Type} [RandomSource σ]

/-- A term within its bounds has an outcome, and its dice fall one after the other as they should: from one to
`maxExplosions + 2` faces are drawn for each. -/
theorem roll_resolves {count sides : Int} (h : checkBounds count sides = .ok ()) (m : Modifiers) (negative : Bool)
    (source : σ) :
    ∃ (o : Outcome) (source' : σ) (dice : List Die) (kept : Option (List Int)),
      (roll ⟨count, .sided sides m, negative⟩).run.run (Recorded.start source) = (.ok o, ⟨source', o.rolls.reverse⟩) ∧
        Resolves count sides m negative dice kept o ∧ count ≤ o.rolls.length ∧ o.rolls.length ≤ 102 * count := by
  let t : DiceTerm := ⟨count, .sided sides m, negative⟩
  have hbounds : t.InBounds := check_eq_ok_iff.mp h
  obtain ⟨faces, htrace, dice, ho, hfaces, hlength, hfalls⟩ := traces_throwAll_of_sided (t := t) rfl σ source
  have hcount : (dice.length : Int) = count := by
    rw [hlength]
    exact Int.toNat_of_nonneg (Int.le_trans (by decide) hbounds.1.1)
  have hrolls : (t.ofDice m dice).rolls = faces := hfaces.symm
  have hrun := htrace.recorded []
  rw [List.append_nil, ho, ← hrolls] at hrun
  refine ⟨t.ofDice m dice, _, dice, _, roll_eq_ok_iff.mpr ⟨hbounds, hrun⟩, resolves_ofDice (t := t) hcount hfalls, ?_⟩
  have hdrawn := length_flatMap_faces hfalls
  unfold maxExplosions at hdrawn
  rw [hrolls, hfaces]
  omega

/-- The first die explodes once, the second one is rerolled, the third one explodes twice. -/
private def threeDice : Outcome :=
  { total := -28
    rolls := [6, 4, 2, 5, 6, 6, 1]
    expression := "-3d6!r3"
    breakdown := "[10, 5, 13] = -28" }

theorem roll_resolves_threeDice :
    checkBounds 3 6 = .ok () ∧
      (roll ⟨3, .sided 6 { explode := true, reroll := some 3 }, true⟩).run.run
        (Script.ofFaces threeDice.rolls) = (.ok threeDice, ⟨threeDice.rolls, []⟩) ∧
      ∃ (o : Outcome) (source' : Script) (dice : List Die) (kept : Option (List Int)),
        (roll ⟨3, .sided 6 { explode := true, reroll := some 3 }, true⟩).run.run
            (Recorded.start (Script.ofFaces threeDice.rolls)) = (.ok o, ⟨source', o.rolls.reverse⟩) ∧
          Resolves 3 6 { explode := true, reroll := some 3 } true dice kept o ∧
            3 ≤ (o.rolls.length : Int) ∧ (o.rolls.length : Int) ≤ 102 * 3 := by
  refine ⟨rfl, ?_, roll_resolves rfl _ true _⟩
  show @Eq (Except Fault Outcome × Script) _ _
  decide +kernel

end DiceTerm

end Tabletop
