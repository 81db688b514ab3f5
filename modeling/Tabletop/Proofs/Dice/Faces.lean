import Tabletop.Proofs.Formula.Evaluation
import Mathlib.Tactic.Ring

/-!
# Dice that fall fairly

A source is fair if every face that it gives lies between the bounds it was asked for.  Fair dice keep within bounds,
whatever explodes, is thrown again or is kept: a die counts at most `maxExplosions + 1` times its sides, and so a term
within its bounds is at most `DiceTerm.maxTotal` (`DiceTerm.yields_throwAll`).
-/

namespace Tabletop

/-! ### Fair sources -/

def RandomSource.IsFair (σ : Type) [RandomSource σ] : Prop :=
  ∀ (low high : Int) (source : σ), low ≤ high →
    low ≤ (RandomSource.draw low high source).1 ∧ (RandomSource.draw low high source).1 ≤ high

theorem Script.isFair : RandomSource.IsFair Script := by
  intro low high script h
  show low ≤ RandomSource.intoRange low high script.next.1 ∧ RandomSource.intoRange low high script.next.1 ≤ high
  have hpos : 0 < high - low + 1 := by omega
  have hnonneg := Int.emod_nonneg (script.next.1 - low) (Int.ne_of_gt hpos)
  have hlt := Int.emod_lt_of_pos (script.next.1 - low) hpos
  unfold RandomSource.intoRange
  omega

/-! ### What draws come to -/

section Yields

variable {σ α β : Type}

/-- Whatever the source, the value has the property. -/
def Yields (x : StateM σ α) (p : α → Prop) : Prop := ∀ source, p (x.run source).1

variable {p : α → Prop} {q : β → Prop}

theorem Yields.pure {a : α} (h : p a) : Yields (pure a : StateM σ α) p := fun _ => h

theorem Yields.bind {x : StateM σ α} {f : α → StateM σ β} (hx : Yields x p) (hf : ∀ a, p a → Yields (f a) q) :
    Yields (x >>= f) q :=
  fun source => hf _ (hx source) _

theorem Yields.map {x : StateM σ α} {f : α → β} (hx : Yields x p) (hf : ∀ a, p a → q (f a)) : Yields (f <$> x) q :=
  fun source => hf _ (hx source)

theorem yields_throwMany [RandomSource σ] {throw : StateM σ α} (h : Yields throw p) (n : Nat) :
    Yields (throwMany throw n) fun values => values.length = n ∧ ∀ a ∈ values, p a := by
  induction n with
  | zero => exact .pure ⟨rfl, by simp⟩
  | succ n ih =>
    refine .bind h fun first hfirst => .bind ih fun more hmore => .pure ⟨?_, ?_⟩
    · rw [List.length_cons, hmore.1]
    · exact List.forall_mem_cons.mpr ⟨hfirst, hmore.2⟩

end Yields

/-! ### Sums -/

theorem subtotal_bounds {low high : Int} {values : List Int} (h : ∀ n ∈ values, low ≤ n ∧ n ≤ high) :
    values.length * low ≤ subtotal values ∧ subtotal values ≤ values.length * high := by
  induction values with
  | nil => simp [subtotal]
  | cons n rest ih =>
    obtain ⟨hn, hrest⟩ := List.forall_mem_cons.mp h
    obtain ⟨hlow, hhigh⟩ := ih hrest
    have hsum : subtotal (n :: rest) = n + subtotal rest := rfl
    rw [hsum, List.length_cons, Int.natCast_succ, Int.add_mul, Int.add_mul]
    omega

/-- What is not negative comes to no more if some of it is left out. -/
theorem subtotal_le_of_length {high : Int} {length : Nat} {values : List Int} (h : ∀ n ∈ values, 0 ≤ n ∧ n ≤ high)
    (hlength : values.length ≤ length) (hhigh : 0 ≤ high) : 0 ≤ subtotal values ∧ subtotal values ≤ length * high := by
  obtain ⟨hlow, hupper⟩ := subtotal_bounds h
  have hmore : (values.length : Int) * high ≤ length * high :=
    Int.mul_le_mul_of_nonneg_right (Int.ofNat_le.mpr hlength) hhigh
  omega

/-- Only values that were thrown are kept. -/
theorem Modifiers.select_bounds {m : Modifiers} {values kept : List Int} (h : m.select values = some kept) :
    (∀ n ∈ kept, n ∈ values) ∧ kept.length ≤ values.length := by
  unfold Modifiers.select at h
  split at h
  · cases h
    have hperm := descending_perm values
    refine ⟨fun n hn => hperm.mem_iff.mp (List.mem_of_mem_take hn), ?_⟩
    rw [← hperm.length_eq]
    exact (List.take_sublist _ _).length_le
  · cases h
    have hperm := ascending_perm values
    refine ⟨fun n hn => hperm.mem_iff.mp (List.mem_of_mem_drop hn), ?_⟩
    rw [← hperm.length_eq]
    exact (List.drop_sublist _ _).length_le
  · cases h

/-! ### Dice -/

section Dice

variable {σ : Type} [RandomSource σ]

theorem yields_drawFace (hfair : RandomSource.IsFair σ) {low high : Int} (h : low ≤ high) :
    Yields (drawFace low high : StateM σ Int) fun n => low ≤ n ∧ n ≤ high :=
  fun source => hfair low high source h

variable {sides : Int}

theorem yields_explosions (hfair : RandomSource.IsFair σ) (hsides : 1 ≤ sides) (threshold : Int) (room : Nat)
    (face : Int) :
    Yields (explosions sides threshold room face : StateM σ (List Int)) fun more =>
      more.length ≤ room ∧ ∀ n ∈ more, 1 ≤ n ∧ n ≤ sides := by
  induction room generalizing face with
  | zero => exact .pure ⟨Nat.le_refl 0, by simp⟩
  | succ room ih =>
    unfold explosions
    split
    · refine .bind (yields_drawFace hfair hsides) fun next hnext => .bind (ih next) fun more hmore => .pure ⟨?_, ?_⟩
      · rw [List.length_cons]
        exact Nat.succ_le_succ hmore.1
      · exact List.forall_mem_cons.mpr ⟨hnext, hmore.2⟩
    · exact .pure ⟨Nat.zero_le _, by simp⟩

theorem yields_throwChain (hfair : RandomSource.IsFair σ) (hsides : 1 ≤ sides) (m : Modifiers) :
    Yields (throwChain sides m : StateM σ (List Int)) fun chain =>
      chain.length ≤ maxExplosions + 1 ∧ ∀ n ∈ chain, 1 ≤ n ∧ n ≤ sides := by
  refine .bind (yields_drawFace hfair hsides) fun first hfirst => ?_
  split
  · refine .bind (yields_explosions hfair hsides _ maxExplosions first) fun more hmore => .pure ⟨?_, ?_⟩
    · rw [List.length_cons]
      exact Nat.succ_le_succ hmore.1
    · exact List.forall_mem_cons.mpr ⟨hfirst, hmore.2⟩
  · exact .pure ⟨by simp, by simpa using hfirst⟩

theorem yields_throwDie (hfair : RandomSource.IsFair σ) (hsides : 1 ≤ sides) (m : Modifiers) :
    Yields (throwDie sides m : StateM σ Die) fun d => 0 ≤ d.value ∧ d.value ≤ (maxExplosions + 1 : Nat) * sides := by
  refine .bind (yields_throwChain hfair hsides m) fun chain hchain => ?_
  split
  · refine .bind (yields_drawFace hfair hsides) fun fresh hfresh => .pure ?_
    have hvalue : Die.value { chain, fresh := some fresh } = fresh := rfl
    rw [hvalue]
    unfold maxExplosions
    omega
  · refine .pure (subtotal_le_of_length (fun n hn => ?_) hchain.1 (by omega))
    have hn := hchain.2 n hn
    omega

end Dice

/-! ### Terms -/

namespace DiceTerm

/-- No term within its bounds comes to more, whichever sign it has. -/
def maxTotal : Nat := (maxExplosions + 1) * maxOutcomeSpace

private theorem natAbs_signed (t : DiceTerm) (n : Int) : (t.signed n).natAbs = n.natAbs := by
  unfold signed
  split
  · exact Int.natAbs_neg n
  · rfl

private theorem total_ofDice_le {t : DiceTerm} {m : Modifiers} {sides : Int} {dice : List Die} (hsides : 1 ≤ sides)
    (hspace : dice.length * sides ≤ maxOutcomeSpace)
    (hdice : ∀ d ∈ dice, 0 ≤ d.value ∧ d.value ≤ (maxExplosions + 1 : Nat) * sides) :
    (t.ofDice m dice).total.natAbs ≤ maxTotal := by
  have hvalues : ∀ n ∈ dice.map Die.value, 0 ≤ n ∧ n ≤ (maxExplosions + 1 : Nat) * sides := by
    intro n hn
    obtain ⟨d, hd, rfl⟩ := List.mem_map.mp hn
    exact hdice d hd
  have hkept : (∀ n ∈ (m.select (dice.map Die.value)).getD (dice.map Die.value), n ∈ dice.map Die.value) ∧
      ((m.select (dice.map Die.value)).getD (dice.map Die.value)).length ≤ dice.length := by
    cases hselect : m.select (dice.map Die.value) with
    | none => exact ⟨fun n hn => hn, by simp⟩
    | some kept => simpa using Modifiers.select_bounds hselect
  have hdie : (0 : Int) ≤ (maxExplosions + 1 : Nat) * sides := Int.mul_nonneg (Int.natCast_nonneg _) (by omega)
  obtain ⟨hlow, hhigh⟩ := subtotal_le_of_length (fun n hn => hvalues n (hkept.1 n hn)) hkept.2 hdie
  -- The bound on the outcome space is one on the product, so the factor of the explosions is moved out.
  have hmany : (dice.length : Int) * ((maxExplosions + 1 : Nat) * sides) =
      (maxExplosions + 1 : Nat) * (dice.length * sides) := by ring
  show (t.signed _).natAbs ≤ maxTotal
  rw [natAbs_signed]
  rw [hmany] at hhigh
  unfold maxTotal
  unfold maxExplosions at hhigh ⊢
  unfold maxOutcomeSpace at hspace ⊢
  omega

variable {σ : Type} [RandomSource σ]

theorem yields_throwAll (hfair : RandomSource.IsFair σ) {t : DiceTerm} (h : t.InBounds) :
    Yields (t.throwAll : StateM σ Outcome) fun o => o.total.natAbs ≤ maxTotal := by
  obtain ⟨hcount, hkind⟩ := h
  have hlength : (t.count.toNat : Int) = t.count := Int.toNat_of_nonneg (by omega)
  unfold throwAll
  cases hk : t.kind with
  | sided sides m =>
    rw [hk] at hkind
    refine .map (yields_throwMany (yields_throwDie hfair hkind.1.1 m) _) fun dice hdice => ?_
    refine total_ofDice_le hkind.1.1 ?_ hdice.2
    rw [hdice.1, hlength]
    exact hkind.2
  | percentile =>
    rw [hk] at hkind
    have hsides : 1 ≤ (percentileSides : Int) := by decide
    refine .map (yields_throwMany (yields_throwDie hfair hsides {}) _) fun dice hdice => ?_
    refine total_ofDice_le hsides ?_ hdice.2
    rw [hdice.1, hlength]
    exact hkind
  | fudge =>
    refine .map (yields_throwMany (yields_drawFace hfair (by decide)) _) fun faces hfaces => ?_
    obtain ⟨hlow, hhigh⟩ := subtotal_bounds hfaces.2
    show (t.signed (subtotal faces)).natAbs ≤ maxTotal
    rw [natAbs_signed]
    rw [hfaces.1, hlength] at hlow hhigh
    obtain ⟨-, hmax⟩ := hcount
    unfold maxCount at hmax
    unfold maxTotal maxExplosions maxOutcomeSpace
    omega

end DiceTerm

end Tabletop
