import Tabletop.Proofs.Dice.Faces
import Tabletop.Proofs.Dice.Kept
import Mathlib.Algebra.BigOperators.Group.List.Basic
import Mathlib.Data.List.Perm.Subperm

/-!
# The best choice of dice

What `Largest` describes is the best that can be chosen: no other choice of as many values has a larger sum
(`Largest.subtotal_le`).  Keeping `k` of `n` dice and dropping `n - k` of them is the same choice, shown from either end
(`select_keep_eq_reverse`), so the two rolls differ in nothing but the order in which the kept values are shown
(`DiceTerm.keep_and_drop_choose_best`).
-/

namespace Tabletop

/-! ### Sums of what is chosen -/

theorem subtotal_append (values more : List Int) : subtotal (values ++ more) = subtotal values + subtotal more :=
  List.sum_append

theorem subtotal_perm {values values' : List Int} (h : values.Perm values') : subtotal values = subtotal values' :=
  List.Perm.sum_eq h

/-- As many values that are nowhere smaller come to at least as much. -/
theorem subtotal_le_of_forall {low high : List Int} (hlength : low.length = high.length)
    (h : ∀ a ∈ high, ∀ b ∈ low, b ≤ a) : subtotal low ≤ subtotal high := by
  induction low generalizing high with
  | nil =>
    rw [List.length_nil] at hlength
    rw [List.length_eq_zero_iff.mp hlength.symm]
  | cons b low ih =>
    cases high with
    | nil => simp at hlength
    | cons a high =>
      have hfirst : b ≤ a := h a (by simp) b (by simp)
      have hrest : subtotal low ≤ subtotal high := by
        apply ih (by simpa using hlength)
        intro a' ha' b' hb'
        exact h a' (by simp [ha']) b' (by simp [hb'])
      show b + subtotal low ≤ a + subtotal high
      omega

namespace Largest

variable {values kept : List Int} {size : Nat}

theorem subperm (h : Largest values kept size) : kept.Subperm values := by
  obtain ⟨others, hperm, -⟩ := h.perm
  exact (hperm.subperm_left).mp (List.sublist_append_left kept others).subperm

/-- Whatever else is chosen instead of the largest values was left out beside them, and is nowhere larger. -/
theorem subtotal_le (h : Largest values kept size) {chosen : List Int} (hchosen : chosen.Subperm values)
    (hlength : chosen.length = size) : subtotal chosen ≤ subtotal kept := by
  obtain ⟨others, hperm, hlarger⟩ := h.perm
  obtain ⟨picked, hpicked, hsublist⟩ := (hperm.symm.subperm_left).mp hchosen
  obtain ⟨common, instead, rfl, hcommon, hinstead⟩ := List.sublist_append_iff.mp hsublist
  obtain ⟨missed, hmissed⟩ := hcommon.exists_perm_append
  have hsame : instead.length = missed.length := by
    have hkept := hmissed.length_eq
    have hall := hpicked.length_eq
    have hsize := h.length_eq
    simp only [List.length_append] at hkept hall
    omega
  have hless : subtotal instead ≤ subtotal missed := by
    apply subtotal_le_of_forall hsame
    intro a ha b hb
    have ha' : a ∈ kept := hmissed.mem_iff.mpr (List.mem_append_right common ha)
    exact hlarger a ha' b (hinstead.subset hb)
  calc subtotal chosen = subtotal common + subtotal instead := by
        rw [← subtotal_perm hpicked, subtotal_append]
    _ ≤ subtotal common + subtotal missed := by omega
    _ = subtotal kept := by rw [subtotal_perm hmissed, subtotal_append]

end Largest

/-- As many of the values as `size` says, none of them smaller than one that is left out, and no other choice of as many
values has a larger sum. -/
structure BestChoice (values kept : List Int) (size : Nat) : Prop where
  largest : Largest values kept size
  subperm : kept.Subperm values
  best : ∀ chosen : List Int, chosen.Subperm values → chosen.length = size → subtotal chosen ≤ subtotal kept

theorem Largest.bestChoice {values kept : List Int} {size : Nat} (h : Largest values kept size) :
    BestChoice values kept size :=
  ⟨h, h.subperm, fun _ hchosen hlength => h.subtotal_le hchosen hlength⟩

/-! ### Keeping and dropping -/

theorem descending_eq_reverse (values : List Int) : descending values = (ascending values).reverse := by
  have hperm : (descending values).Perm (ascending values).reverse := by
    have hboth := (descending_perm values).trans (ascending_perm values).symm
    exact hboth.trans (List.reverse_perm (ascending values)).symm
  have hsorted : (ascending values).reverse.Pairwise (fun a b => b ≤ a) :=
    List.pairwise_reverse.mpr (ascending_sorted values)
  refine List.Perm.eq_of_pairwise ?_ (descending_sorted values) hsorted hperm
  intro a b _ _ hba hab
  omega

namespace Modifiers

variable {m : Modifiers} {values : List Int}

theorem select_of_keep {k : Nat} (h : m.keep = some (k : Int)) :
    ∃ kept, m.select values = some kept ∧ BestChoice values kept (min k values.length) := by
  have hretains := m.retains_select values
  unfold Retains at hretains
  rw [h] at hretains
  obtain ⟨kept, hkept, -, hlargest⟩ := hretains
  have hsize : placesBefore (k : Int) values.length = min k values.length := by
    unfold placesBefore
    rw [if_pos (Int.natCast_nonneg k), Int.toNat_natCast]
  rw [hsize] at hlargest
  exact ⟨kept, hkept, hlargest.bestChoice⟩

theorem select_of_drop {d : Nat} (hkeep : m.keep = none) (h : m.drop = some (d : Int)) :
    ∃ kept, m.select values = some kept ∧ BestChoice values kept (values.length - min d values.length) := by
  have hretains := m.retains_select values
  unfold Retains at hretains
  rw [hkeep, h] at hretains
  obtain ⟨kept, hkept, -, hlargest⟩ := hretains
  have hsize : placesBefore (d : Int) values.length = min d values.length := by
    unfold placesBefore
    rw [if_pos (Int.natCast_nonneg d), Int.toNat_natCast]
  rw [hsize] at hlargest
  exact ⟨kept, hkept, hlargest.bestChoice⟩

/-- The modifiers with `k` dice kept and none dropped. -/
def keeping (m : Modifiers) (k : Int) : Modifiers := { m with keep := some k, drop := none }

/-- The modifiers with `d` dice dropped and none kept. -/
def dropping (m : Modifiers) (d : Int) : Modifiers := { m with keep := none, drop := some d }

theorem select_keep_eq_reverse (m : Modifiers) {values : List Int} {k : Nat} (hk : k ≤ values.length) :
    ∃ kept, (m.keeping k).select values = some kept ∧
      (m.dropping ((values.length : Int) - k)).select values = some kept.reverse := by
  have hkeep : cutAt (k : Int) values.length = k := by
    unfold cutAt
    rw [if_pos (Int.natCast_nonneg k), Int.toNat_natCast]
  have hdrop : cutAt ((values.length : Int) - k) values.length = values.length - k := by
    unfold cutAt
    rw [if_pos (by omega)]
    omega
  refine ⟨(descending values).take k, ?_, ?_⟩
  · show some ((descending values).take (cutAt (k : Int) values.length)) = _
    rw [hkeep]
  · show some ((ascending values).drop (cutAt ((values.length : Int) - k) values.length)) = _
    rw [hdrop, descending_eq_reverse, List.take_reverse, List.reverse_reverse, (ascending_perm values).length_eq]

end Modifiers

/-! ### Rolls -/

namespace DiceTerm

variable {σ : Type} [RandomSource σ]

theorem breakdown_ofDice {t : DiceTerm} {m : Modifiers} {dice : List Die} {kept : List Int}
    (h : m.select (dice.map Die.value) = some kept) :
    (t.ofDice m dice).breakdown =
      listText (dice.map Die.value) ++ " → " ++ listText kept ++ " = " ++ toString (t.ofDice m dice).total := by
  unfold ofDice
  simp only [h, String.append_assoc]

theorem total_ofDice {t : DiceTerm} {m : Modifiers} {dice : List Die} {kept : List Int}
    (h : m.select (dice.map Die.value) = some kept) : (t.ofDice m dice).total = t.signed (subtotal kept) := by
  unfold ofDice
  simp only [h, Option.getD_some]

private theorem roll_sided {count sides : Int} (h : checkBounds count sides = .ok ()) (m : Modifiers) (negative : Bool)
    (source : σ) :
    let thrown := (throwMany (throwDie sides m) count.toNat).run source
    (roll ⟨count, .sided sides m, negative⟩).run.run source =
      (.ok (ofDice ⟨count, .sided sides m, negative⟩ m thrown.1), thrown.2) :=
  roll_eq_ok_iff.mpr ⟨check_eq_ok_iff.mp h, rfl⟩

/-- Keeping and dropping choose the best values, whatever the values are.  If `k` of the dice of a term are kept or all but
`k` of them dropped, the same faces are drawn for the same total, and what is kept is shown in opposite order. -/
theorem keep_and_drop_choose_best :
    (∀ (m : Modifiers) (values : List Int) (k : Nat), m.keep = some (k : Int) →
      ∃ kept, m.select values = some kept ∧ BestChoice values kept (min k values.length)) ∧
    (∀ (m : Modifiers) (values : List Int) (d : Nat), m.keep = none → m.drop = some (d : Int) →
      ∃ kept, m.select values = some kept ∧ BestChoice values kept (values.length - min d values.length)) ∧
    ∀ (count sides : Int) (m : Modifiers) (negative : Bool) (k : Nat) (source : σ),
      checkBounds count sides = .ok () → (k : Int) ≤ count →
      ∃ (o o' : Outcome) (source' : σ) (values kept : List Int),
        (roll ⟨count, .sided sides (m.keeping k), negative⟩).run.run source = (.ok o, source') ∧
        (roll ⟨count, .sided sides (m.dropping (count - k)), negative⟩).run.run source = (.ok o', source') ∧
        o'.rolls = o.rolls ∧ o'.total = o.total ∧
        o.breakdown = listText values ++ " → " ++ listText kept ++ " = " ++ toString o.total ∧
        o'.breakdown = listText values ++ " → " ++ listText kept.reverse ++ " = " ++ toString o'.total := by
  refine ⟨fun m values k hk => Modifiers.select_of_keep hk,
    fun m values d hkeep hd => Modifiers.select_of_drop hkeep hd, ?_⟩
  intro count sides m negative k source hbounds hk
  -- What is kept or dropped does not matter before the dice have fallen.
  have hthrow : (throwDie sides (m.dropping (count - k)) : StateM σ Die) = throwDie sides (m.keeping k) := rfl
  have hkeep := roll_sided hbounds (m.keeping k) negative source
  have hdrop := roll_sided hbounds (m.dropping (count - k)) negative source
  rw [hthrow] at hdrop
  have hany : Yields (throwDie sides (m.keeping k) : StateM σ Die) fun _ => True := fun _ => trivial
  have hlength := (yields_throwMany hany count.toNat source).1
  generalize (throwMany (throwDie sides (m.keeping k)) count.toNat).run source = thrown at hkeep hdrop hlength
  obtain ⟨dice, source'⟩ := thrown
  have hcount : ((dice.map Die.value).length : Int) = count := by
    have hlength : dice.length = count.toNat := hlength
    rw [List.length_map, hlength]
    omega
  have hroom : k ≤ (dice.map Die.value).length := by omega
  obtain ⟨kept, hkept, hkept'⟩ := m.select_keep_eq_reverse hroom
  rw [hcount] at hkept'
  refine ⟨_, _, source', dice.map Die.value, kept, hkeep, hdrop, rfl, ?_, breakdown_ofDice hkept, breakdown_ofDice hkept'⟩
  rw [total_ofDice hkept, total_ofDice hkept', subtotal_perm (List.reverse_perm kept)]
  rfl

/-- Two dice explode, the last one is rerolled; the best three of four are equal in part. -/
private def fourDice : Modifiers := { explode := true, reroll := some 1 }

private def fourFaces : Script := Script.ofFaces [6, 2, 3, 6, 2, 1, 3]

theorem keep_and_drop_choose_best_fourDice :
    (Modifiers.keep { keep := some ((3 : Nat) : Int) } = some ((3 : Nat) : Int) ∧
      ∃ kept, Modifiers.select { keep := some ((3 : Nat) : Int) } [8, 3, 8, 3] = some kept ∧
        BestChoice [8, 3, 8, 3] kept (min 3 4)) ∧
    (Modifiers.drop { drop := some ((5 : Nat) : Int) } = some ((5 : Nat) : Int) ∧
      ∃ kept, Modifiers.select { drop := some ((5 : Nat) : Int) } [8, 3, 8, 3] = some kept ∧
        BestChoice [8, 3, 8, 3] kept (4 - min 5 4)) ∧
    checkBounds 4 6 = .ok () ∧ ((3 : Nat) : Int) ≤ 4 ∧
    ((throwMany (throwDie 6 fourDice) 4).run fourFaces).1.map Die.value = [8, 3, 8, 3] ∧
    ∃ (o o' : Outcome) (source' : Script) (values kept : List Int),
      (roll ⟨4, .sided 6 (fourDice.keeping (3 : Nat)), false⟩).run.run fourFaces = (.ok o, source') ∧
      (roll ⟨4, .sided 6 (fourDice.dropping (4 - (3 : Nat))), false⟩).run.run fourFaces = (.ok o', source') ∧
      o'.rolls = o.rolls ∧ o'.total = o.total ∧
      o.breakdown = listText values ++ " → " ++ listText kept ++ " = " ++ toString o.total ∧
      o'.breakdown = listText values ++ " → " ++ listText kept.reverse ++ " = " ++ toString o'.total := by
  obtain ⟨hkeep, hdrop, hrolls⟩ := @keep_and_drop_choose_best Script _
  exact ⟨⟨rfl, hkeep _ [8, 3, 8, 3] 3 rfl⟩, ⟨rfl, hdrop _ [8, 3, 8, 3] 5 rfl rfl⟩, rfl, by decide, by decide +kernel,
    hrolls 4 6 fourDice false 3 fourFaces rfl (by decide)⟩

end DiceTerm

end Tabletop
