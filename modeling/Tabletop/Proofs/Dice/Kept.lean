import Tabletop.Dice.Roll

/-!
# Which values are kept

Keeping shows the largest values, the largest first; dropping leaves the largest values, too, but shows them the smallest
first.  `Modifiers.Retains` says this without sorting: what is kept is in order, and together with values that are nowhere
larger it makes up all values.  `Modifiers.select` keeps just so (`retains_select`).
-/

namespace Tabletop

/-- `kept` are as many of the values as `size` says, none of them smaller than one that is left out. -/
structure Largest (values kept : List Int) (size : Nat) : Prop where
  length_eq : kept.length = size
  perm : ∃ others, (kept ++ others).Perm values ∧ ∀ a ∈ kept, ∀ b ∈ others, b ≤ a

/-- How many of `length` places lie before a cut; a negative cut is counted from the end. -/
def placesBefore (cut : Int) (length : Nat) : Nat :=
  if 0 ≤ cut then min cut.toNat length else length - cut.natAbs

namespace Modifiers

/-- What is kept of the values, if anything is kept or dropped at all; keeping wins over dropping. -/
def Retains (m : Modifiers) (values : List Int) (kept : Option (List Int)) : Prop :=
  match m.keep, m.drop with
  | some k, _ => ∃ best, kept = some best ∧ best.Pairwise (fun a b => b ≤ a) ∧
      Largest values best (placesBefore k values.length)
  | none, some d => ∃ best, kept = some best ∧ best.Pairwise (· ≤ ·) ∧
      Largest values best (values.length - placesBefore d values.length)
  | none, none => kept = none

end Modifiers

private theorem min_cutAt (cut : Int) (length : Nat) : min (cutAt cut length) length = placesBefore cut length := by
  unfold cutAt placesBefore
  split
  · rfl
  · omega

private theorem largest_take (values : List Int) (k : Nat) :
    Largest values ((descending values).take k) (min k values.length) := by
  have hperm := descending_perm values
  have hsorted := descending_sorted values
  refine ⟨?_, (descending values).drop k, ?_, ?_⟩
  · rw [List.length_take, hperm.length_eq]
  · rw [List.take_append_drop]
    exact hperm
  · rw [← List.take_append_drop k (descending values), List.pairwise_append] at hsorted
    exact hsorted.2.2

private theorem largest_drop (values : List Int) (d : Nat) :
    Largest values ((ascending values).drop d) (values.length - min d values.length) := by
  have hperm := ascending_perm values
  have hsorted := ascending_sorted values
  refine ⟨?_, (ascending values).take d, ?_, ?_⟩
  · rw [List.length_drop, hperm.length_eq]
    omega
  · have hswap : ((ascending values).drop d ++ (ascending values).take d).Perm (ascending values) := by
      have hcomm : ((ascending values).drop d ++ (ascending values).take d).Perm
          ((ascending values).take d ++ (ascending values).drop d) := List.perm_append_comm
      rw [List.take_append_drop] at hcomm
      exact hcomm
    exact hswap.trans hperm
  · rw [← List.take_append_drop d (ascending values), List.pairwise_append] at hsorted
    intro a ha b hb
    exact hsorted.2.2 b hb a ha

theorem Modifiers.retains_select (m : Modifiers) (values : List Int) : m.Retains values (m.select values) := by
  unfold Modifiers.Retains Modifiers.select
  cases m.keep with
  | some k =>
    have hlargest := largest_take values (cutAt k values.length)
    rw [min_cutAt] at hlargest
    exact ⟨_, rfl, (descending_sorted values).sublist (List.take_sublist _ _), hlargest⟩
  | none =>
    cases m.drop with
    | none => rfl
    | some d =>
      have hlargest := largest_drop values (cutAt d values.length)
      rw [min_cutAt] at hlargest
      exact ⟨_, rfl, (ascending_sorted values).sublist (List.drop_sublist _ _), hlargest⟩

end Tabletop
