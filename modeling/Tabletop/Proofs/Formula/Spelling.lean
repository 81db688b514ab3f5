import Tabletop.Proofs.Formula.Canonical

/-!
# Spellings of one formula

Trees that have the same canonical form say the same.  `Respells` adds that no number is written that was not there before,
so a formula within the bounds stays within them (`Fits.respells`).  Of a row of modifiers only the order within each kind
matters (`SameRow.of_kinds`).
-/

namespace Tabletop

/-! ### Numbers -/

namespace Numeral

/-- The same number in other digits. -/
def Pads (n padded : Numeral) : Prop := padded.value = n.value ∧ (n.IsNumber → padded.IsNumber)

theorem Pads.refl (n : Numeral) : n.Pads n := ⟨rfl, id⟩

theorem pads_zero (n : Numeral) : n.Pads ⟨'0' :: n.digits⟩ := by
  refine ⟨rfl, fun hn => ⟨by simp, ?_⟩⟩
  exact List.forall_mem_cons.mpr ⟨by decide, hn.2⟩

end Numeral

/-! ### Rows of modifiers -/

/-- What a modifier is about; the two marks of exploding dice are one kind. -/
inductive ModifierKind where
  | keep
  | drop
  | explode
  | reroll
  deriving DecidableEq

/-- What modifiers of a kind decide. -/
def Modifiers.part (m : Modifiers) : ModifierKind → Option Int × Bool
  | .keep => (m.keep, false)
  | .drop => (m.drop, false)
  | .explode => (m.explodeOn, m.explode)
  | .reroll => (m.reroll, false)

theorem Modifiers.eq_of_part {m m' : Modifiers} (h : ∀ k, m.part k = m'.part k) : m = m' := by
  obtain ⟨keep, drop, explode, explodeOn, reroll⟩ := m
  obtain ⟨keep', drop', explode', explodeOn', reroll'⟩ := m'
  have hkeep : keep = keep' := congrArg Prod.fst (h .keep)
  have hdrop : drop = drop' := congrArg Prod.fst (h .drop)
  have hexplode : explode = explode' := congrArg Prod.snd (h .explode)
  have hexplodeOn : explodeOn = explodeOn' := congrArg Prod.fst (h .explode)
  have hreroll : reroll = reroll' := congrArg Prod.fst (h .reroll)
  rw [hkeep, hdrop, hexplode, hexplodeOn, hreroll]

namespace Modifier

def kind : Modifier → ModifierKind
  | keep _ => .keep
  | drop _ => .drop
  | explode _ _ => .explode
  | reroll _ => .reroll

/-- A modifier decides nothing about the other kinds. -/
theorem part_applyTo_of_ne {x : Modifier} {k : ModifierKind} (h : x.kind ≠ k) (m : Modifiers) :
    (applyTo m x).part k = m.part k := by
  cases x with
  | explode mark n =>
    cases n with
    | none => cases k <;> first | rfl | exact absurd rfl h
    | some n => cases k <;> first | rfl | exact absurd rfl h
  | _ => cases k <;> first | rfl | exact absurd rfl h

theorem part_applyTo_congr {m m' : Modifiers} (x : Modifier) (h : m.part x.kind = m'.part x.kind) :
    (applyTo m x).part x.kind = (applyTo m' x).part x.kind := by
  cases x with
  | explode mark n =>
    cases n with
    | none =>
      have hthreshold : m.explodeOn = m'.explodeOn := congrArg Prod.fst h
      show (m.explodeOn, true) = (m'.explodeOn, true)
      rw [hthreshold]
    | some n => rfl
  | _ => rfl

/-- What a row decides for a kind is decided by its modifiers of this kind alone. -/
theorem part_foldl {k : ModifierKind} {m m' : Modifiers} (row : List Modifier) (h : m.part k = m'.part k) :
    (row.foldl applyTo m).part k = ((row.filter fun x => decide (x.kind = k)).foldl applyTo m').part k := by
  induction row generalizing m m' with
  | nil => exact h
  | cons x rest ih =>
    by_cases hx : x.kind = k
    · rw [List.filter_cons_of_pos (by simpa using hx)]
      subst hx
      exact ih (part_applyTo_congr x h)
    · rw [List.filter_cons_of_neg (by simpa using hx)]
      exact ih ((part_applyTo_of_ne hx m).trans h)

/-- Wherever one row stands, the other one says the same. -/
structure SameRow (row other : List Modifier) : Prop where
  fold : ∀ m, other.foldl applyTo m = row.foldl applyTo m
  numerals : ∀ p ∈ other.flatMap numerals, ∃ n ∈ row.flatMap numerals, n.Pads p

namespace SameRow

variable {row other : List Modifier}

theorem refl (row : List Modifier) : SameRow row row := ⟨fun _ => rfl, fun n hn => ⟨n, hn, .refl n⟩⟩

theorem append {row' other' : List Modifier} (h : SameRow row other) (h' : SameRow row' other') :
    SameRow (row ++ row') (other ++ other') := by
  refine ⟨fun m => ?_, fun p hp => ?_⟩
  · rw [List.foldl_append, List.foldl_append, h.fold, h'.fold]
  · rw [List.flatMap_append] at hp ⊢
    rcases List.mem_append.mp hp with hp | hp
    · obtain ⟨n, hn, hpads⟩ := h.numerals p hp
      exact ⟨n, List.mem_append_left _ hn, hpads⟩
    · obtain ⟨n, hn, hpads⟩ := h'.numerals p hp
      exact ⟨n, List.mem_append_right _ hn, hpads⟩

/-- A row within others. -/
theorem within (h : SameRow row other) (before after : List Modifier) :
    SameRow (before ++ row ++ after) (before ++ other ++ after) :=
  ((refl before).append h).append (refl after)

theorem isNumber (h : SameRow row other) (hrow : ∀ n ∈ row.flatMap Modifier.numerals, n.IsNumber) :
    ∀ p ∈ other.flatMap Modifier.numerals, p.IsNumber := by
  intro p hp
  obtain ⟨n, hn, hpads⟩ := h.numerals p hp
  exact hpads.2 (hrow n hn)

/-- Only the order within each kind matters. -/
theorem of_kinds (hperm : row.Perm other)
    (hkinds : ∀ k, (other.filter fun x => decide (x.kind = k)) = row.filter fun x => decide (x.kind = k)) :
    SameRow row other := by
  refine ⟨fun m => Modifiers.eq_of_part fun k => ?_, fun p hp => ⟨p, ?_, .refl p⟩⟩
  · have hother : (other.foldl applyTo m).part k = ((other.filter fun x => decide (x.kind = k)).foldl applyTo m).part k :=
      part_foldl other rfl
    rw [hother, hkinds k, ← part_foldl row rfl]
  · exact (hperm.flatMap_right Modifier.numerals).mem_iff.mpr hp

end SameRow

end Modifier

/-! ### Trees -/

namespace Formula

/-- The same formula in another spelling; the number that may be new is a dice count that was left out. -/
structure Respells (f g : Formula) : Prop where
  canonical : g.canonical = f.canonical
  numerals : ∀ p ∈ g.numerals, p.value = 1 ∨ ∃ n ∈ f.numerals, p.value = n.value

namespace Respells

variable {f g h : Formula}

theorem refl (f : Formula) : Respells f f := ⟨rfl, fun n hn => .inr ⟨n, hn, rfl⟩⟩

theorem trans (hfg : Respells f g) (hgh : Respells g h) : Respells f h := by
  refine ⟨hgh.canonical.trans hfg.canonical, fun p hp => ?_⟩
  rcases hgh.numerals p hp with hone | ⟨n, hn, hvalue⟩
  · exact .inl hone
  · rw [hvalue]
    exact hfg.numerals n hn

theorem group (hfg : Respells f g) : Respells (.group f) (.group g) := by
  refine ⟨?_, hfg.numerals⟩
  show Formula.group g.canonical = Formula.group f.canonical
  rw [hfg.canonical]

theorem binary {symbol symbol' : Symbol} {l l' r r' : Formula} (hsymbol : symbol'.canonical = symbol.canonical)
    (hl : Respells l l') (hr : Respells r r') : Respells (.binary symbol l r) (.binary symbol' l' r') := by
  refine ⟨?_, fun p hp => ?_⟩
  · show Formula.binary symbol'.canonical l'.canonical r'.canonical =
      Formula.binary symbol.canonical l.canonical r.canonical
    rw [hsymbol, hl.canonical, hr.canonical]
  · show p.value = 1 ∨ ∃ n ∈ l.numerals ++ r.numerals, p.value = n.value
    rcases List.mem_append.mp hp with hp | hp
    · rcases hl.numerals p hp with hone | ⟨n, hn, hvalue⟩
      · exact .inl hone
      · exact .inr ⟨n, List.mem_append_left _ hn, hvalue⟩
    · rcases hr.numerals p hp with hone | ⟨n, hn, hvalue⟩
      · exact .inl hone
      · exact .inr ⟨n, List.mem_append_right _ hn, hvalue⟩

theorem literal (negative : Bool) {n p : Numeral} (hpads : n.Pads p) :
    Respells (.literal negative n) (.literal negative p) := by
  refine ⟨?_, fun q hq => ?_⟩
  · unfold Formula.canonical
    rw [hpads.1]
  · rw [List.mem_singleton.mp hq]
    exact .inr ⟨n, List.mem_singleton_self n, hpads.1⟩

/-- A dice term with a count that is spelled differently. -/
theorem count (negative : Bool) (kind : WrittenKind) {count count' : Option Numeral}
    (hvalue : (count'.map Numeral.value).getD 1 = (count.map Numeral.value).getD 1) :
    Respells (.dice ⟨negative, count, kind⟩) (.dice ⟨negative, count', kind⟩) := by
  refine ⟨?_, fun p hp => ?_⟩
  · unfold Formula.canonical WrittenDice.canonical
    rw [hvalue]
  · rcases List.mem_append.mp hp with hp | hp
    · obtain rfl : count' = some p := Option.mem_toList.mp hp
      cases count with
      | none => exact .inl hvalue
      | some n => exact .inr ⟨n, List.mem_append_left _ (by simp), hvalue⟩
    · exact .inr ⟨p, List.mem_append_right _ hp, rfl⟩

/-- A dice term with sides and modifiers that are spelled differently. -/
theorem sided (negative : Bool) (count : Option Numeral) {sides sides' : Numeral} {row other : List Modifier}
    (hsides : sides.Pads sides') (hrow : Modifier.SameRow row other) :
    Respells (.dice ⟨negative, count, .sided sides row⟩) (.dice ⟨negative, count, .sided sides' other⟩) := by
  refine ⟨?_, fun p hp => ?_⟩
  · have hmerge : Modifier.merge other = Modifier.merge row := hrow.fold {}
    have hkind : (WrittenKind.sided sides' other).canonical = (WrittenKind.sided sides row).canonical := by
      show WrittenKind.sided (.ofNat sides'.value) (Modifier.merge other).row =
        .sided (.ofNat sides.value) (Modifier.merge row).row
      rw [hsides.1, hmerge]
    unfold Formula.canonical WrittenDice.canonical
    rw [hkind]
  · right
    rcases List.mem_append.mp hp with hp | hp
    · exact ⟨p, List.mem_append_left _ hp, rfl⟩
    · rcases List.mem_cons.mp hp with rfl | hp
      · exact ⟨sides, List.mem_append_right _ List.mem_cons_self, hsides.1⟩
      · obtain ⟨n, hn, hpads⟩ := hrow.numerals p hp
        exact ⟨n, List.mem_append_right _ (List.mem_cons_of_mem _ hn), hpads.1⟩

end Respells

theorem Fits.respells {room : Nat} {f g : Formula} (h : Fits room f) (hrespells : Respells f g) : Fits room g := by
  refine ⟨fun p hp => ?_, ?_⟩
  · unfold Numeral.InBounds
    rcases hrespells.numerals p hp with hone | ⟨n, hn, hvalue⟩
    · rw [hone]
      decide
    · rw [hvalue]
      exact h.numerals n hn
  · rw [← nesting_canonical, hrespells.canonical, nesting_canonical]
    exact h.nesting

theorem evaluate_respells {σ : Type} [RandomSource σ] {f g : Formula} (h : Respells f g) :
    (g.evaluate : Roller σ Outcome) = f.evaluate := by
  rw [← evaluate_canonical, h.canonical, evaluate_canonical]

end Formula

end Tabletop
