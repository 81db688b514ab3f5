import Tabletop.Proofs.Formula.Rolling
import Tabletop.Proofs.Text.Numeral
import Mathlib.Tactic.Tauto

/-!
# The canonical form of a formula

The same formula can be written in many ways.  `Formula.canonical` is the tree that stands for all of them: numbers without
zeros in front, counts written out, each kind of modifier once and in a fixed order, one symbol for multiplication.  It
means the same as the tree that it comes from (`evaluate_canonical`), its text derives as it (`Derives.canonical`), and it is
within the bounds of that tree (`Fits.canonical`).
-/

namespace Tabletop

/-! ### Numbers -/

namespace Numeral

def ofNat (n : Nat) : Numeral := ⟨Nat.toDigits 10 n⟩

@[simp] theorem value_ofNat (n : Nat) : (ofNat n).value = n := Nat.ofDigitChars_ten_toDigits

theorem isNumber_ofNat (n : Nat) : (ofNat n).IsNumber :=
  ⟨Nat.toDigits_ne_nil, fun _ hc => Nat.isDigit_of_mem_toDigits (by decide) (by decide) hc⟩

theorem inBounds_ofNat {n : Nat} (h : n ≤ maxNumber) : (ofNat n).InBounds := by
  unfold InBounds
  rw [value_ofNat]
  exact h

end Numeral

/-! ### Modifiers -/

namespace Modifiers

def numbers (m : Modifiers) : List Int :=
  m.keep.toList ++ m.drop.toList ++ m.explodeOn.toList ++ m.reroll.toList

/-- What the modifiers of a written term always are: their numbers are not negative, and a threshold explodes. -/
structure IsWritten (m : Modifiers) : Prop where
  nonneg : ∀ n ∈ m.numbers, 0 ≤ n
  explode : m.explodeOn.isSome → m.explode

/-- The modifier of one kind, if there is a number for it. -/
def valued (make : Numeral → Modifier) (n : Option Int) : List Modifier :=
  (n.map fun k => make (.ofNat k.toNat)).toList

def explosion (m : Modifiers) : List Modifier :=
  if m.explode then
    match m.explodeOn with
    | none => [.explode .bang none]
    | some n => [.explode .letter (some (.ofNat n.toNat))]
  else []

/-- Modifiers as a row in canonical order. -/
def row (m : Modifiers) : List Modifier :=
  valued .keep m.keep ++ valued .drop m.drop ++ m.explosion ++ valued .reroll m.reroll

end Modifiers

namespace Modifier

open Modifiers

/-! #### What a row comes to -/

private theorem mem_numbers_applyTo {m : Modifiers} {x : Modifier} {n : Int} (h : n ∈ (applyTo m x).numbers) :
    n ∈ m.numbers ∨ ∃ k ∈ x.numerals, n = (k.value : Int) := by
  unfold numbers at h ⊢
  cases x with
  | keep k =>
    simp only [applyTo, numerals, Option.toList_some, List.mem_append, List.mem_singleton, exists_eq_left] at h ⊢
    tauto
  | drop k =>
    simp only [applyTo, numerals, Option.toList_some, List.mem_append, List.mem_singleton, exists_eq_left] at h ⊢
    tauto
  | explode mark k =>
    cases k with
    | none => exact .inl h
    | some k =>
      simp only [applyTo, numerals, Option.toList_some, List.mem_append, List.mem_singleton, exists_eq_left] at h ⊢
      tauto
  | reroll k =>
    simp only [applyTo, numerals, Option.toList_some, List.mem_append, List.mem_singleton, exists_eq_left] at h ⊢
    tauto

private theorem mem_numbers_foldl {m : Modifiers} {row : List Modifier} {n : Int}
    (h : n ∈ (row.foldl applyTo m).numbers) :
    n ∈ m.numbers ∨ ∃ k ∈ row.flatMap numerals, n = (k.value : Int) := by
  induction row generalizing m with
  | nil => exact .inl h
  | cons x rest ih =>
    rw [List.flatMap_cons]
    rcases ih h with hx | ⟨k, hk, hn⟩
    · rcases mem_numbers_applyTo hx with hm | ⟨k, hk, hn⟩
      · exact .inl hm
      · exact .inr ⟨k, List.mem_append_left _ hk, hn⟩
    · exact .inr ⟨k, List.mem_append_right _ hk, hn⟩

/-- Every number of the modifiers was written. -/
theorem mem_numbers_merge {row : List Modifier} {n : Int} (h : n ∈ (merge row).numbers) :
    ∃ k ∈ row.flatMap numerals, n = (k.value : Int) :=
  (mem_numbers_foldl h).resolve_left List.not_mem_nil

private theorem explode_applyTo {m : Modifiers} (h : m.explodeOn.isSome → m.explode) (x : Modifier) :
    (applyTo m x).explodeOn.isSome → (applyTo m x).explode := by
  cases x with
  | keep k => exact h
  | drop k => exact h
  | explode mark k =>
    cases k with
    | none => exact fun _ => rfl
    | some k => exact fun _ => rfl
  | reroll k => exact h

theorem isWritten_merge (row : List Modifier) : (merge row).IsWritten := by
  have hfold : ∀ m : Modifiers, (m.explodeOn.isSome → m.explode) →
      (row.foldl applyTo m).explodeOn.isSome → (row.foldl applyTo m).explode := by
    induction row with
    | nil => exact fun m hm => hm
    | cons x rest ih => exact fun m hm => ih _ (explode_applyTo hm x)
  refine ⟨fun n hn => ?_, hfold {} (by simp)⟩
  obtain ⟨k, -, rfl⟩ := mem_numbers_merge hn
  exact Int.natCast_nonneg _

end Modifier

namespace Modifiers

/-! #### What a canonical row says -/

/-- Optional modifiers of one kind: with a number they are applied, without one nothing happens. -/
private theorem foldl_valued {make : Numeral → Modifier} {m t : Modifiers} {n : Option Int}
    (hn : ∀ k ∈ n.toList, 0 ≤ k) (hnone : n = none → m = t)
    (hsome : ∀ k : Nat, n = some (k : Int) → Modifier.applyTo m (make (.ofNat k)) = t) :
    (valued make n).foldl Modifier.applyTo m = t := by
  cases n with
  | none => exact hnone rfl
  | some k =>
    obtain ⟨k, rfl⟩ := Int.eq_ofNat_of_zero_le (hn k (by simp))
    exact hsome k rfl

private theorem foldl_explosion {m m' : Modifiers} (hm : m.IsWritten) (hexplode : m'.explode = false)
    (hexplodeOn : m'.explodeOn = none) :
    m.explosion.foldl Modifier.applyTo m' = { m' with explode := m.explode, explodeOn := m.explodeOn } := by
  obtain ⟨keep, drop, explode, explodeOn, reroll⟩ := m'
  cases hexplode
  cases hexplodeOn
  unfold explosion
  cases hon : m.explodeOn with
  | none => cases m.explode <;> rfl
  | some n =>
    have hexplodes : m.explode = true := hm.explode (by simp [hon])
    obtain ⟨n, rfl⟩ := Int.eq_ofNat_of_zero_le (hm.nonneg n (by simp [numbers, hon]))
    simp [hexplodes, Modifier.applyTo]

theorem merge_row {m : Modifiers} (hm : m.IsWritten) : Modifier.merge m.row = m := by
  obtain ⟨keep, drop, explode, explodeOn, reroll⟩ := m
  have hnonneg := hm.nonneg
  simp only [numbers, List.forall_mem_append] at hnonneg
  obtain ⟨⟨⟨hkeep, hdrop⟩, -⟩, hreroll⟩ := hnonneg
  unfold Modifier.merge row
  simp only [List.foldl_append]
  rw [foldl_valued (t := { keep }) hkeep (by rintro rfl; rfl) (by rintro k rfl; simp [Modifier.applyTo])]
  rw [foldl_valued (t := { keep, drop }) hdrop (by rintro rfl; rfl) (by rintro k rfl; simp [Modifier.applyTo])]
  rw [foldl_explosion hm rfl rfl]
  exact foldl_valued hreroll (by rintro rfl; rfl) (by rintro k rfl; simp [Modifier.applyTo])

theorem mem_numerals_row {m : Modifiers} {k : Numeral} (h : k ∈ m.row.flatMap Modifier.numerals) :
    ∃ n ∈ m.numbers, k = .ofNat n.toNat := by
  obtain ⟨keep, drop, explode, explodeOn, reroll⟩ := m
  have hvalued : ∀ {make : Numeral → Modifier} {n : Option Int}, (∀ k, (make k).numerals = [k]) →
      k ∈ (valued make n).flatMap Modifier.numerals → ∃ i ∈ n.toList, k = .ofNat i.toNat := by
    intro make n hmake hk
    cases n with
    | none => simp [valued] at hk
    | some i => exact ⟨i, by simp, by simpa [valued, hmake] using hk⟩
  simp only [row, List.flatMap_append, List.mem_append] at h
  simp only [numbers, List.mem_append]
  rcases h with ((hk | hk) | hk) | hk
  · obtain ⟨n, hn, hkn⟩ := hvalued (fun _ => rfl) hk
    exact ⟨n, by tauto, hkn⟩
  · obtain ⟨n, hn, hkn⟩ := hvalued (fun _ => rfl) hk
    exact ⟨n, by tauto, hkn⟩
  · cases explode with
    | false => simp [explosion] at hk
    | true =>
      cases explodeOn with
      | none => simp [explosion, Modifier.numerals] at hk
      | some n => exact ⟨n, by simp, by simpa [explosion, Modifier.numerals] using hk⟩
  · obtain ⟨n, hn, hkn⟩ := hvalued (fun _ => rfl) hk
    exact ⟨n, by tauto, hkn⟩

private theorem text_valued {make : Numeral → Modifier} {letter : String} {n : Option Int}
    (hmake : ∀ k, (make k).text = letter.toList ++ k.digits) (hn : ∀ k ∈ n.toList, 0 ≤ k) :
    (valued make n).flatMap Modifier.text = (n.elim "" fun k => letter ++ toString k).toList := by
  cases n with
  | none => rfl
  | some k =>
    obtain ⟨k, rfl⟩ := Int.eq_ofNat_of_zero_le (hn k (by simp))
    simp only [valued, Option.map_some, Option.toList_some, List.flatMap_singleton, hmake, Option.elim_some,
      String.toList_append, Text.toList_toString_natCast]
    rfl

private theorem text_explosion {m : Modifiers} (hm : m.IsWritten) :
    m.explosion.flatMap Modifier.text = m.explosionText.toList := by
  unfold explosion explosionText
  cases m.explode with
  | false => rfl
  | true =>
    cases hon : m.explodeOn with
    | none => rfl
    | some n =>
      obtain ⟨n, rfl⟩ := Int.eq_ofNat_of_zero_le (hm.nonneg n (by simp [numbers, hon]))
      simp only [if_true, List.flatMap_singleton, String.toList_append, Text.toList_toString_natCast]
      rfl

theorem text_row {m : Modifiers} (hm : m.IsWritten) : m.row.flatMap Modifier.text = m.text.toList := by
  have hparts : m.text = (m.keep.elim "" fun k => "k" ++ toString k) ++ (m.drop.elim "" fun k => "d" ++ toString k) ++
      m.explosionText ++ (m.reroll.elim "" fun k => "r" ++ toString k) := by
    obtain ⟨keep, drop, explode, explodeOn, reroll⟩ := m
    cases keep <;> cases drop <;> cases reroll <;> rfl
  have hnonneg := hm.nonneg
  simp only [numbers, List.forall_mem_append] at hnonneg
  obtain ⟨⟨⟨hkeep, hdrop⟩, -⟩, hreroll⟩ := hnonneg
  rw [hparts, row]
  simp only [List.flatMap_append, String.toList_append]
  have hletters : ∀ k : Numeral, (Modifier.keep k).text = "k".toList ++ k.digits ∧
      (Modifier.drop k).text = "d".toList ++ k.digits ∧ (Modifier.reroll k).text = "r".toList ++ k.digits :=
    fun _ => ⟨rfl, rfl, rfl⟩
  rw [text_valued (fun k => (hletters k).1) hkeep, text_valued (fun k => (hletters k).2.1) hdrop, text_explosion hm,
    text_valued (fun k => (hletters k).2.2) hreroll]

end Modifiers

/-! ### Canonical trees -/

def WrittenKind.canonical : WrittenKind → WrittenKind
  | sided sides modifiers => .sided (.ofNat sides.value) (Modifier.merge modifiers).row
  | percentile => .percentile
  | fudge => .fudge

def WrittenDice.canonical (d : WrittenDice) : WrittenDice :=
  { negative := d.negative
    count := some (.ofNat ((d.count.map Numeral.value).getD 1))
    kind := d.kind.canonical }

def Symbol.canonical : Symbol → Symbol
  | plus => .plus
  | minus => .minus
  | star => .star
  | cross => .star
  | dot => .star

theorem WrittenKind.kind_canonical (k : WrittenKind) : k.canonical.kind = k.kind := by
  cases k with
  | sided sides modifiers =>
    simp only [canonical, kind, Numeral.value_ofNat, Modifiers.merge_row (Modifier.isWritten_merge modifiers)]
  | percentile => rfl
  | fudge => rfl

theorem WrittenDice.term_canonical (d : WrittenDice) : d.canonical.term = d.term := by
  unfold canonical term
  simp [WrittenKind.kind_canonical]

@[simp] theorem Symbol.operator_canonical (s : Symbol) : s.canonical.operator = s.operator := by
  cases s <;> rfl

namespace Formula

/-- A zero has no sign. -/
def canonical : Formula → Formula
  | literal negative n => .literal (negative && n.value != 0) (.ofNat n.value)
  | dice d => .dice d.canonical
  | group inner => .group (canonical inner)
  | binary symbol left right => .binary symbol.canonical (canonical left) (canonical right)

private theorem literalValue_canonical (negative : Bool) (n : Numeral) :
    literalValue (negative && n.value != 0) (.ofNat n.value) = literalValue negative n := by
  unfold literalValue
  rw [Numeral.value_ofNat]
  cases negative with
  | false => rfl
  | true =>
    by_cases hn : n.value = 0
    · simp [hn]
    · simp [hn]

theorem evaluate_canonical {σ : Type} [RandomSource σ] (f : Formula) :
    (f.canonical.evaluate : Roller σ Outcome) = f.evaluate := by
  induction f with
  | literal negative n =>
    unfold canonical evaluate
    rw [literalValue_canonical]
  | dice d =>
    unfold canonical evaluate
    rw [WrittenDice.term_canonical]
  | group inner ih =>
    unfold canonical evaluate
    rw [ih]
  | binary symbol left right ihl ihr =>
    unfold canonical evaluate
    rw [ihl, ihr, Symbol.operator_canonical]

/-! ### Canonical texts are formulas -/

theorem WrittenDice.mem_numerals_canonical {d : WrittenDice} {k : Numeral} (h : k ∈ d.canonical.numerals) :
    ∃ n, k = .ofNat n ∧ (n = 1 ∨ ∃ j ∈ d.numerals, n = j.value) := by
  obtain ⟨negative, count, kind⟩ := d
  rcases List.mem_append.mp h with hcount | hkind
  · refine ⟨_, by simpa [WrittenDice.canonical] using hcount, ?_⟩
    cases count with
    | none => exact .inl rfl
    | some n => exact .inr ⟨n, by simp [WrittenDice.numerals], rfl⟩
  · cases kind with
    | percentile => simp [WrittenDice.canonical, WrittenKind.canonical, WrittenKind.numerals] at hkind
    | fudge => simp [WrittenDice.canonical, WrittenKind.canonical, WrittenKind.numerals] at hkind
    | sided sides modifiers =>
      rcases List.mem_cons.mp hkind with rfl | hk
      · exact ⟨_, rfl, .inr ⟨sides, by simp [WrittenDice.numerals, WrittenKind.numerals], rfl⟩⟩
      · obtain ⟨n, hn, rfl⟩ := Modifiers.mem_numerals_row hk
        obtain ⟨j, hj, rfl⟩ := Modifier.mem_numbers_merge hn
        refine ⟨_, rfl, .inr ⟨j, ?_, Int.toNat_natCast _⟩⟩
        exact List.mem_append_right _ (List.mem_cons_of_mem _ hj)

theorem WrittenDice.isNumber_of_canonical (d : WrittenDice) : ∀ k ∈ d.canonical.numerals, k.IsNumber := by
  intro k hk
  obtain ⟨n, rfl, -⟩ := WrittenDice.mem_numerals_canonical hk
  exact Numeral.isNumber_ofNat n

theorem Derives.canonical {k : Nonterminal} {s : List Char} {f : Formula} (h : Derives k s f) :
    Derives k f.canonical.text f.canonical := by
  induction h with
  | literal negative hn => exact .literal _ (Numeral.isNumber_ofNat _)
  | @dice d hd => exact .dice (WrittenDice.isNumber_of_canonical d)
  | group h ih => exact .group ih
  | factor h ih => exact .factor ih
  | @times s t l r c symbol hl hc hr ihl ihr =>
    refine .times ihl ?_ ihr
    unfold multiplicative? at hc
    split at hc <;> cases hc <;> rfl
  | product h ih => exact .product ih
  | @plus s t l r c symbol hl hc hr ihl ihr =>
    refine .plus ihl ?_ ihr
    unfold additive? at hc
    split at hc <;> cases hc <;> rfl

theorem nesting_canonical (f : Formula) : f.canonical.nesting = f.nesting := by
  induction f with
  | literal negative n => rfl
  | dice d => rfl
  | group inner ih => exact congrArg (· + 1) ih
  | binary symbol left right ihl ihr => exact congrArg₂ max ihl ihr

private theorem inBounds_canonical {f : Formula} (h : ∀ n ∈ f.numerals, n.InBounds) :
    ∀ n ∈ f.canonical.numerals, n.InBounds := by
  induction f with
  | literal negative n => simpa [canonical, numerals, Numeral.InBounds] using h
  | dice d =>
    intro k hk
    obtain ⟨n, rfl, hn⟩ := WrittenDice.mem_numerals_canonical hk
    apply Numeral.inBounds_ofNat
    rcases hn with rfl | ⟨j, hj, rfl⟩
    · decide
    · exact h j hj
  | group inner ih => exact ih h
  | binary symbol left right ihl ihr =>
    obtain ⟨hl, hr⟩ := List.forall_mem_append.mp h
    exact List.forall_mem_append.mpr ⟨ihl hl, ihr hr⟩

theorem Fits.canonical {room : Nat} {f : Formula} (h : Fits room f) : Fits room f.canonical :=
  ⟨inBounds_canonical h.numerals, by rw [nesting_canonical]; exact h.nesting⟩

end Formula

end Tabletop
