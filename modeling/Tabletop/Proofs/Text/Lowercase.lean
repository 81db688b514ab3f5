import Tabletop.Text.Lowercase

/-!
# Lower case is kept by lower-casing

The lower cases of a run lie apart from every run, or fall between the characters of one (`caseRuns_miss`), so whatever is the
lower case of a character is its own lower case (`lowerCode_lowerCode`).  Neither `İ` nor the capital sigma is among them, so
a text in lower case has no character left that lower-casing would change, whatever stands around it
(`isLower_of_mem_lowercase`).
-/

namespace Tabletop.Text

namespace CaseRun

theorem contains_iff {r : CaseRun} {n : Nat} :
    r.contains n = true ↔ r.first ≤ n ∧ n ≤ r.last ∧ (n - r.first) % r.step = 0 := by
  simp [contains, and_assoc]

theorem lower_bounds {r : CaseRun} {n : Nat} (h : r.contains n = true) : r.target ≤ r.lower n ∧ r.lower n ≤ r.lower r.last := by
  obtain ⟨-, hlast, -⟩ := contains_iff.mp h
  unfold lower
  omega

/-- No lower case of the first run is in the second one: they lie apart, or the second run has every other character and
the lower cases of the first one are between those. -/
def misses (r q : CaseRun) : Bool :=
  -- All pairs of runs are compared below, and `Nat.blt` is computed faster than a decision of `<`.
  (r.lower r.last).blt q.first || q.last.blt r.target ||
    q.step == 2 && (r.step == 2 || r.first == r.last) && (r.target + q.first) % 2 == 1

theorem misses_cases {r q : CaseRun} (h : r.misses q = true) :
    r.lower r.last < q.first ∨ q.last < r.target ∨
      q.step = 2 ∧ (r.step = 2 ∨ r.first = r.last) ∧ (r.target + q.first) % 2 = 1 := by
  simpa [misses, or_assoc, and_assoc] using h

theorem not_contains_lower {r q : CaseRun} (h : r.misses q = true) {n : Nat} (hn : r.contains n = true) :
    q.contains (r.lower n) = false := by
  obtain ⟨htarget, hlast⟩ := lower_bounds hn
  rw [Bool.eq_false_iff, ne_eq, contains_iff]
  rintro ⟨hfirst', hlast', hstep'⟩
  rcases misses_cases h with hbelow | habove | ⟨hstep, hshape, hodd⟩
  · omega
  · omega
  · obtain ⟨hfirst, hlast, heven⟩ := contains_iff.mp hn
    have heven : (n - r.first) % 2 = 0 := by
      rcases hshape with hevery | hone
      · rwa [hevery] at heven
      · omega
    rw [hstep] at hstep'
    unfold lower at hfirst' hstep'
    omega

end CaseRun

theorem caseRuns_miss : ∀ r ∈ caseRuns, caseRuns.all r.misses = true := by decide +kernel

/-! ### Single characters -/

theorem lowerCode_cases (n : Nat) :
    lowerCode n = n ∨ ∃ r ∈ caseRuns, r.contains n = true ∧ lowerCode n = r.lower n := by
  unfold lowerCode
  cases h : caseRuns.find? (·.contains n) with
  | none => exact .inl rfl
  | some r =>
    have hn : r.contains n = true := by simpa using List.find?_some h
    exact .inr ⟨r, List.mem_of_find?_eq_some h, hn, rfl⟩

theorem lowerCode_of_not_contains {n : Nat} (h : ∀ r ∈ caseRuns, r.contains n = false) : lowerCode n = n := by
  have hnone : caseRuns.find? (·.contains n) = none := List.find?_eq_none.mpr fun r hr => by simp [h r hr]
  unfold lowerCode
  rw [hnone]

theorem lowerCode_lowerCode (n : Nat) : lowerCode (lowerCode n) = lowerCode n := by
  rcases lowerCode_cases n with h | ⟨r, hr, hn, h⟩
  · rw [h, h]
  · rw [h]
    exact lowerCode_of_not_contains fun q hq => CaseRun.not_contains_lower (List.all_eq_true.mp (caseRuns_miss r hr) q hq) hn

/-- No run meets the surrogates, which are no characters. -/
theorem isValidChar_lowerCode {n : Nat} (h : n.isValidChar) : (lowerCode n).isValidChar := by
  have hall : ∀ r ∈ caseRuns, r.lower r.last < 0xD800 ∨ 0xDFFF < r.target ∧ r.lower r.last < 0x110000 := by decide +kernel
  rcases lowerCode_cases n with hself | ⟨r, hr, hn, hlower⟩
  · rwa [hself]
  · obtain ⟨htarget, hlast⟩ := CaseRun.lower_bounds hn
    have := hall r hr
    rw [hlower]
    unfold Nat.isValidChar
    omega

theorem toNat_lowerChar (c : Char) : (lowerChar c).toNat = lowerCode c.toNat := by
  have hvalid : (lowerCode c.toNat).isValidChar := isValidChar_lowerCode c.valid
  unfold lowerChar Char.ofNat
  rw [dif_pos hvalid]
  rfl

theorem lowerChar_lowerChar (c : Char) : lowerChar (lowerChar c) = lowerChar c := by
  show Char.ofNat (lowerCode (lowerChar c).toNat) = Char.ofNat (lowerCode c.toNat)
  rw [toNat_lowerChar, lowerCode_lowerCode]

/-- Only `İ` itself is lowered to `İ` by the table, which leaves it out. -/
theorem lowerChar_ne_dotted {c : Char} (h : c ≠ 'İ') : lowerChar c ≠ 'İ' := by
  have hall : ∀ r ∈ caseRuns, r.lower r.last < 'İ'.toNat ∨ 'İ'.toNat < r.target := by decide +kernel
  intro hlower
  have hcode : lowerCode c.toNat = 'İ'.toNat := by rw [← toNat_lowerChar, hlower]
  rcases lowerCode_cases c.toNat with hself | ⟨r, hr, hn, hrun⟩
  · rw [hself] at hcode
    exact h (Char.toNat_inj.mp hcode)
  · obtain ⟨htarget, hlast⟩ := CaseRun.lower_bounds hn
    have := hall r hr
    omega

/-! ### Texts -/

/-- Lower-casing leaves the character as it is, wherever it stands. -/
structure IsLower (c : Char) : Prop where
  lowerChar_eq : lowerChar c = c
  ne_dotted : c ≠ 'İ'

/-- The table has the capital sigma, though its lower case depends on what stands around it. -/
theorem IsLower.ne_sigma {c : Char} (h : IsLower c) : c ≠ 'Σ' := by
  rintro rfl
  exact absurd h.lowerChar_eq (by decide)

theorem isLower_of_mem_lowerBetween {before after : List Char} {c d : Char} (h : d ∈ lowerBetween before c after) :
    IsLower d := by
  unfold lowerBetween at h
  split at h
  · simp only [List.mem_cons, List.not_mem_nil, or_false] at h
    rcases h with rfl | rfl
    · exact ⟨by decide, by decide⟩
    · exact ⟨by decide, by decide⟩
  · rename_i hdotted
    split at h
    · rw [List.mem_singleton.mp h]
      split
      · exact ⟨by decide, by decide⟩
      · exact ⟨by decide, by decide⟩
    · rw [List.mem_singleton.mp h]
      exact ⟨lowerChar_lowerChar c, lowerChar_ne_dotted hdotted⟩

private theorem isLower_of_mem_lowercaseAfter {before s : List Char} {d : Char} (h : d ∈ lowercaseAfter before s) :
    IsLower d := by
  induction s generalizing before with
  | nil => cases h
  | cons c s ih =>
    rcases List.mem_append.mp h with h | h
    · exact isLower_of_mem_lowerBetween h
    · exact ih h

theorem isLower_of_mem_lowercase {s : List Char} {d : Char} (h : d ∈ lowercase s) : IsLower d :=
  isLower_of_mem_lowercaseAfter h

end Tabletop.Text
