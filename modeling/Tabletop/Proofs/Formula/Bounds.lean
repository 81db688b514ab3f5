import Tabletop.Proofs.Formula.Completeness

/-!
# What is read is within the bounds

Whatever stands behind a part that was read, the numbers of the part are at most `maxNumber`, and its groups nest no deeper
than there was room for (`readPart_fits`).  Unlike `Derives.settles` this needs nothing of the character that follows.
-/

namespace Tabletop.Formula

/-! ### Numbers and modifiers -/

theorem numeral_inBounds {c c' : Cursor} {n : Numeral} (h : numeral c = .ok (n, c')) : n.InBounds :=
  (numeral_eq_ok_iff.mp h).2.2.1

theorem numeral?_inBounds {c c' : Cursor} {n : Option Numeral} (h : numeral? c = .ok (n, c')) :
    ∀ m ∈ n.toList, m.InBounds := by
  unfold numeral? at h
  split at h
  · obtain ⟨⟨m, c₁⟩, hm, h⟩ := exists_of_bind_eq_ok h
    cases h
    simpa using numeral_inBounds hm
  · cases h
    simp

theorem modifierValue_inBounds {c c' : Cursor} {letter : Char} {n : Numeral}
    (h : modifierValue letter c = .ok (n, c')) : n.InBounds := by
  unfold modifierValue at h
  split at h
  · exact numeral_inBounds h
  · cases h

private theorem valued_inBounds {c c' : Cursor} {letter : Char} {make : Numeral → Modifier} {m : Option Modifier}
    (hmake : ∀ n, (make n).numerals = [n])
    (h : (do let (n, c) ← modifierValue letter c; return (some (make n), c)) = .ok (m, c')) :
    ∀ n ∈ m.toList.flatMap Modifier.numerals, n.InBounds := by
  obtain ⟨⟨n, c₁⟩, hn, h⟩ := exists_of_bind_eq_ok h
  cases h
  simpa [hmake] using modifierValue_inBounds hn

private theorem explosion_inBounds {mark : ExplosionMark} {c c' : Cursor} {m : Option Modifier}
    (h : (do let (n, c) ← numeral? c; return (some (Modifier.explode mark n), c)) = .ok (m, c')) :
    ∀ n ∈ m.toList.flatMap Modifier.numerals, n.InBounds := by
  obtain ⟨⟨n, c₁⟩, hn, h⟩ := exists_of_bind_eq_ok h
  cases h
  simpa [Modifier.numerals] using numeral?_inBounds hn

theorem modifier?_inBounds {c c' : Cursor} {m : Option Modifier} (h : modifier? c = .ok (m, c')) :
    ∀ n ∈ m.toList.flatMap Modifier.numerals, n.InBounds := by
  unfold modifier? at h
  split at h
  case h_1 => exact valued_inBounds (fun _ => rfl) h
  case h_2 => exact valued_inBounds (fun _ => rfl) h
  case h_3 => exact valued_inBounds (fun _ => rfl) h
  case h_4 => exact explosion_inBounds h
  case h_5 => exact explosion_inBounds h
  case h_6 =>
    cases h
    simp

theorem modifiersWithin_inBounds {room : Nat} {c c' : Cursor} {ms : List Modifier}
    (h : modifiersWithin room c = .ok (ms, c')) : ∀ n ∈ ms.flatMap Modifier.numerals, n.InBounds := by
  induction room generalizing c ms with
  | zero =>
    cases h
    simp
  | succ room ih =>
    obtain ⟨⟨m, c₁⟩, hm, h⟩ := exists_of_bind_eq_ok h
    cases m with
    | none =>
      cases h
      simp
    | some m =>
      obtain ⟨⟨ms', c₂⟩, hms, h⟩ := exists_of_bind_eq_ok h
      cases h
      rw [List.flatMap_cons]
      exact List.forall_mem_append.mpr ⟨by simpa using modifier?_inBounds hm, ih hms⟩

/-! ### Terms -/

theorem kind_inBounds {c c' : Cursor} {k : WrittenKind} (h : kind c = .ok (k, c')) : ∀ n ∈ k.numerals, n.InBounds := by
  unfold kind at h
  split at h
  case h_1 =>
    cases h
    simp [WrittenKind.numerals]
  case h_2 =>
    cases h
    simp [WrittenKind.numerals]
  case h_3 =>
    split at h
    · obtain ⟨⟨sides, c₁⟩, hsides, h⟩ := exists_of_bind_eq_ok h
      obtain ⟨⟨ms, c₂⟩, hms, h⟩ := exists_of_bind_eq_ok h
      cases h
      exact List.forall_mem_cons.mpr ⟨numeral_inBounds hsides, modifiersWithin_inBounds hms⟩
    · cases h

theorem term_fits {c c' : Cursor} {f : Formula} (h : term c = .ok (f, c')) (room : Nat) : Fits room f := by
  unfold term at h
  obtain ⟨⟨count, c₁⟩, hcount, h⟩ := exists_of_bind_eq_ok h
  have hn := numeral?_inBounds hcount
  dsimp only at h
  split at h
  · obtain ⟨⟨k, c₂⟩, hk, h⟩ := exists_of_bind_eq_ok h
    cases h
    exact ⟨List.forall_mem_append.mpr ⟨hn, kind_inBounds hk⟩, Nat.zero_le _⟩
  · cases count with
    | none => cases h
    | some n =>
      cases h
      exact ⟨hn, Nat.zero_le _⟩

/-! ### Operators and groups -/

def Fitting (room : Nat) (read : Cursor → Reading Formula) : Prop :=
  ∀ ⦃c c' : Cursor⦄ ⦃f : Formula⦄, read c = .ok (f, c') → Fits room f

private theorem joinWithin_fits {room : Nat} {symbol? : Char → Option Symbol} {operand : Cursor → Reading Formula}
    (hoperand : Fitting room operand) {steps : Nat} {left f : Formula} {c c' : Cursor} (hleft : Fits room left)
    (h : joinWithin symbol? operand steps left c = .ok (f, c')) : Fits room f := by
  induction steps generalizing left c with
  | zero =>
    cases h
    exact hleft
  | succ steps ih =>
    unfold joinWithin at h
    split at h
    · cases h
      exact hleft
    · split at h
      · cases h
      · rename_i hright
        exact ih (fits_binary.mpr ⟨hleft, hoperand hright⟩) h

private theorem chain_fitting {room : Nat} {symbol? : Char → Option Symbol} {operand : Cursor → Reading Formula}
    (hoperand : Fitting room operand) : Fitting room (chain symbol? operand) := by
  intro c c' f h
  unfold chain at h
  split at h
  · cases h
  · rename_i hfirst
    exact joinWithin_fits hoperand (hoperand hfirst) h

private theorem factor_fitting {room : Nat} (h : ∀ read ∈ inner room, Fitting (room - 1) read) :
    Fitting room (factor (inner room)) := by
  intro c c' f hread
  unfold factor at hread
  split at hread
  · cases room with
    | zero => cases hread
    | succ room =>
      simp only [inner] at hread
      split at hread
      · cases hread
      · rename_i hinside
        split at hread
        · cases hread
          exact fits_group.mpr (h _ rfl hinside)
        · cases hread
  · cases hterm : term c with
    | error fault =>
      rw [hterm] at hread
      cases hread
    | ok r =>
      rw [hterm] at hread
      cases hread
      exact term_fits hterm room

theorem readPart_fits (room : Nat) (k : Nonterminal) : Fitting room (readPart room k) :=
  readPart_induction (P := fun room _ read => Fitting room read) (fun _ hinner => factor_fitting hinner)
    (fun _ hfactor => chain_fitting hfactor) (fun _ hproduct => chain_fitting hproduct) room k

end Tabletop.Formula
