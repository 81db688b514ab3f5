import Tabletop.Text.Numeral

/-!
# Numbers that are written and read again

A whole number of at most `maxDigits` digits is what its decimal text is read as (`readInteger_toString`).
-/

namespace Tabletop.Text

/-! ### One digit -/

theorem digitValue?_of_isDigit {c : Char} (h : c.isDigit) : digitValue? c = some (c.toNat - 48) := by
  have hbounds : 48 ≤ c.toNat ∧ c.toNat ≤ 57 := by
    simpa [Char.isDigit, UInt32.le_iff_toNat_le] using h
  unfold digitValue? decimalZeros
  rw [List.find?_cons_of_pos (by simpa using hbounds)]
  rfl

theorem isDecimalDigit_of_isDigit {c : Char} (h : c.isDigit) : isDecimalDigit c = true := by
  unfold isDecimalDigit
  rw [digitValue?_of_isDigit h]
  rfl

private theorem not_isWhiteSpace_of_isDigit {c : Char} (h : c.isDigit) : isWhiteSpace c = false := by
  have hbounds : 48 ≤ c.toNat ∧ c.toNat ≤ 57 := by
    simpa [Char.isDigit, UInt32.le_iff_toNat_le] using h
  simp only [isWhiteSpace, Bool.or_eq_false_iff, decide_eq_false_iff_not, beq_eq_false_iff_ne]
  omega

/-! ### Rows of digits -/

theorem toList_toString_natCast (n : Nat) : (toString (n : Int)).toList = Nat.toDigits 10 n :=
  Nat.toList_repr

theorem toList_toString_negSucc (n : Nat) :
    (toString (Int.negSucc n)).toList = '-' :: Nat.toDigits 10 (n + 1) := by
  show ("-" ++ Nat.repr (n + 1)).toList = _
  rw [String.toList_append, Nat.toList_repr]
  rfl

private theorem isDigit_of_mem {n : Nat} {c : Char} (h : c ∈ Nat.toDigits 10 n) : c.isDigit :=
  Nat.isDigit_of_mem_toDigits (by decide) (by decide) h

theorem isDigit_or_eq_minus_of_mem_toString {n : Int} {c : Char} (h : c ∈ (toString n).toList) :
    c.isDigit ∨ c = '-' := by
  cases n with
  | ofNat m =>
    rw [Int.ofNat_eq_natCast, toList_toString_natCast] at h
    exact .inl (isDigit_of_mem h)
  | negSucc m =>
    rw [toList_toString_negSucc] at h
    rcases List.mem_cons.mp h with rfl | h
    · exact .inr rfl
    · exact .inl (isDigit_of_mem h)

theorem not_mem_toString {c : Char} (hdigit : c.isDigit = false) (hminus : c ≠ '-') (n : Int) :
    c ∉ (toString n).toList := by
  intro hmem
  rcases isDigit_or_eq_minus_of_mem_toString hmem with h | h
  · exact absurd h (Bool.eq_false_iff.mp hdigit)
  · exact hminus h

/-- The digits of a number are all that is written but its sign. -/
theorem countP_isDigit_toString (n : Int) :
    (toString n).toList.countP Char.isDigit = (Nat.toDigits 10 n.natAbs).length := by
  have hdigits : ∀ m : Nat, (Nat.toDigits 10 m).countP Char.isDigit = (Nat.toDigits 10 m).length :=
    fun m => List.countP_eq_length.mpr fun c => isDigit_of_mem
  cases n with
  | ofNat m =>
    rw [Int.ofNat_eq_natCast, toList_toString_natCast]
    exact hdigits m
  | negSucc m =>
    rw [toList_toString_negSucc, List.countP_cons_of_neg (by decide)]
    exact hdigits (m + 1)

theorem digitsValue_toDigits (n : Nat) : digitsValue (Nat.toDigits 10 n) = n := by
  have hfold : ∀ (cs : List Char) (m : Nat), (∀ c ∈ cs, c.isDigit) →
      cs.foldl (fun n c => 10 * n + (digitValue? c).getD 0) m = Nat.ofDigitChars 10 cs m := by
    intro cs
    induction cs with
    | nil => intro m _; rfl
    | cons c rest ih =>
      intro m hcs
      rw [List.foldl_cons, digitValue?_of_isDigit (hcs c List.mem_cons_self),
        ih _ fun d hd => hcs d (List.mem_cons_of_mem c hd)]
      rfl
  unfold digitsValue
  rw [hfold _ _ fun c => isDigit_of_mem, Nat.ofDigitChars_ten_toDigits]

/-- A number is known by its text, however long it is. -/
theorem toString_injective {n m : Int} (h : toString n = toString m) : n = m := by
  have hlist := congrArg String.toList h
  have hvalue : ∀ {a b : Nat}, Nat.toDigits 10 a = Nat.toDigits 10 b → a = b := by
    intro a b hab
    rw [← digitsValue_toDigits a, hab, digitsValue_toDigits]
  have hsign : ∀ {a b : Nat}, Nat.toDigits 10 a ≠ '-' :: Nat.toDigits 10 b := by
    intro a b hab
    have hminus : '-' ∈ Nat.toDigits 10 a := by
      rw [hab]
      exact List.mem_cons_self
    cases isDigit_of_mem hminus
  cases n with
  | ofNat a =>
    rw [Int.ofNat_eq_natCast, toList_toString_natCast] at hlist
    cases m with
    | ofNat b =>
      rw [Int.ofNat_eq_natCast, toList_toString_natCast] at hlist
      exact congrArg Int.ofNat (hvalue hlist)
    | negSucc b =>
      rw [toList_toString_negSucc] at hlist
      exact absurd hlist hsign
  | negSucc a =>
    rw [toList_toString_negSucc] at hlist
    cases m with
    | ofNat b =>
      rw [Int.ofNat_eq_natCast, toList_toString_natCast] at hlist
      exact absurd hlist.symm hsign
    | negSucc b =>
      rw [toList_toString_negSucc] at hlist
      exact congrArg Int.negSucc (Nat.succ.inj (hvalue (List.cons.inj hlist).2))

private theorem readInteger_of_split {text : String} (sign : Sign) (n : Nat)
    (h : splitSign (text.toList.dropWhile isWhiteSpace) = (sign, Nat.toDigits 10 n)) :
    readInteger text =
      if maxDigits < (Nat.toDigits 10 n).length then .error (.tooManyDigits (Nat.toDigits 10 n).length)
      else .ok (sign.apply n) := by
  have hnumeral : ∀ c ∈ Nat.toDigits 10 n, (isDecimalDigit c || c == '_') = true := by
    intro c hc
    rw [isDecimalDigit_of_isDigit (isDigit_of_mem hc), Bool.true_or]
  have htake : (Nat.toDigits 10 n).takeWhile (fun c => isDecimalDigit c || c == '_') = Nat.toDigits 10 n := by
    rw [← List.append_nil (Nat.toDigits 10 n), List.takeWhile_append_of_pos hnumeral, List.takeWhile_nil]
  have hdrop : (Nat.toDigits 10 n).dropWhile (fun c => isDecimalDigit c || c == '_') = [] := by
    rw [← List.append_nil (Nat.toDigits 10 n), List.dropWhile_append_of_pos hnumeral, List.dropWhile_nil]
  have hsplit : (Nat.toDigits 10 n).splitOn '_' = [Nat.toDigits 10 n] :=
    List.splitOn_eq_singleton Nat.underscore_not_in_toDigits
  unfold readInteger
  simp only [h, htake, hdrop, hsplit, List.flatten_singleton]
  rw [if_neg (by simp [Nat.toDigits_ne_nil]), digitsValue_toDigits]
  rfl

private theorem splitSign_toDigits (n : Nat) : splitSign (Nat.toDigits 10 n) = (.plus, Nat.toDigits 10 n) := by
  cases hdigits : Nat.toDigits 10 n with
  | nil => exact absurd hdigits Nat.toDigits_ne_nil
  | cons c rest =>
    have hc : c.isDigit := isDigit_of_mem (n := n) (by rw [hdigits]; exact List.mem_cons_self)
    unfold splitSign
    split
    · rename_i heq
      cases heq
      exact absurd hc (by decide)
    · rename_i heq
      cases heq
      exact absurd hc (by decide)
    · rfl

private theorem dropWhile_toDigits (n : Nat) :
    (Nat.toDigits 10 n).dropWhile isWhiteSpace = Nat.toDigits 10 n := by
  cases hdigits : Nat.toDigits 10 n with
  | nil => rfl
  | cons c rest =>
    have hc : c.isDigit := isDigit_of_mem (n := n) (by rw [hdigits]; exact List.mem_cons_self)
    rw [List.dropWhile_cons_of_neg (by simp [not_isWhiteSpace_of_isDigit hc])]

/-- A number is read again from its text unless the text has too many digits. -/
theorem readInteger_toString_eq (n : Int) :
    readInteger (toString n) =
      if maxDigits < (Nat.toDigits 10 n.natAbs).length then
        .error (.tooManyDigits (Nat.toDigits 10 n.natAbs).length)
      else .ok n := by
  cases n with
  | ofNat m =>
    refine readInteger_of_split .plus m ?_
    rw [Int.ofNat_eq_natCast, toList_toString_natCast, dropWhile_toDigits, splitSign_toDigits]
  | negSucc m =>
    refine readInteger_of_split .minus (m + 1) ?_
    -- The sign is no white space, so nothing is skipped before it.
    rw [toList_toString_negSucc, List.dropWhile_cons_of_neg (by decide)]
    rfl

/-- What is written with at most `maxDigits` digits is read again as it was. -/
theorem readInteger_toString {n : Int} (h : (Nat.toDigits 10 n.natAbs).length ≤ maxDigits) :
    readInteger (toString n) = .ok n := by
  rw [readInteger_toString_eq, if_neg (Nat.not_lt.mpr h)]

theorem length_le_of_readInteger_toString {n m : Int} (h : readInteger (toString n) = .ok m) :
    (Nat.toDigits 10 n.natAbs).length ≤ maxDigits := by
  rw [readInteger_toString_eq] at h
  split at h
  · cases h
  · rename_i hlength
    exact Nat.not_lt.mp hlength

end Tabletop.Text
