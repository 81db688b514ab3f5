import Tabletop.Proofs.Formula.Canonical
import Mathlib.Data.List.Forall2

/-!
# The canonical form is a fixed point

What an outcome says of its formula is the text of the canonical tree, up to the capital letter of Fudge dice
(`evaluate_expression`, `lowers_rendered`).  Its normal form is therefore a formula again, with the canonical tree, and to roll
what an outcome says is to roll the text that it came from (`roll_expression`).
-/

namespace Tabletop.Formula

/-! ### What an outcome says -/

/-- The expression of every outcome of a formula. -/
def rendered : Formula → String
  | literal negative n => toString (literalValue negative n)
  | dice d => d.term.text
  | group inner => "(" ++ rendered inner ++ ")"
  | binary symbol left right => rendered left ++ symbol.operator.symbol ++ rendered right

theorem throwAll_expression {σ : Type} [RandomSource σ] (t : DiceTerm) (s : σ) :
    (t.throwAll.run s).1.expression = t.text := by
  unfold DiceTerm.throwAll
  split <;> rfl

private theorem combine_expression {op : Operator} {left right o : Outcome} (h : Outcome.combine op left right = .ok o) :
    o.expression = left.expression ++ op.symbol ++ right.expression := by
  unfold Outcome.combine at h
  obtain ⟨u, -, h⟩ := exists_of_bind_eq_ok h
  cases h
  rfl

theorem evaluate_expression {σ : Type} [RandomSource σ] {f : Formula} {s s' : σ} {o : Outcome}
    (h : f.evaluate.run.run s = (Except.ok o, s')) : o.expression = f.rendered := by
  induction f generalizing s s' o with
  | literal negative n =>
    obtain ⟨rfl, -⟩ := Roller.pure_eq_ok.mp h
    rfl
  | dice d =>
    obtain ⟨-, hthrow⟩ := DiceTerm.roll_eq_ok_iff.mp h
    have hexpression := throwAll_expression d.term s
    rw [hthrow] at hexpression
    exact hexpression
  | group inner ih =>
    obtain ⟨o₁, s₁, hinner, h⟩ := Roller.bind_eq_ok.mp h
    obtain ⟨rfl, -⟩ := Roller.pure_eq_ok.mp h
    have hinner := ih hinner
    show "(" ++ o₁.expression ++ ")" = _
    rw [hinner]
    rfl
  | binary symbol left right ihl ihr =>
    obtain ⟨a, s₁, hleft, h⟩ := Roller.bind_eq_ok.mp h
    obtain ⟨b, s₂, hright, h⟩ := Roller.bind_eq_ok.mp h
    obtain ⟨hcombine, -⟩ := Roller.liftM_eq_ok.mp h
    rw [combine_expression hcombine, ihl hleft, ihr hright]
    rfl

/-! ### Its normal form -/

/-- Wherever `c` stands in a text, `d` stands in its normal form. -/
def Lowers (c d : Char) : Prop :=
  Text.lowerChar c = d ∧ c ≠ 'İ' ∧ c ≠ 'Σ' ∧ Text.isBlank d = false

instance (c d : Char) : Decidable (Lowers c d) := inferInstanceAs (Decidable (_ ∧ _))

private theorem filter_lowercaseAfter {s t : List Char} (h : List.Forall₂ Lowers s t) (before : List Char) :
    (Text.lowercaseAfter before s).filter (fun c => !Text.isBlank c) = t := by
  induction h generalizing before with
  | nil => rfl
  | @cons c d s t hc _ ih =>
    obtain ⟨hlower, hdotted, hsigma, hshown⟩ := hc
    have hfirst : Text.lowerBetween before c s = [d] := by
      unfold Text.lowerBetween
      rw [if_neg hdotted, if_neg hsigma, hlower]
    unfold Text.lowercaseAfter
    rw [hfirst, List.filter_append, ih, List.filter_cons_of_pos (by simp [hshown])]
    rfl

theorem normalize_of_lowers {s : String} {t : List Char} (h : List.Forall₂ Lowers s.toList t) : normalize s = t :=
  filter_lowercaseAfter h []

theorem normalize_eq_self {s : List Char} (h : ∀ c ∈ s, Lowers c c) : normalize (String.ofList s) = s := by
  apply normalize_of_lowers
  rw [String.toList_ofList]
  exact List.forall₂_same.mpr h

/-- The characters of canonical texts that are their own lower case. -/
def smallChars : List Char := "0123456789dkre!%+-*()".toList

theorem lowers_self {c : Char} (h : c ∈ smallChars) : Lowers c c := by
  have hall : (smallChars.all fun c => decide (Lowers c c)) = true := by decide +kernel
  exact of_decide_eq_true (List.all_eq_true.mp hall c h)

private theorem mem_smallChars_of_isDigit {c : Char} (h : c.isDigit) : c ∈ smallChars := by
  have hbounds : 48 ≤ c.toNat ∧ c.toNat ≤ 57 := by
    simpa [Char.isDigit, UInt32.le_iff_toNat_le] using h
  have hall : ∀ n ∈ List.range' 48 10, Char.ofNat n ∈ smallChars := by decide
  rw [← Char.ofNat_toNat c]
  exact hall c.toNat (List.mem_range'_1.mpr (by omega))

theorem lowers_small {s : List Char} (h : s ⊆ smallChars) : List.Forall₂ Lowers s s :=
  List.forall₂_same.mpr fun _ hc => lowers_self (h hc)

theorem lowers_append {s s' t t' : List Char} (h : List.Forall₂ Lowers s t) (h' : List.Forall₂ Lowers s' t') :
    List.Forall₂ Lowers (s ++ s') (t ++ t') :=
  List.rel_append h h'

theorem digits_subset_smallChars {n : Numeral} (hn : n.IsNumber) : n.digits ⊆ smallChars :=
  fun _ hc => mem_smallChars_of_isDigit (hn.2 _ hc)

/-! ### Every outcome lowers to its canonical text -/

theorem modifier_subset_smallChars {x : Modifier} (hx : ∀ n ∈ x.numerals, n.IsNumber) : x.text ⊆ smallChars := by
  cases x with
  | keep n => exact List.cons_subset.mpr ⟨by decide, digits_subset_smallChars (hx n (by simp [Modifier.numerals]))⟩
  | drop n => exact List.cons_subset.mpr ⟨by decide, digits_subset_smallChars (hx n (by simp [Modifier.numerals]))⟩
  | explode mark n =>
    have hmark : mark.char ∈ smallChars := by cases mark <;> decide
    cases n with
    | none => exact List.cons_subset.mpr ⟨hmark, List.nil_subset _⟩
    | some n => exact List.cons_subset.mpr ⟨hmark, digits_subset_smallChars (hx n (by simp [Modifier.numerals]))⟩
  | reroll n => exact List.cons_subset.mpr ⟨by decide, digits_subset_smallChars (hx n (by simp [Modifier.numerals]))⟩

private theorem row_subset_smallChars (m : Modifiers) : m.row.flatMap Modifier.text ⊆ smallChars := by
  intro c hc
  obtain ⟨x, hx, hc⟩ := List.mem_flatMap.mp hc
  refine modifier_subset_smallChars (fun n hn => ?_) hc
  obtain ⟨k, -, rfl⟩ := Modifiers.mem_numerals_row (List.mem_flatMap.mpr ⟨x, hx, hn⟩)
  exact Numeral.isNumber_ofNat _

private theorem signText_subset_smallChars (negative : Bool) : signText negative ⊆ smallChars := by
  cases negative with
  | false => exact List.nil_subset _
  | true => decide

private theorem lowers_number (n : Nat) : List.Forall₂ Lowers (toString (n : Int)).toList (Numeral.ofNat n).digits := by
  rw [Text.toList_toString_natCast]
  exact lowers_small (digits_subset_smallChars (Numeral.isNumber_ofNat n))

private theorem lowers_literal (negative : Bool) (n : Numeral) :
    List.Forall₂ Lowers (toString (literalValue negative n)).toList
      (signText (negative && n.value != 0) ++ (Numeral.ofNat n.value).digits) := by
  unfold literalValue
  cases negative with
  | false => exact lowers_number n.value
  | true =>
    cases hn : n.value with
    | zero => exact lowers_number 0
    | succ k =>
      have htext : (toString (if true = true then -((k + 1 : Nat) : Int) else ((k + 1 : Nat) : Int))).toList =
          '-' :: Nat.toDigits 10 (k + 1) := Text.toList_toString_negSucc k
      rw [htext]
      exact lowers_append (s := ['-']) (lowers_small (signText_subset_smallChars true))
        (lowers_small (digits_subset_smallChars (Numeral.isNumber_ofNat (k + 1))))

private theorem lowers_kind (k : WrittenKind) : List.Forall₂ Lowers k.kind.text.toList k.canonical.text := by
  cases k with
  | percentile => exact lowers_small (s := ['%']) (by decide)
  | fudge => exact .cons (by decide +kernel) .nil
  | sided sides modifiers =>
    show List.Forall₂ Lowers (toString (sides.value : Int) ++ (Modifier.merge modifiers).text).toList _
    rw [String.toList_append, ← Modifiers.text_row (Modifier.isWritten_merge modifiers)]
    exact lowers_append (lowers_number sides.value) (lowers_small (row_subset_smallChars _))

private theorem lowers_dice (d : WrittenDice) : List.Forall₂ Lowers d.term.text.toList d.canonical.text := by
  have hsign : (if d.term.negative then "-" else "").toList = signText d.negative := by
    show (if d.negative then "-" else "").toList = _
    cases d.negative with
    | false => rfl
    | true => rfl
  unfold DiceTerm.text WrittenDice.text
  simp only [String.toList_append, List.append_assoc]
  rw [hsign]
  refine lowers_append (lowers_small (signText_subset_smallChars _)) ?_
  refine lowers_append (lowers_number _) ?_
  exact lowers_append (s := ['d']) (lowers_small (by decide)) (lowers_kind d.kind)

/-- Written in lower case, what the outcomes of a formula say is its canonical text. -/
theorem lowers_rendered (f : Formula) : List.Forall₂ Lowers f.rendered.toList f.canonical.text := by
  induction f with
  | literal negative n => exact lowers_literal negative n
  | dice d => exact lowers_dice d
  | group inner ih =>
    unfold rendered canonical text
    simp only [String.toList_append]
    refine lowers_append (lowers_append (s := ['(']) (lowers_small (by decide)) ih) ?_
    exact lowers_small (s := [')']) (by decide)
  | binary symbol left right ihl ihr =>
    have hsymbol : symbol.operator.symbol.toList = [symbol.canonical.char] := by cases symbol <;> rfl
    have hsmall : [symbol.canonical.char] ⊆ smallChars := by cases symbol <;> decide
    unfold rendered canonical text
    simp only [String.toList_append, List.append_assoc]
    rw [hsymbol]
    exact lowers_append ihl (lowers_append (lowers_small hsmall) ihr)

theorem normalize_rendered (f : Formula) : normalize f.rendered = f.canonical.text :=
  normalize_of_lowers (lowers_rendered f)

theorem read_rendered {text : List Char} {f : Formula} (h : read text = .ok f) (hlength : f.rendered.length ≤ maxLength) :
    read (normalize f.rendered) = .ok f.canonical := by
  obtain ⟨-, hf, hfits⟩ := read_eq_ok_iff.mp h
  rw [normalize_rendered]
  refine read_eq_ok_iff.mpr ⟨?_, hf.canonical, hfits.canonical⟩
  rw [← (lowers_rendered f).length_eq, String.length_toList]
  exact hlength

/-! ### Rolling what an outcome says -/

/-- What an outcome says rolls to this outcome again, from the same source with the same draws, and is for every other
source, too, as good as the text that was rolled. -/
theorem roll_expression {σ : Type} [RandomSource σ] {text : String} {source source' : σ} {o : Outcome}
    (h : (roll text).run.run source = (Except.ok o, source')) (hlength : o.expression.length ≤ maxLength) :
    (roll o.expression).run.run source = (Except.ok o, source') ∧
      ∀ (τ : Type) [RandomSource τ], (roll o.expression : Roller τ Outcome) = roll text := by
  obtain ⟨f, hread⟩ := read_of_roll h
  have hf : (roll text : Roller σ Outcome) = f.evaluate := roll_of_read hread
  rw [hf] at h
  have hexpression := evaluate_expression h
  rw [hexpression] at hlength ⊢
  have hsame : ∀ (τ : Type) [RandomSource τ], (roll f.rendered : Roller τ Outcome) = roll text := by
    intro τ _
    rw [roll_of_read (read_rendered hread hlength), roll_of_read hread, evaluate_canonical]
  refine ⟨?_, hsame⟩
  rw [hsame σ, hf]
  exact h

/-- Zeros in front, modifiers out of order and twice, no count, Fudge and percentile dice, a sign before a zero. -/
private def untidy : String := "-02D6R1!3! × (dF - 2d%) + -0*d4"

private def tidy : Outcome :=
  { total := 689
    rolls := [6, 2, 1, 5, -1, 40, 12, 3]
    expression := "-2d6e3r1*(1dF-2d%)+0*1d4"
    breakdown := "([8, 5] = -13) * ([-] = -1 - [40, 12] = 52 = -53) = 689 + (0) * ([3] = 3) = 0 = 689" }

private theorem roll_untidy :
    (roll untidy).run.run (Script.ofFaces tidy.rolls) = (Except.ok tidy, ⟨tidy.rolls, []⟩) := by
  show @Eq (Except Fault Outcome × Script) _ _
  decide +kernel

theorem roll_expression_untidy :
    (roll untidy).run.run (Script.ofFaces tidy.rolls) = (Except.ok tidy, ⟨tidy.rolls, []⟩) ∧
      tidy.expression.length ≤ maxLength ∧
      (roll tidy.expression).run.run (Script.ofFaces tidy.rolls) = (Except.ok tidy, ⟨tidy.rolls, []⟩) ∧
      ∀ (τ : Type) [RandomSource τ], (roll tidy.expression : Roller τ Outcome) = roll untidy := by
  have hlength : tidy.expression.length ≤ maxLength := by decide +kernel
  exact ⟨roll_untidy, hlength, roll_expression roll_untidy hlength⟩

end Tabletop.Formula
