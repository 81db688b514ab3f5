import Tabletop.Proofs.Formula.Occurrences
import Tabletop.Proofs.Formula.Offence
import Mathlib.Logic.Relation

/-!
# Formulas in other spellings

Zeros in front of numbers, another sign of multiplication, a count of one that is written out, another mark for exploding dice
and another order of modifiers of different kinds are edits of the text (`Respelling`).  None of them changes how the rest of
the text is read (`Derives.respelled`), so a formula and all its spellings are rolled alike (`roll_respelled`).
-/

namespace Tabletop.Formula

open Modifier (SameRow)

/-- One change of the spelling, anywhere in a text. -/
inductive Respelling : List Char → List Char → Prop
  /-- A zero before the first digit of a number. -/
  | zero (before after : List Char) {d : Char} (hd : d.isDigit) (hbefore : ¬EndsInDigit before) :
      Respelling (before ++ d :: after) (before ++ '0' :: d :: after)
  | times (before after : List Char) {c c' : Char} (hc : c ∈ ['*', '×', '·']) (hc' : c' ∈ ['*', '×', '·']) :
      Respelling (before ++ c :: after) (before ++ c' :: after)
  /-- The count of a dice term that begins with its letter. -/
  | count (before after : List Char) (hbefore : ∀ c ∈ before.getLast?, c ∈ ['(', '+', '-', '*', '×', '·']) :
      Respelling (before ++ 'd' :: after) (before ++ '1' :: 'd' :: after)
  | mark (before after : List Char) {c c' : Char} (hc : c ∈ ['!', 'e']) (hc' : c' ∈ ['!', 'e']) :
      Respelling (before ++ c :: after) (before ++ c' :: after)
  /-- Modifiers behind the sides change places, but not with others of their kind. -/
  | permute (before after : List Char) {sides : Numeral} {row other : List Modifier} (hsides : sides.IsNumber)
      (hrow : ∀ n ∈ row.flatMap Modifier.numerals, n.IsNumber) (hafter : NoDigit after) (hperm : row.Perm other)
      (hkinds : ∀ k, (other.filter fun x => decide (x.kind = k)) = row.filter fun x => decide (x.kind = k)) :
      Respelling (before ++ 'd' :: (sides.digits ++ row.flatMap Modifier.text) ++ after)
        (before ++ 'd' :: (sides.digits ++ other.flatMap Modifier.text) ++ after)

/-! ### Kinds of dice -/

/-- The same kind of dice, with the same modifiers. -/
structure RespellsKind (k k' : WrittenKind) : Prop where
  isNumber : (∀ n ∈ k.numerals, n.IsNumber) → ∀ n ∈ k'.numerals, n.IsNumber
  respells : ∀ negative count, Respells (.dice ⟨negative, count, k⟩) (.dice ⟨negative, count, k'⟩)

theorem RespellsKind.sided {sides sides' : Numeral} {row other : List Modifier} (hsides : sides.Pads sides')
    (hrow : SameRow row other) : RespellsKind (.sided sides row) (.sided sides' other) := by
  refine ⟨fun h => ?_, fun negative count => .sided negative count hsides hrow⟩
  obtain ⟨hnumber, hnumbers⟩ := List.forall_mem_cons.mp h
  exact List.forall_mem_cons.mpr ⟨hsides.2 hnumber, hrow.isNumber hnumbers⟩

theorem RespellsKind.spells {d : WrittenDice} {k' : WrittenKind} (h : RespellsKind d.kind k')
    (hd : ∀ n ∈ d.numerals, n.IsNumber) {text : List Char} (htext : 'd' :: k'.text = text) :
    Spells .factor (signText d.negative ++ d.countText ++ text) (.dice d) := by
  obtain ⟨hcount, hkind⟩ := List.forall_mem_append.mp hd
  have hnumbers : ∀ n ∈ (⟨d.negative, d.count, k'⟩ : WrittenDice).numerals, n.IsNumber :=
    List.forall_mem_append.mpr ⟨hcount, h.isNumber hkind⟩
  rw [← htext]
  exact ⟨.dice ⟨d.negative, d.count, k'⟩, .dice hnumbers, h.respells d.negative d.count⟩

/-- The same dice term with its count in other digits, or with a count of one where none was written. -/
theorem Spells.of_count {negative : Bool} {count : Option Numeral} {kind : WrittenKind} {n : Numeral} (hn : n.IsNumber)
    (hkind : ∀ p ∈ kind.numerals, p.IsNumber) (hvalue : n.value = (count.map Numeral.value).getD 1) :
    Spells .factor (signText negative ++ n.digits ++ 'd' :: kind.text) (.dice ⟨negative, count, kind⟩) := by
  have hnumbers : ∀ p ∈ (⟨negative, some n, kind⟩ : WrittenDice).numerals, p.IsNumber :=
    List.forall_mem_append.mpr ⟨by simpa using hn, hkind⟩
  exact ⟨.dice ⟨negative, some n, kind⟩, .dice hnumbers, .count negative kind hvalue⟩

/-- A modifier, or the sides themselves, in another spelling. -/
theorem exists_kind_of_modifier {sides : Numeral} {row before after : List Modifier} {m m' : Modifier}
    (h : Modifier.drop sides :: row = before ++ m :: after) (hkind : m'.kind = m.kind) (hsame : SameRow [m] [m']) :
    ∃ k', 'd' :: k'.text = (before ++ m' :: after).flatMap Modifier.text ∧ RespellsKind (.sided sides row) k' := by
  cases before with
  | nil =>
    obtain ⟨rfl, rfl⟩ := List.cons.inj h
    cases m' with
    | drop sides' =>
      obtain ⟨n, hn, hpads⟩ := hsame.numerals sides' (by simp [Modifier.numerals])
      obtain rfl : n = sides := by simpa [Modifier.numerals] using hn
      exact ⟨.sided sides' row, rfl, .sided hpads (.refl row)⟩
    | _ => cases hkind
  | cons e before =>
    obtain ⟨rfl, rfl⟩ := List.cons.inj h
    refine ⟨.sided sides (before ++ m' :: after), rfl, .sided (.refl sides) ?_⟩
    have hwithin := hsame.within before after
    simpa using hwithin

/-- Modifiers that stand behind a modifier, or behind the sides, in another order. -/
theorem exists_kind_of_row {sides n : Numeral} {all before row other after : List Modifier}
    (h : Modifier.drop sides :: all = before ++ .drop n :: row ++ after) (hsame : SameRow row other) :
    ∃ k', 'd' :: k'.text = (before ++ .drop n :: other ++ after).flatMap Modifier.text ∧
      RespellsKind (.sided sides all) k' := by
  cases before with
  | nil =>
    obtain ⟨hn, rfl⟩ := List.cons.inj h
    obtain rfl : sides = n := Modifier.drop.inj hn
    exact ⟨.sided sides (other ++ after), rfl, .sided (.refl sides) (hsame.append (.refl after))⟩
  | cons e before =>
    obtain ⟨rfl, rfl⟩ := List.cons.inj h
    refine ⟨.sided sides (before ++ .drop n :: other ++ after), rfl, .sided (.refl sides) ?_⟩
    have hwithin := hsame.within (before ++ [.drop n]) after
    simpa using hwithin

/-! ### Zeros -/

/-- A modifier with a zero before its number. -/
def padded : Modifier → Modifier
  | .keep n => .keep ⟨'0' :: n.digits⟩
  | .drop n => .drop ⟨'0' :: n.digits⟩
  | .explode mark n => .explode mark (n.map fun n => ⟨'0' :: n.digits⟩)
  | .reroll n => .reroll ⟨'0' :: n.digits⟩

theorem sameRow_padded (m : Modifier) : SameRow [m] [padded m] := by
  have hpads : ∀ n : Numeral, n.Pads ⟨'0' :: n.digits⟩ := Numeral.pads_zero
  cases m with
  | explode mark n =>
    cases n with
    | none => exact .refl _
    | some n => exact ⟨fun m => rfl, by simpa [padded, Modifier.numerals] using hpads n⟩
  | keep n => exact ⟨fun m => rfl, by simpa [padded, Modifier.numerals] using hpads n⟩
  | drop n => exact ⟨fun m => rfl, by simpa [padded, Modifier.numerals] using hpads n⟩
  | reroll n => exact ⟨fun m => rfl, by simpa [padded, Modifier.numerals] using hpads n⟩

theorem kind_padded (m : Modifier) : (padded m).kind = m.kind := by
  cases m <;> rfl

theorem letter_padded (m : Modifier) : (padded m).letter = m.letter := by
  cases m <;> rfl

theorem digits_padded {m : Modifier} (h : m.digits ≠ []) : (padded m).digits = '0' :: m.digits := by
  cases m with
  | explode mark n =>
    cases n with
    | none => exact absurd rfl h
    | some n => rfl
  | _ => rfl

/-- Dice with a digit have sides. -/
theorem exists_sided_of_digit {k : WrittenKind} {d : Char} (hd : d.isDigit) (h : d ∈ 'd' :: k.text) :
    ∃ sides row, k = .sided sides row := by
  have hall : (['d', '%', 'f'].all fun c => !c.isDigit) = true := by decide
  refine exists_sided h fun hletter => ?_
  have hno := List.all_eq_true.mp hall d hletter
  simp [hd] at hno

theorem exists_kind_of_digit {k : WrittenKind} (hk : ∀ n ∈ k.numerals, n.IsNumber) {a b : List Char} {d : Char}
    (hd : d.isDigit) (ha : ¬EndsInDigit a) (h : 'd' :: k.text = a ++ d :: b) :
    ∃ k', 'd' :: k'.text = a ++ '0' :: d :: b ∧ RespellsKind k k' := by
  obtain ⟨sides, row, rfl⟩ := exists_sided_of_digit hd (by rw [h]; simp)
  rw [text_sided] at h
  rw [numerals_sided] at hk
  obtain ⟨before, m, after, ds, hrow, rfl, hdigits, rfl⟩ := Modifier.exists_of_digit hk hd ha h
  obtain ⟨k', htext, hrespells⟩ := exists_kind_of_modifier hrow (kind_padded m) (sameRow_padded m)
  refine ⟨k', ?_, hrespells⟩
  have hpadded : (padded m).digits = '0' :: d :: ds := by
    rw [digits_padded (by simp [hdigits]), hdigits]
  rw [htext, List.flatMap_append, Modifier.flatMap_text_cons, letter_padded, hpadded]
  simp

theorem not_endsInDigit_of_suffix {s t : List Char} (ht : ¬EndsInDigit t) (hst : s <:+ t) : ¬EndsInDigit s :=
  fun hs => ht (hs.of_suffix hst)

/-- Before its first digit a number has nothing. -/
theorem eq_nil_of_digits {n : Numeral} (hn : n.IsNumber) {p q : List Char} (hp : ¬EndsInDigit p)
    (h : n.digits = p ++ q) : p = [] := by
  by_contra hne
  refine hp (endsInDigit_of_forall hne fun c hc => hn.2 c ?_)
  rw [h]
  exact List.mem_append_left q hc

/-- A count that is written begins with the digit, or the digit stands behind it. -/
theorem spells_zero_of_count {negative : Bool} {n : Numeral} {kind : WrittenKind} (hn : n.IsNumber)
    (hkind : ∀ p ∈ kind.numerals, p.IsNumber) {c : Char} (hc : c.isDigit) {a b : List Char} (ha : ¬EndsInDigit a)
    (h : n.digits ++ 'd' :: kind.text = a ++ c :: b) :
    Spells .factor (signText negative ++ a ++ '0' :: c :: b) (.dice ⟨negative, some n, kind⟩) := by
  have hd : ∀ p ∈ (⟨negative, some n, kind⟩ : WrittenDice).numerals, p.IsNumber :=
    List.forall_mem_append.mpr ⟨by simpa using hn, hkind⟩
  rcases List.append_eq_append_iff.mp h with ⟨a', rfl, hbehind⟩ | ⟨q, hdigits, -⟩
  · have ha' := not_endsInDigit_of_suffix ha (List.suffix_append n.digits a')
    obtain ⟨k', htext, hrespells⟩ := exists_kind_of_digit hkind hc ha' hbehind
    have hspells := hrespells.spells hd htext
    simpa [WrittenDice.countText] using hspells
  · obtain rfl := eq_nil_of_digits hn ha hdigits
    have hpads := Numeral.pads_zero n
    have hspells : Spells .factor (signText negative ++ '0' :: n.digits ++ 'd' :: kind.text)
        (.dice ⟨negative, some n, kind⟩) := .of_count (hpads.2 hn) hkind hpads.1
    rw [List.nil_append] at h
    simpa [← h] using hspells

theorem replaces_zero {c : Char} (hc : c.isDigit) {before : List Char} (hbefore : ¬EndsInDigit before)
    (after : List Char) : Replaces [c] ['0', c] before after := by
  have hsign : ∀ negative, c ∉ signText negative := by
    intro negative hmem
    rw [eq_minus_of_mem_signText hmem] at hc
    exact absurd hc (by decide)
  constructor
  · intro a b negative n ha hb hn h
    rw [List.append_assoc] at h
    obtain ⟨a', rfl, hdigits⟩ := behind_of_not_mem h (hsign negative)
    have ha' := not_endsInDigit_of_suffix hbefore ((List.suffix_append _ _).trans ha)
    obtain rfl := eq_nil_of_digits hn ha' hdigits
    refine ⟨.literal negative ⟨'0' :: n.digits⟩, ?_, .literal negative (Numeral.pads_zero n)⟩
    have hliteral := Derives.literal negative ((Numeral.pads_zero n).2 hn)
    simpa [hdigits] using hliteral
  · rintro a b ⟨negative, count, kind⟩ ha hb ht h
    have hkind : ∀ n ∈ kind.numerals, n.IsNumber := fun n hn => ht n (List.mem_append_right _ hn)
    have htext : signText negative ++ ((count.elim [] Numeral.digits) ++ 'd' :: kind.text) = a ++ c :: b := by
      have heq := h
      unfold WrittenDice.text at heq
      rw [countText_eq] at heq
      simpa using heq
    obtain ⟨a', rfl, hrest⟩ := behind_of_not_mem htext (hsign negative)
    have ha' := not_endsInDigit_of_suffix hbefore ((List.suffix_append _ _).trans ha)
    cases count with
    | none =>
      obtain ⟨k', htext', hrespells⟩ := exists_kind_of_digit hkind hc ha' hrest
      have hspells := hrespells.spells (d := ⟨negative, none, kind⟩) ht htext'
      simpa [WrittenDice.countText] using hspells
    | some n =>
      have hn : n.IsNumber := ht n (List.mem_append_left _ (by simp))
      have hspells : Spells .factor (signText negative ++ a' ++ '0' :: c :: b) (.dice ⟨negative, some n, kind⟩) :=
        spells_zero_of_count hn hkind hc ha' hrest
      simpa using hspells

/-! ### Letters -/

section

variable {c : Char} (hminus : c ≠ '-') (hdigit : c.isDigit = false)

include hminus hdigit

/-- A literal has no letter. -/
theorem not_mem_literal {negative : Bool} {n : Numeral} (hn : n.IsNumber) : c ∉ signText negative ++ n.digits := by
  intro hmem
  rcases List.mem_append.mp hmem with hmem | hmem
  · exact hminus (eq_minus_of_mem_signText hmem)
  · rw [hn.2 c hmem] at hdigit
    cases hdigit

/-- The letters of a dice term begin with its `d`. -/
theorem behind_count {d : WrittenDice} (hd : ∀ n ∈ d.numerals, n.IsNumber) {a b : List Char}
    (h : d.text = a ++ c :: b) :
    ∃ a', a = signText d.negative ++ d.countText ++ a' ∧ 'd' :: d.kind.text = a' ++ c :: b := by
  refine behind_of_not_mem h fun hmem => ?_
  rcases List.mem_append.mp hmem with hmem | hmem
  · exact hminus (eq_minus_of_mem_signText hmem)
  · rw [isDigit_of_mem_countText hd hmem] at hdigit
    cases hdigit

end

/-! ### Marks -/

theorem isDigit_of_mem_marks {c : Char} (hc : c ∈ ['!', 'e']) : c.isDigit = false := by
  have hall : (['!', 'e'].all fun c => !c.isDigit) = true := by decide
  simpa using List.all_eq_true.mp hall c hc

theorem exists_kind_of_mark {k : WrittenKind} (hk : ∀ n ∈ k.numerals, n.IsNumber) {a b : List Char} {c c' : Char}
    (hc : c ∈ ['!', 'e']) (hc' : c' ∈ ['!', 'e']) (h : 'd' :: k.text = a ++ c :: b) :
    ∃ k', 'd' :: k'.text = a ++ c' :: b ∧ RespellsKind k k' := by
  have hother : c ∉ ['d', '%', 'f'] := by
    have hall : (['!', 'e'].all fun c => decide (c ∉ ['d', '%', 'f'])) = true := by decide
    exact of_decide_eq_true (List.all_eq_true.mp hall c hc)
  obtain ⟨mark', rfl⟩ : ∃ mark' : ExplosionMark, c' = mark'.char := by
    rcases List.mem_cons.mp hc' with rfl | hc'
    · exact ⟨.bang, rfl⟩
    · exact ⟨.letter, List.mem_singleton.mp hc'⟩
  obtain ⟨sides, row, rfl⟩ := exists_sided (by rw [h]; simp) hother
  rw [text_sided] at h
  rw [numerals_sided] at hk
  obtain ⟨before, m, after, hrow, rfl, rfl, rfl⟩ := Modifier.exists_of_letter hk (isDigit_of_mem_marks hc) h
  cases m with
  | explode mark n =>
    have hkind : (Modifier.explode mark' n).kind = (Modifier.explode mark n).kind := rfl
    have hsame : SameRow [.explode mark n] [.explode mark' n] := by
      cases n with
      | none => exact ⟨fun m => rfl, fun p hp => absurd hp (by simp [Modifier.numerals])⟩
      | some n => exact ⟨fun m => rfl, fun p hp => ⟨p, hp, .refl p⟩⟩
    obtain ⟨k', htext, hrespells⟩ := exists_kind_of_modifier hrow hkind hsame
    refine ⟨k', ?_, hrespells⟩
    rw [htext, List.flatMap_append, Modifier.flatMap_text_cons]
    rfl
  | keep n => exact absurd hc (by decide : 'k' ∉ ['!', 'e'])
  | drop n => exact absurd hc (by decide : 'd' ∉ ['!', 'e'])
  | reroll n => exact absurd hc (by decide : 'r' ∉ ['!', 'e'])

theorem replaces_mark {c c' : Char} (hc : c ∈ ['!', 'e']) (hc' : c' ∈ ['!', 'e']) (before after : List Char) :
    Replaces [c] [c'] before after := by
  have hdigit := isDigit_of_mem_marks hc
  have hminus : c ≠ '-' := by
    rintro rfl
    exact absurd hc (by decide)
  constructor
  · intro a b negative n ha hb hn h
    have hnone : c ∉ signText negative ++ n.digits := not_mem_literal hminus hdigit hn
    exact absurd (by rw [h]; simp) hnone
  · intro a b d ha hb hd h
    rw [List.append_assoc] at h
    obtain ⟨a', rfl, hkind⟩ := behind_count hminus hdigit hd h
    obtain ⟨k', htext, hrespells⟩ := exists_kind_of_mark (fun n hn => hd n (List.mem_append_right _ hn)) hc hc' hkind
    have hspells := hrespells.spells hd htext
    simpa using hspells

/-! ### Counts -/

theorem replaces_count {before : List Char} (hbefore : ∀ c ∈ before.getLast?, c ∈ ['(', '+', '-', '*', '×', '·'])
    (after : List Char) : Replaces ['d'] ['1', 'd'] before after := by
  constructor
  · intro a b negative n ha hb hn h
    have hnone : 'd' ∉ signText negative ++ n.digits := not_mem_literal (by decide) (by decide) hn
    exact absurd (by rw [h]; simp) hnone
  · rintro a b ⟨negative, count, kind⟩ ha hb hd h
    have hkind : ∀ n ∈ kind.numerals, n.IsNumber := fun n hn => hd n (List.mem_append_right _ hn)
    rw [List.append_assoc] at h
    obtain ⟨a', rfl, hbehind⟩ := behind_count (by decide) (by decide) hd h
    -- A joint stands before the letter, but there is none in the count or behind it.
    have hnone : (⟨negative, count, kind⟩ : WrittenDice).countText ++ a' = [] := by
      by_contra hne
      have hlast := List.getLast?_eq_some_getLast hne
      have hmem := List.getLast_mem hne
      generalize List.getLast _ hne = c at hlast hmem
      have hsuffix := List.suffix_append (signText negative) ((⟨negative, count, kind⟩ : WrittenDice).countText ++ a')
      rw [← List.append_assoc] at hsuffix
      have hjoint : c ∈ joints := by
        have hopener := hbefore c (mem_getLast?_of_suffix (hsuffix.trans ha) hlast)
        have hsubset : ['(', '+', '-', '*', '×', '·'] ⊆ joints := by decide
        exact hsubset hopener
      rcases List.mem_append.mp hmem with hmem | hmem
      · exact not_mem_joints_of_isDigit (isDigit_of_mem_countText hd hmem) hjoint
      · exact not_mem_joints_of_mem_kind hkind (by rw [hbehind]; simp [hmem]) hjoint
    obtain ⟨hcount, rfl⟩ := List.append_eq_nil_iff.mp hnone
    cases count with
    | some n => exact absurd hcount (hd n (List.mem_append_left _ (by simp))).1
    | none =>
      have hone : (⟨['1']⟩ : Numeral).IsNumber := ⟨by simp, by simp⟩
      have hspells : Spells .factor (signText negative ++ ['1'] ++ 'd' :: kind.text) (.dice ⟨negative, none, kind⟩) :=
        .of_count hone hkind rfl
      rw [hbehind] at hspells
      simpa [WrittenDice.countText] using hspells

/-! ### Modifiers -/

theorem exists_kind_of_permuted {k : WrittenKind} (hk : ∀ n ∈ k.numerals, n.IsNumber) {a b : List Char}
    {sides : Numeral} {row other : List Modifier} (hsides : sides.IsNumber)
    (hrow : ∀ n ∈ row.flatMap Modifier.numerals, n.IsNumber) (hb : NoDigit b) (hsame : SameRow row other)
    (h : 'd' :: k.text = a ++ (Modifier.drop sides :: row).flatMap Modifier.text ++ b) :
    ∃ k', 'd' :: k'.text = a ++ (Modifier.drop sides :: other).flatMap Modifier.text ++ b ∧ RespellsKind k k' := by
  -- The sides of the part that is permuted are digits.
  have hfirst := List.head_mem hsides.1
  have hmem : sides.digits.head hsides.1 ∈ 'd' :: k.text := by
    rw [h, List.flatMap_cons]
    simp [Modifier.text, hfirst]
  obtain ⟨sides', all, rfl⟩ := exists_sided_of_digit (hsides.2 _ hfirst) hmem
  rw [text_sided] at h
  rw [numerals_sided] at hk
  have hletter := h
  rw [List.append_assoc, Modifier.flatMap_text_cons (.drop sides)] at hletter
  obtain ⟨first, m, behind, hall, rfl, -, -⟩ := Modifier.exists_of_letter hk (Modifier.isDigit_letter _) hletter
  -- From that letter on the row begins with the part that is permuted.
  have hpart : (m :: behind).flatMap Modifier.text = (Modifier.drop sides :: row).flatMap Modifier.text ++ b := by
    rw [hall, List.flatMap_append, List.append_assoc] at h
    exact List.append_cancel_left h
  have hbehind : ∀ n ∈ (m :: behind).flatMap Modifier.numerals, n.IsNumber := by
    intro n hn
    refine hk n ?_
    rw [hall, List.flatMap_append]
    exact List.mem_append_right _ hn
  have hnumbers : ∀ n ∈ (Modifier.drop sides :: row).flatMap Modifier.numerals, n.IsNumber :=
    List.forall_mem_cons.mpr ⟨hsides, hrow⟩
  obtain ⟨after, hsplit, rfl⟩ := Modifier.exists_append_of_text hbehind hnumbers hb hpart
  rw [hsplit, ← List.append_assoc] at hall
  obtain ⟨k', htext, hrespells⟩ := exists_kind_of_row hall hsame
  refine ⟨k', ?_, hrespells⟩
  rw [htext]
  simp

theorem replaces_permuted {sides : Numeral} {row other : List Modifier} (hsides : sides.IsNumber)
    (hrow : ∀ n ∈ row.flatMap Modifier.numerals, n.IsNumber) (hsame : SameRow row other) (before : List Char)
    {after : List Char} (hafter : NoDigit after) :
    Replaces ((Modifier.drop sides :: row).flatMap Modifier.text) ((Modifier.drop sides :: other).flatMap Modifier.text)
      before after := by
  constructor
  · intro a b negative n ha hb hn h
    have hmem : 'd' ∈ signText negative ++ n.digits := by
      rw [h, Modifier.flatMap_text_cons]
      simp [Modifier.letter]
    exact absurd hmem (not_mem_literal (by decide) (by decide) hn)
  · intro a b d ha hb hd h
    have hb' : NoDigit b := by
      obtain ⟨q, rfl⟩ := hb
      intro c hc
      refine hafter c ?_
      rw [List.head?_append, Option.mem_def.mp hc]
      rfl
    have hletter := h
    rw [List.append_assoc, Modifier.flatMap_text_cons (.drop sides)] at hletter
    obtain ⟨a', rfl, -⟩ := behind_count (c := 'd') (by decide) (by decide) hd hletter
    have hkind : 'd' :: d.kind.text = a' ++ (Modifier.drop sides :: row).flatMap Modifier.text ++ b := by
      simpa [WrittenDice.text] using h
    obtain ⟨k', htext, hrespells⟩ :=
      exists_kind_of_permuted (fun n hn => hd n (List.mem_append_right _ hn)) hsides hrow hb' hsame hkind
    have hspells := hrespells.spells hd htext
    simpa using hspells

/-! ### Whole formulas -/

/-- No change of the spelling changes what a text says. -/
theorem Derives.respelled {k : Nonterminal} {s t : List Char} {f : Formula} (h : Derives k s f) (ht : Respelling s t) :
    Spells k t f := by
  cases ht with
  | @zero before after d hd hbefore =>
    have hplain : ∀ c ∈ joints, c ∉ [d] := by
      rintro c hc hmem
      rw [List.mem_singleton.mp hmem] at hc
      exact not_mem_joints_of_isDigit hd hc
    have hspells := h.replaced (by simp) hplain (replaces_zero hd hbefore after) (by simp)
    simpa using hspells
  | @times before after c c' hc hc' =>
    have hsymbol : ∀ c ∈ ['*', '×', '·'], (multiplicative? c).isSome := by simp [multiplicative?]
    obtain ⟨times, htimes⟩ := Option.isSome_iff_exists.mp (hsymbol c hc)
    obtain ⟨times', htimes'⟩ := Option.isSome_iff_exists.mp (hsymbol c' hc')
    exact h.symbol_replaced htimes htimes' rfl
  | count before after hbefore =>
    have hspells := h.replaced (by simp) (by simp [joints]) (replaces_count hbefore after) (by simp)
    simpa using hspells
  | @mark before after c c' hc hc' =>
    have hplain : ∀ e ∈ joints, e ∉ [c] := by
      have hmarks : ∀ e ∈ joints, e ∉ ['!', 'e'] := by simp [joints]
      intro e he hmem
      rw [List.mem_singleton.mp hmem] at he
      exact hmarks c he hc
    have hspells := h.replaced (by simp) hplain (replaces_mark hc hc' before after) (by simp)
    simpa using hspells
  | @permute before after sides row other hsides hrow hafter hperm hkinds =>
    have hnumbers : ∀ n ∈ (Modifier.drop sides :: row).flatMap Modifier.numerals, n.IsNumber :=
      List.forall_mem_cons.mpr ⟨hsides, hrow⟩
    have hplain : ∀ c ∈ joints, c ∉ (Modifier.drop sides :: row).flatMap Modifier.text :=
      fun c hc hmem => not_mem_joints_of_mem_row hnumbers hmem hc
    have hsame := Modifier.SameRow.of_kinds hperm hkinds
    exact h.replaced (by simp [Modifier.text]) hplain (replaces_permuted hsides hrow hsame before hafter) rfl

open Relation (ReflTransGen)

theorem Derives.respellings {k : Nonterminal} {s t : List Char} {f : Formula} (h : Derives k s f)
    (ht : ReflTransGen Respelling s t) : Spells k t f := by
  induction ht with
  | refl => exact .of_derives h
  | tail _ hstep ih =>
    obtain ⟨g, hg, hrespells⟩ := ih
    obtain ⟨g', hg', hrespells'⟩ := hg.respelled hstep
    exact ⟨g', hg', hrespells.trans hrespells'⟩

/-- A normal text that was rolled once is rolled in the same way in all its spellings that are not too long, from every
source. -/
theorem roll_respelled {σ : Type} [RandomSource σ] {text other : String} {source source' : σ} {o : Outcome}
    (hnormal : normalize text = text.toList) (h : (roll text).run.run source = (Except.ok o, source'))
    (hother : ReflTransGen Respelling text.toList other.toList) (hlength : other.toList.length ≤ maxLength) :
    (roll other).run.run source = (Except.ok o, source') ∧
      ∀ (τ : Type) [RandomSource τ], (roll other : Roller τ Outcome) = roll text := by
  obtain ⟨f, hread⟩ := read_of_roll h
  have hread' := hread
  rw [hnormal] at hread'
  obtain ⟨-, hf, hfits⟩ := read_eq_ok_iff.mp hread'
  obtain ⟨g, hg, hrespells⟩ := hf.respellings hother
  have hself : normalize other = other.toList := by
    have heq := hg.normalize_eq
    rwa [String.ofList_toList] at heq
  have hreadOther : read (normalize other) = .ok g := by
    rw [hself]
    exact read_eq_ok_iff.mpr ⟨hlength, hg, hfits.respells hrespells⟩
  have hsame : ∀ (τ : Type) [RandomSource τ], (roll other : Roller τ Outcome) = roll text := by
    intro τ _
    rw [roll_of_read hread, roll_of_read hreadOther, evaluate_respells hrespells]
  exact ⟨by rw [hsame σ]; exact h, hsame⟩

/-- An outcome of the text below. -/
private def plainOutcome : Outcome :=
  ⟨19, [2, 5, 4], "2d6!r1+1d8*3", "[2, 5] = 7 + ([4] = 4) * (3) = 12 = 19"⟩

private theorem roll_plain :
    (roll "2d6r1!+d8*3").run.run (Script.ofFaces [2, 5, 4]) = (Except.ok plainOutcome, ⟨[2, 5, 4], []⟩) := by
  show @Eq (Except Fault Outcome × Script) _ _
  decide +kernel

/-- Every change once. -/
private theorem respelled_plain : ReflTransGen Respelling "2d6r1!+d8*3".toList "02d6er1+1d8×3".toList := by
  have hbang : '!' ∈ ['!', 'e'] := by decide
  have hletter : 'e' ∈ ['!', 'e'] := by decide
  have hasterisk : '*' ∈ ['*', '×', '·'] := by decide
  have hcross : '×' ∈ ['*', '×', '·'] := by decide
  have hzero : Respelling "2d6r1!+d8*3".toList "02d6r1!+d8*3".toList :=
    .zero [] "d6r1!+d8*3".toList (by decide : '2'.isDigit) (by simp [EndsInDigit])
  have hmark : Respelling "02d6r1!+d8*3".toList "02d6r1e+d8*3".toList :=
    .mark "02d6r1".toList "+d8*3".toList hbang hletter
  have hpermute : Respelling "02d6r1e+d8*3".toList "02d6er1+d8*3".toList := by
    have hsides : (⟨['6']⟩ : Numeral).IsNumber := ⟨by simp, by simp⟩
    have hrow : ∀ n ∈ [Modifier.reroll ⟨['1']⟩, .explode .letter none].flatMap Modifier.numerals, n.IsNumber := by
      simp [Modifier.numerals, Numeral.IsNumber]
    have hafter : NoDigit "+d8*3".toList := by simp [NoDigit]
    have hkinds : ∀ k, ([Modifier.explode .letter none, .reroll ⟨['1']⟩].filter fun x => decide (x.kind = k)) =
        [.reroll ⟨['1']⟩, .explode .letter none].filter fun x => decide (x.kind = k) := by
      intro k
      cases k <;> rfl
    exact .permute "02".toList "+d8*3".toList hsides hrow hafter (.swap _ _ _) hkinds
  have hcount : Respelling "02d6er1+d8*3".toList "02d6er1+1d8*3".toList :=
    .count "02d6er1+".toList "8*3".toList (by simp)
  have htimes : Respelling "02d6er1+1d8*3".toList "02d6er1+1d8×3".toList :=
    .times "02d6er1+1d8".toList "3".toList hasterisk hcross
  exact ((((ReflTransGen.single hzero).tail hmark).tail hpermute).tail hcount).tail htimes

theorem roll_respelled_five :
    normalize "2d6r1!+d8*3" = "2d6r1!+d8*3".toList ∧ "02d6er1+1d8×3".toList.length ≤ maxLength ∧
      (roll "2d6r1!+d8*3").run.run (Script.ofFaces [2, 5, 4]) = (Except.ok plainOutcome, ⟨[2, 5, 4], []⟩) ∧
      (roll "02d6er1+1d8×3").run.run (Script.ofFaces [2, 5, 4]) = (Except.ok plainOutcome, ⟨[2, 5, 4], []⟩) := by
  have hnormal : normalize "2d6r1!+d8*3" = "2d6r1!+d8*3".toList := by decide +kernel
  have hlength : "02d6er1+1d8×3".toList.length ≤ maxLength := by decide
  exact ⟨hnormal, hlength, roll_plain, (roll_respelled hnormal roll_plain respelled_plain hlength).1⟩

end Tabletop.Formula
