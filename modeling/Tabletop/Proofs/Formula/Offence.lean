import Tabletop.Proofs.Formula.Beginning
import Tabletop.Proofs.Formula.Lookahead
import Tabletop.Proofs.Formula.Rendering
import Tabletop.Proofs.Formula.Rolling
import Tabletop.Proofs.Formula.Steps

/-!
# Faults point at the first wrong character

A text that is refused for its syntax is the beginning of a sentence up to the position of the fault, and with the character
that caused the fault it is the beginning of none (`roll_points_at_offence`).  The first half is that every beginning can be
finished, the second one that reading looks one character ahead.
-/

namespace Tabletop.Formula

/-- No sentence begins with the text up to and with the place `q`, or the text ends there and is no sentence. -/
def WrongAt (text : List Char) (q : Nat) : Prop :=
  (q = text.length ∧ ¬IsSentence text) ∨ (q < text.length ∧ ∀ more, ¬IsSentence (text.take (q + 1) ++ more))

theorem IsSentence.expression_eq {text : List Char} (h : IsSentence text) :
    ∃ f, expression maxNesting (.start text) = .ok (f, ⟨text.length, []⟩) := by
  obtain ⟨f, hf, hfits⟩ := h
  exact ⟨f, (hf.expression_settles maxNesting).eq_target hfits⟩

/-! ### Where reading breaks off -/

/-- Up to a fault that has a position, a text begins a sentence. -/
theorem begins_of_read_error {text : List Char} {b : Break} {p : Nat} (h : read text = .error b)
    (hp : b.fault.position = some p) : p ≤ text.length ∧ ∃ more, IsSentence (text.take p ++ more) := by
  obtain ⟨s, hbegin, hreached, hlength⟩ := reached_of_read_error h
  rw [hp] at hlength
  rw [← show s.length = p from hlength, ← List.prefix_iff_eq_take.mp hbegin]
  exact ⟨hbegin.length_le, hreached.exists_sentence⟩

private theorem offence?_eq_some {text : List Char} {fault : Fault} {q : Nat} (h : fault.offence? text = some q) :
    ∃ p, fault.position = some p ∧ (q = p ∨ text[p]? = some '-' ∧ q = p + 1) := by
  cases fault with
  | expectedNumberOrDice p =>
    have hq := Option.some.inj h
    refine ⟨p, rfl, ?_⟩
    by_cases hsign : text[p]? = some '-'
    · rw [if_pos hsign] at hq
      exact .inr ⟨hsign, hq.symm⟩
    · rw [if_neg hsign] at hq
      exact .inl hq.symm
  | unexpectedCharacter found p => exact ⟨p, rfl, .inl (Option.some.inj h).symm⟩
  | missingDiceSides p => exact ⟨p, rfl, .inl (Option.some.inj h).symm⟩
  | missingModifierValue letter p => exact ⟨p, rfl, .inl (Option.some.inj h).symm⟩
  | missingClosingParenthesis openedAt p => exact ⟨p, rfl, .inl (Option.some.inj h).symm⟩
  | _ => cases h

/-- The text and another one that starts with the same characters up to and with the place `q`. -/
private def variants (text more : List Char) {q : Nat} (hq : q < text.length) : Variants where
  text := text
  other := text.take (q + 1) ++ more
  bound := q + 1
  agree := by
    have hlength : (text.take (q + 1)).length = q + 1 := by
      rw [List.length_take]
      omega
    rw [List.take_append_of_le_length (Nat.le_of_eq hlength.symm), List.take_take, Nat.min_self]

/-- Behind a fault of the syntax nothing can make the text a sentence. -/
theorem wrongAt_of_read_error {text : List Char} {b : Break} {q : Nat} (h : read text = .error b)
    (hq : b.fault.offence? text = some q) : WrongAt text q := by
  obtain ⟨p, hp, hpq⟩ := offence?_eq_some hq
  obtain ⟨hle, -⟩ := begins_of_read_error h hp
  have hlength : q ≤ text.length := by
    rcases hpq with rfl | ⟨hsign, rfl⟩
    · exact hle
    · exact (List.getElem?_eq_some_iff.mp hsign).1
  rcases cases_of_read_error h with ⟨-, hnone⟩ | ⟨-, hread | ⟨f, c, found, hread, hfound, rfl⟩⟩
  · rw [hnone] at hp
    cases hp
  · rcases Nat.lt_or_eq_of_le hlength with hlt | rfl
    · refine .inr ⟨hlt, fun more hsentence => ?_⟩
      have hother := expression_other_of_error (v := variants text more hlt) hread hq (Nat.lt_succ_self q)
      obtain ⟨f, hf⟩ := hsentence.expression_eq
      cases hother.symm.trans hf
    · refine .inl ⟨rfl, fun hsentence => ?_⟩
      obtain ⟨f, hf⟩ := hsentence.expression_eq
      cases hread.symm.trans hf
  · obtain rfl := Option.some.inj hq
    rw [expression_eq_readPart] at hread
    obtain ⟨s, -, hspan⟩ := readPart_sound _ _ hread
    rw [← expression_eq_readPart] at hread
    have hlt : c.position < text.length := by
      have hrest : text.length = s.length + c.rest.length := by
        rw [← List.length_append, ← hspan.rest]
        rfl
      have hmore : c.rest ≠ [] := by
        intro hend
        rw [Cursor.next?, hend] at hfound
        cases hfound
      have hpositive := List.length_pos_iff.mpr hmore
      have hposition := (length_of_spans_start hspan).2
      omega
    refine .inr ⟨hlt, fun more hsentence => ?_⟩
    have hother := expression_other_of_ok (v := variants text more hlt) hread (Nat.lt_succ_self c.position)
    obtain ⟨g, hg⟩ := hsentence.expression_eq
    -- The other text was read up to the same place, which is not its end.
    have hend := congrArg (fun r => r.2.position) (Except.ok.inj (hother.symm.trans hg))
    change c.position = (text.take (c.position + 1) ++ more).length at hend
    rw [List.length_append, List.length_take] at hend
    omega

/-! ### Rolling up to the fault -/

section

variable {σ : Type} [RandomSource σ]

private theorem position_of_evaluateAll {parts : List Formula} {s s' : σ} {fault : Fault}
    (h : (evaluateAll parts).run.run s = (Except.error fault, s')) : fault.position = none := by
  induction parts generalizing s with
  | nil => exact absurd h Roller.pure_ne_error
  | cons f rest ih =>
    rcases Roller.bind_eq_error.mp h with h | ⟨o, s₁, -, h⟩
    · exact position_of_evaluate h
    · exact ih h

/-- A fault that points at a character is that of the reading, and the parts that were complete before have outcomes. -/
theorem read_of_roll_error {text : String} {source source' : σ} {fault : Fault} {p : Nat}
    (h : (roll text).run.run source = (Except.error fault, source')) (hp : fault.position = some p) :
    ∃ parts, read (normalize text) = .error ⟨parts, fault⟩ ∧ (evaluateAll parts).run.run source = (Except.ok (), source') := by
  unfold roll at h
  rw [rollNormal_eq_settle] at h
  cases hread : read (normalize text) with
  | ok f =>
    rw [hread] at h
    rw [position_of_evaluate h] at hp
    cases hp
  | error b =>
    rw [hread] at h
    rcases Roller.bind_eq_error.mp h with h | ⟨u, s₁, hparts, h⟩
    · rw [position_of_evaluateAll h] at hp
      cases hp
    · obtain ⟨rfl, rfl⟩ := Roller.throw_eq_error.mp h
      exact ⟨b.completed, rfl, hparts⟩

end

/-! ### Sentences in normal form -/

/-- The characters that formulas in normal form are written with. -/
def formulaChars : List Char := smallChars ++ ['f', '×', '·']

private theorem lowers_formulaChar {c : Char} (h : c ∈ formulaChars) : Lowers c c := by
  rcases List.mem_append.mp h with h | h
  · exact lowers_self h
  · have hall : (['f', '×', '·'].all fun c => decide (Lowers c c)) = true := by decide +kernel
    exact of_decide_eq_true (List.all_eq_true.mp hall c h)

private theorem smallChars_subset : smallChars ⊆ formulaChars := List.subset_append_left _ _

private theorem signText_subset (negative : Bool) : signText negative ⊆ formulaChars := by
  cases negative with
  | false => exact List.nil_subset _
  | true => decide

private theorem kind_subset {k : WrittenKind} (h : ∀ n ∈ k.numerals, n.IsNumber) : k.text ⊆ formulaChars := by
  cases k with
  | percentile => decide
  | fudge => decide
  | sided sides ms =>
    obtain ⟨hsides, hms⟩ := List.forall_mem_cons.mp h
    refine List.append_subset.mpr ⟨List.Subset.trans (digits_subset_smallChars hsides) smallChars_subset, ?_⟩
    intro c hc
    obtain ⟨m, hm, hc⟩ := List.mem_flatMap.mp hc
    exact smallChars_subset (modifier_subset_smallChars (fun n hn => hms n (List.mem_flatMap.mpr ⟨m, hm, hn⟩)) hc)

theorem Derives.subset_formulaChars {k : Nonterminal} {s : List Char} {f : Formula} (h : Derives k s f) :
    s ⊆ formulaChars := by
  induction h with
  | literal negative hn =>
    exact List.append_subset.mpr ⟨signText_subset negative, List.Subset.trans (digits_subset_smallChars hn) smallChars_subset⟩
  | @dice d hd =>
    obtain ⟨hcount, hkind⟩ := List.forall_mem_append.mp hd
    refine List.append_subset.mpr ⟨List.append_subset.mpr ⟨signText_subset d.negative, ?_⟩, ?_⟩
    · rw [countText_eq]
      cases hn : d.count with
      | none => exact List.nil_subset _
      | some n =>
        rw [hn] at hcount
        exact List.Subset.trans (digits_subset_smallChars (hcount n (by simp))) smallChars_subset
    · exact List.cons_subset.mpr ⟨by decide, kind_subset hkind⟩
  | group h ih => exact List.append_subset.mpr ⟨List.cons_subset.mpr ⟨by decide, ih⟩, by decide⟩
  | factor h ih => exact ih
  | times hl hc hr ihl ihr =>
    refine List.append_subset.mpr ⟨ihl, List.cons_subset.mpr ⟨?_, ihr⟩⟩
    unfold multiplicative? at hc
    split at hc
    · decide
    · decide
    · decide
    · cases hc
  | product h ih => exact ih
  | plus hl hc hr ihl ihr =>
    refine List.append_subset.mpr ⟨ihl, List.cons_subset.mpr ⟨?_, ihr⟩⟩
    unfold additive? at hc
    split at hc
    · decide
    · decide
    · cases hc

theorem Derives.normalize_eq {k : Nonterminal} {s : List Char} {f : Formula} (h : Derives k s f) :
    normalize (String.ofList s) = s :=
  normalize_eq_self fun _ hc => lowers_formulaChar (h.subset_formulaChars hc)

/-! ### The position of a fault -/

/-- The codes of the faults that point at a character which does not belong where it stands. -/
def offenceCodes : List String :=
  ["UNEXPECTED_CHARACTER", "EXPECTED_NUMBER_OR_DICE", "MISSING_DICE_SIDES", "MISSING_MODIFIER_VALUE",
    "MISSING_CLOSING_PARENTHESIS"]

private theorem exists_offence {fault : Fault} (h : fault.code ∈ offenceCodes) (text : List Char) :
    ∃ p, fault.position = some p ∧ fault.offence? text =
      some (if fault.code = "EXPECTED_NUMBER_OR_DICE" ∧ text[p]? = some '-' then p + 1 else p) := by
  cases fault with
  | unexpectedCharacter found p => exact ⟨p, rfl, by simp [Fault.offence?, Fault.code]⟩
  | expectedNumberOrDice p => exact ⟨p, rfl, by simp [Fault.offence?, Fault.code]⟩
  | missingDiceSides p => exact ⟨p, rfl, by simp [Fault.offence?, Fault.code]⟩
  | missingModifierValue letter p => exact ⟨p, rfl, by simp [Fault.offence?, Fault.code]⟩
  | missingClosingParenthesis openedAt p => exact ⟨p, rfl, by simp [Fault.offence?, Fault.code]⟩
  | _ => simp [offenceCodes, Fault.code] at h

variable {σ : Type} [RandomSource σ]

/-- What stands before an unexpected character is rolled by itself with the same draws. -/
private theorem roll_take_of_unexpected {text : String} {source source' : σ} {found : Char} {p : Nat}
    (h : (roll text).run.run source = (Except.error (.unexpectedCharacter found p), source')) :
    ∃ o, (roll (String.ofList ((normalize text).take p))).run.run source = (Except.ok o, source') := by
  obtain ⟨parts, hread, hparts⟩ := read_of_roll_error h rfl
  rcases cases_of_read_error hread with ⟨-, hnone⟩ | ⟨hlength, hbreak | ⟨f, c, found', hexpression, -, heq⟩⟩
  · cases hnone
  · rw [expression_eq_readPart] at hbreak
    obtain ⟨s, c', -, hreports, -⟩ := readPart_begins _ _ hbreak
    exact absurd rfl (hreports.ne_unexpectedCharacter found p)
  · cases heq
    obtain ⟨o, s₁, ho, hparts⟩ := Roller.bind_eq_ok.mp hparts
    obtain ⟨-, rfl⟩ := Roller.pure_eq_ok.mp hparts
    rw [expression_eq_readPart] at hexpression
    obtain ⟨s, hs, hspan⟩ := readPart_sound _ _ hexpression
    obtain ⟨hbegin, hposition⟩ := length_of_spans_start hspan
    rw [← hposition, ← List.prefix_iff_eq_take.mp hbegin]
    have hshort : s.length ≤ maxLength := Nat.le_trans hbegin.length_le hlength
    have hself := read_eq_ok_iff.mpr ⟨hshort, hs, readPart_fits _ _ hexpression⟩
    rw [← hs.normalize_eq] at hself
    refine ⟨o, ?_⟩
    rw [roll_of_read hself]
    exact ho

theorem roll_points_at_offence {text : String} {source source' : σ} {fault : Fault}
    (h : (roll text).run.run source = (Except.error fault, source')) (hcode : fault.code ∈ offenceCodes) :
    ∃ p q, fault.position = some p ∧
      q = (if fault.code = "EXPECTED_NUMBER_OR_DICE" ∧ (normalize text)[p]? = some '-' then p + 1 else p) ∧
      (∃ more, IsSentence ((normalize text).take p ++ more)) ∧ WrongAt (normalize text) q ∧
      (fault.code = "UNEXPECTED_CHARACTER" →
        ∃ o, (roll (String.ofList ((normalize text).take p))).run.run source = (Except.ok o, source')) := by
  obtain ⟨p, hp, hq⟩ := exists_offence hcode (normalize text)
  obtain ⟨parts, hread, -⟩ := read_of_roll_error h hp
  refine ⟨p, _, hp, rfl, (begins_of_read_error hread hp).2, wrongAt_of_read_error hread hq, fun hunexpected => ?_⟩
  cases fault with
  | unexpectedCharacter found p' =>
    obtain rfl := Option.some.inj hp
    exact roll_take_of_unexpected h
  | _ => simp [Fault.code] at hunexpected

private theorem roll_stray :
    (roll "2D6 + 1x").run.run (Script.ofFaces [3, 4]) = (Except.error (.unexpectedCharacter 'x' 5), ⟨[3, 4], []⟩) := by
  show @Eq (Except Fault Outcome × Script) _ _
  decide +kernel

theorem roll_points_at_offence_stray :
    (roll "2D6 + 1x").run.run (Script.ofFaces [3, 4]) = (Except.error (.unexpectedCharacter 'x' 5), ⟨[3, 4], []⟩) ∧
      Fault.code (.unexpectedCharacter 'x' 5) ∈ offenceCodes ∧
      ∃ p q, Fault.position (.unexpectedCharacter 'x' 5) = some p ∧
        q = (if Fault.code (.unexpectedCharacter 'x' 5) = "EXPECTED_NUMBER_OR_DICE" ∧
          (normalize "2D6 + 1x")[p]? = some '-' then p + 1 else p) ∧
        (∃ more, IsSentence ((normalize "2D6 + 1x").take p ++ more)) ∧ WrongAt (normalize "2D6 + 1x") q ∧
        (Fault.code (.unexpectedCharacter 'x' 5) = "UNEXPECTED_CHARACTER" →
          ∃ o, (roll (String.ofList ((normalize "2D6 + 1x").take p))).run.run (Script.ofFaces [3, 4]) =
            (Except.ok o, ⟨[3, 4], []⟩)) := by
  have hcode : Fault.code (.unexpectedCharacter 'x' 5) ∈ offenceCodes := by decide
  exact ⟨roll_stray, hcode, roll_points_at_offence roll_stray hcode⟩

end Tabletop.Formula
