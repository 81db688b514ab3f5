import Tabletop.Proofs.Formula.Faults
import Tabletop.Proofs.Text.Lowercase

/-!
# Texts in normal form

A text is its own normal form just when all its characters are in lower case and none is a blank (`normalize_eq_self_iff`), and
every normal form is such a text.  Rolling looks at nothing else, so a text and its normal form are rolled alike; the
positions of both are places in the normal form (`roll_normalized`).
-/

namespace Tabletop

/-! ### Positions -/

/-- The codes of the faults that miss something; it may be missing where the text ends. -/
def missingCodes : List String :=
  ["EXPECTED_NUMBER_OR_DICE", "MISSING_DICE_SIDES", "MISSING_MODIFIER_VALUE", "MISSING_CLOSING_PARENTHESIS"]

/-- The position is the index of a character, or that of the end where something is missing there. -/
def Fault.PointsInto (text : List Char) (fault : Fault) : Prop :=
  ∀ p ∈ fault.position, (∃ c, text[p]? = some c) ∨ p = text.length ∧ fault.code ∈ missingCodes

theorem TooLargeAt.lt_length {text run : List Char} {p : Nat} (h : TooLargeAt text p run) : p < text.length := by
  obtain ⟨before, after, htext, hlength, -, -⟩ := h.maximal
  have hrun : 0 < run.length := List.length_pos_iff.mpr h.ne_nil
  rw [htext, List.length_append, List.length_append]
  omega

namespace Fault.Documented

variable {text : List Char} {fault : Fault}

/-- Whoever misses nothing has found something. -/
theorem lt_length (h : fault.Documented text) (hcode : fault.code ∉ missingCodes) {p : Nat} (hp : fault.position = some p) :
    p < text.length := by
  cases fault with
  | unexpectedCharacter found q =>
    obtain ⟨p', c, hp', hc, -⟩ := h.unexpected rfl
    obtain rfl := Option.some.inj (hp.symm.trans hp')
    exact (List.getElem?_eq_some_iff.mp hc).1
  | nestingTooDeep q =>
    obtain ⟨p', hp', hc, -⟩ := h.nesting rfl
    obtain rfl := Option.some.inj (hp.symm.trans hp')
    exact (List.getElem?_eq_some_iff.mp hc).1
  | numberTooLarge value q =>
    obtain ⟨p', run, hp', hrun, -⟩ := h.number rfl
    obtain rfl := Option.some.inj (hp.symm.trans hp')
    exact hrun.lt_length
  | expectedNumber q => exact absurd rfl h.code_ne
  | expectedNumberOrDice | missingDiceSides | missingModifierValue | missingClosingParenthesis =>
    exact absurd (by simp [code, missingCodes]) hcode
  | _ => cases hp

theorem pointsInto (h : fault.Documented text) : fault.PointsInto text := by
  intro p hp
  rcases Nat.lt_or_eq_of_le (h.position_le p hp) with hlt | hend
  · exact .inl ⟨text[p], List.getElem?_eq_getElem hlt⟩
  · refine .inr ⟨hend, ?_⟩
    by_contra hcode
    exact absurd (h.lt_length hcode hp) (by omega)

end Fault.Documented

namespace Formula

/-! ### Normal forms -/

theorem lowers_self_iff {c : Char} : Lowers c c ↔ Text.IsLower c ∧ Text.isBlank c = false := by
  constructor
  · rintro ⟨hlower, hdotted, -, hshown⟩
    exact ⟨⟨hlower, hdotted⟩, hshown⟩
  · rintro ⟨hlower, hshown⟩
    exact ⟨hlower.lowerChar_eq, hlower.ne_dotted, hlower.ne_sigma, hshown⟩

theorem isBlank_of_mem_normalize {text : String} {c : Char} (h : c ∈ normalize text) : Text.isBlank c = false := by
  simpa using (List.mem_filter.mp h).2

theorem isLower_of_mem_normalize {text : String} {c : Char} (h : c ∈ normalize text) : Text.IsLower c :=
  Text.isLower_of_mem_lowercase (List.mem_filter.mp h).1

theorem normalize_eq_self_iff {s : List Char} :
    normalize (String.ofList s) = s ↔ ∀ c ∈ s, Text.IsLower c ∧ Text.isBlank c = false := by
  constructor
  · intro h c hc
    rw [← h] at hc
    exact ⟨isLower_of_mem_normalize hc, isBlank_of_mem_normalize hc⟩
  · intro h
    exact normalize_eq_self fun c hc => lowers_self_iff.mpr (h c hc)

/-- The second time there is no `İ` left that could grow and no capital sigma that could look around. -/
theorem normalize_normalize (text : String) : normalize (String.ofList (normalize text)) = normalize text :=
  normalize_eq_self_iff.mpr fun _ hc => ⟨isLower_of_mem_normalize hc, isBlank_of_mem_normalize hc⟩

variable {σ : Type} [RandomSource σ]

/-- A normal form has no blanks and is its own normal form.  From any source it is rolled like the text itself, with the
same outcome or the same fault, whose position points into the normal form. -/
theorem roll_normalized (text : String) (source : σ) :
    (∀ c ∈ normalize text, Text.isBlank c = false) ∧ normalize (String.ofList (normalize text)) = normalize text ∧
      (roll (String.ofList (normalize text))).run.run source = (roll text).run.run source ∧
      ∀ fault source', (roll text).run.run source = (Except.error fault, source') → fault.PointsInto (normalize text) := by
  refine ⟨fun c hc => isBlank_of_mem_normalize hc, normalize_normalize text, ?_, ?_⟩
  · unfold roll
    rw [normalize_normalize]
  · intro fault source' h p hp
    obtain ⟨parts, hread, -⟩ := read_of_roll_error h hp
    exact (documented_of_read_error hread).pointsInto p hp

private theorem roll_dotted :
    (roll "2D6 +\u3000İΣ").run.run (Script.ofFaces [3, 4]) =
      (Except.error (.expectedNumberOrDice 4), ⟨[3, 4], []⟩) := by
  show @Eq (Except Fault Outcome × Script) _ _
  decide +kernel

/-- The fault points at what `İ` has become, two places before the `İ` of the text; the sigma, once final, stays so. -/
theorem roll_normalized_dotted :
    normalize "2D6 +\u3000İΣ" = ['2', 'd', '6', '+', 'i', '\u0307', 'ς'] ∧ 'ς' ∈ normalize "2D6 +\u3000İΣ" ∧
      (roll "2D6 +\u3000İΣ").run.run (Script.ofFaces [3, 4]) =
        (Except.error (.expectedNumberOrDice 4), ⟨[3, 4], []⟩) ∧
      Text.isBlank 'ς' = false ∧
      normalize (String.ofList (normalize "2D6 +\u3000İΣ")) = normalize "2D6 +\u3000İΣ" ∧
      (roll (String.ofList (normalize "2D6 +\u3000İΣ"))).run.run (Script.ofFaces [3, 4]) =
        (roll "2D6 +\u3000İΣ").run.run (Script.ofFaces [3, 4]) ∧
      (Fault.expectedNumberOrDice 4).PointsInto (normalize "2D6 +\u3000İΣ") := by
  have hmem : 'ς' ∈ normalize "2D6 +\u3000İΣ" := by decide +kernel
  obtain ⟨hshown, hsame, hroll, hpoints⟩ := roll_normalized "2D6 +\u3000İΣ" (Script.ofFaces [3, 4])
  exact ⟨by decide +kernel, hmem, roll_dotted, hshown 'ς' hmem, hsame, hroll, hpoints _ _ roll_dotted⟩

end Formula

end Tabletop
