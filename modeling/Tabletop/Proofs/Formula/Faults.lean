import Tabletop.Proofs.Formula.Offence
import Tabletop.Proofs.Formula.Ranges
import Tabletop.Proofs.Formula.Totals

/-!
# What a fault says

A roll comes to an outcome or to a fault, and a fault says the truth about the text (`Fault.Documented`): where it points, what
stands there, how many parentheses are open before it and where the innermost of them stands.  A fault with a position is that
of the reading, so all of this follows from `Reports`, what the reader knows where it breaks off (`roll_is_documented`).
-/

namespace Tabletop

/-- The codes of the faults that belong to no character. -/
def wholeCodes : List String :=
  ["EMPTY_EXPRESSION", "EXPRESSION_TOO_LONG", "DICE_COUNT_OUT_OF_RANGE", "DICE_SIDES_OUT_OF_RANGE",
    "OUTCOME_SPACE_TOO_LARGE", "RESULT_TOO_LARGE"]

/-- The longest row of digits around a place, which starts there, is a number that is too large. -/
structure TooLargeAt (text : List Char) (p : Nat) (run : List Char) : Prop where
  ne_nil : run ≠ []
  isDigit : ∀ c ∈ run, c.isDigit
  maximal : ∃ before after, text = before ++ run ++ after ∧ before.length = p ∧ ¬EndsInDigit before ∧ Formula.NoDigit after
  large : maxNumber < (Numeral.mk run).value

/-- The fault is one of those that may be raised for the text, and what it says about the text is true. -/
structure Fault.Documented (text : List Char) (fault : Fault) : Prop where
  /-- Whoever reads a number has seen a digit. -/
  code_ne : fault.code ≠ "EXPECTED_NUMBER"
  position_eq_none_iff : fault.position = none ↔ fault.code ∈ wholeCodes
  position_le : ∀ p ∈ fault.position, p ≤ text.length
  unexpected : fault.code = "UNEXPECTED_CHARACTER" →
    ∃ p c, fault.position = some p ∧ text[p]? = some c ∧ fault.detail = s!"Unexpected character '{c}'"
  nesting : fault.code = "NESTING_TOO_DEEP" →
    ∃ p, fault.position = some p ∧ text[p]? = some '(' ∧ (Formula.unclosed (text.take p)).length = maxNesting
  number : fault.code = "NUMBER_TOO_LARGE" →
    ∃ p run, fault.position = some p ∧ TooLargeAt text p run ∧
      fault.detail = s!"Number {(Numeral.mk run).value} exceeds the limit of {maxNumber}"
  closing : fault.code = "MISSING_CLOSING_PARENTHESIS" →
    ∃ p q, fault.position = some p ∧ (Formula.unclosed (text.take p)).head? = some q ∧
      fault.detail = s!"Expected ')' to close '(' opened at position {q}"

namespace Fault.Documented

variable {text : List Char} {fault : Fault}

/-- Without a position nothing is said about a place in the text. -/
theorem of_position_eq_none (h : fault.position = none) : fault.Documented text := by
  cases fault with
  | emptyExpression | expressionTooLong | diceCountOutOfRange | diceSidesOutOfRange | outcomeSpaceTooLarge
  | resultTooLarge => constructor <;> simp [code, position, wholeCodes]
  | _ => cases h

end Fault.Documented

namespace Formula

variable {text s : List Char} {c : Cursor} {fault : Fault}

/-- What stands before a cursor is what it has passed. -/
private theorem take_position (hs : (Cursor.start text).Spans s c) : text.take c.position = s := by
  obtain ⟨hbegin, hlength⟩ := length_of_spans_start hs
  rw [← hlength]
  exact (List.prefix_iff_eq_take.mp hbegin).symm

private theorem getElem?_position (hs : (Cursor.start text).Spans s c) : text[c.position]? = c.next? := by
  have hrest : text = s ++ c.rest := hs.rest
  rw [← (length_of_spans_start hs).2, hrest, List.getElem?_append_right (Nat.le_refl _), Nat.sub_self]
  exact List.head?_eq_getElem?.symm

private theorem position_le_length (hs : (Cursor.start text).Spans s c) : c.position ≤ text.length := by
  obtain ⟨hbegin, hlength⟩ := length_of_spans_start hs
  rw [← hlength]
  exact hbegin.length_le

private theorem documented_of_reports (h : Reports maxNesting 0 s c fault) (hs : (Cursor.start text).Spans s c) :
    fault.Documented text := by
  have hle := position_le_length hs
  -- Each report is about one code, so what is said of the other codes does not apply.
  cases h with
  | term | sides | modifierValue => constructor <;> simp [Fault.code, Fault.position, wholeCodes, hle]
  | number hends hdigits hlarge =>
    have hsplit : text = s ++ c.digits ++ c.skipDigits.rest := by
      rw [List.append_assoc, Cursor.digits_append]
      exact hs.rest
    have hafter : NoDigit c.skipDigits.rest := by
      intro d hd
      have hend := c.atDigit_skipDigits
      rw [Cursor.atDigit, Cursor.next?, Option.mem_def.mp hd] at hend
      exact hend
    constructor
    case number =>
      have hrun : TooLargeAt text c.position c.digits :=
        ⟨hdigits, fun d hd => Cursor.isDigit_of_mem_digits hd,
          ⟨s, _, hsplit, (length_of_spans_start hs).2, hends, hafter⟩, hlarge⟩
      exact fun _ => ⟨c.position, c.digits, rfl, hrun, rfl⟩
    all_goals simp [Fault.code, Fault.position, wholeCodes, hle]
  | nesting hc hdepth =>
    have hopen : (unclosed (text.take c.position)).length = maxNesting := by
      rw [take_position hs, unclosed, hdepth, List.length_nil, Nat.zero_add]
    constructor
    case nesting => exact fun _ => ⟨c.position, rfl, (getElem?_position hs).trans hc, hopen⟩
    all_goals simp [Fault.code, Fault.position, wholeCodes, hle]
  | @closing openedAt hinnermost =>
    have hopen : (unclosed (text.take c.position)).head? = some openedAt := by
      rw [take_position hs, unclosed, hinnermost]
    constructor
    case closing => exact fun _ => ⟨c.position, openedAt, rfl, hopen, rfl⟩
    all_goals simp [Fault.code, Fault.position, wholeCodes, hle]

theorem documented_of_read_error {b : Break} (h : read text = .error b) : b.fault.Documented text := by
  rcases cases_of_read_error h with ⟨-, hposition⟩ | ⟨-, hread | ⟨f, c, found, hread, hfound, rfl⟩⟩
  · exact .of_position_eq_none hposition
  · rw [expression_eq_readPart] at hread
    obtain ⟨s, c, hs, hreports, -⟩ := readPart_begins _ _ hread
    exact documented_of_reports hreports hs
  · rw [expression_eq_readPart] at hread
    obtain ⟨s, -, hspan⟩ := readPart_sound _ _ hread
    have hle := position_le_length hspan
    constructor
    case unexpected => exact fun _ => ⟨c.position, found, rfl, (getElem?_position hspan).trans hfound, rfl⟩
    all_goals simp [Fault.code, Fault.position, wholeCodes, hle]

variable {σ : Type} [RandomSource σ]

/-- Nothing but a fault can stop the roll: every face that is asked for can be given, and every total that is built on the way
is short enough to be written. -/
structure Unhindered (text : List Char) (source source' : σ) : Prop where
  draws : Draws source source'
  totals : ∀ done rest, plan text = done ++ rest → ∀ (stack : List Outcome) (s : σ),
    (StackStep.runAll done []).run.run source = (.ok stack, s) → ∀ o ∈ stack, o.IsReadable

/-- With a fair source every roll comes to an outcome or to a fault that is documented, and to nothing else. -/
theorem roll_is_documented (hfair : RandomSource.IsFair σ) (text : String) (source : σ) :
    ∃ result source', (roll text).run.run source = (result, source') ∧ Unhindered (normalize text) source source' ∧
      ((∃ o, result = .ok o) ∨ ∃ fault, result = .error fault ∧ fault.Documented (normalize text)) := by
  have hdraws := draws_roll hfair text source
  rcases h : (roll text).run.run source with ⟨result, source'⟩
  rw [h] at hdraws
  refine ⟨result, source', rfl, ⟨hdraws, fun done rest hplan stack s hrun o ho => ?_⟩, ?_⟩
  · exact (isShort_of_plan hfair hplan hrun o ho).isReadable
  · cases result with
    | ok o => exact .inl ⟨o, rfl⟩
    | error fault =>
      refine .inr ⟨fault, rfl, ?_⟩
      cases hposition : fault.position with
      | none => exact .of_position_eq_none hposition
      | some p =>
        obtain ⟨parts, hread, -⟩ := read_of_roll_error h hposition
        exact documented_of_read_error hread

private theorem roll_unclosed :
    (roll "(2d6+(1)").run.run (Script.ofFaces [3, 4]) =
      (Except.error (.missingClosingParenthesis 0 8), ⟨[3, 4], []⟩) := by
  show @Eq (Except Fault Outcome × Script) _ _
  decide +kernel

theorem roll_is_documented_unclosed :
    RandomSource.IsFair Script ∧
      (roll "(2d6+(1)").run.run (Script.ofFaces [3, 4]) =
        (Except.error (.missingClosingParenthesis 0 8), ⟨[3, 4], []⟩) ∧
      ∃ result source', (roll "(2d6+(1)").run.run (Script.ofFaces [3, 4]) = (result, source') ∧
        Unhindered (normalize "(2d6+(1)") (Script.ofFaces [3, 4]) source' ∧
        ((∃ o, result = .ok o) ∨
          ∃ fault, result = .error fault ∧ fault.Documented (normalize "(2d6+(1)")) :=
  ⟨Script.isFair, roll_unclosed, roll_is_documented Script.isFair "(2d6+(1)" (Script.ofFaces [3, 4])⟩

end Formula

end Tabletop
