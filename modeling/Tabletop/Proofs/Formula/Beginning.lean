import Tabletop.Proofs.Formula.Bounds
import Tabletop.Proofs.Formula.Joints

/-!
# Beginnings of formulas

`Begins` lists the ways in which a formula may be cut off, each with the parts that are complete before the cut.  Whatever
begins a formula can be finished within the bounds (`Begins.exists_derives`), and where reading breaks off, the text up to
the position of the fault is such a beginning, with the parts that the break keeps (`readPart_begins`).  What the fault says
about this text is listed by `Reports`; it is carried outwards from the term in which reading breaks off, over the operators
and the parentheses before it.
-/

namespace Tabletop.Formula

/-- The characters that a modifier starts with. -/
def modifierMarks : List Char := ['k', 'd', 'r', '!', 'e']

/-- `Begins room k s parts`: the text `s` begins a part of the kind `k`, with `parts` complete and groups of which `room`
may still be nested. -/
inductive Begins : Nat → Nonterminal → List Char → List Formula → Prop where
  | sign {room : Nat} (negative : Bool) : Begins room .factor (signText negative) []
  | letter {room : Nat} (negative : Bool) {count : Option Numeral} (hn : ∀ n ∈ count.toList, n.IsNumber)
      (hb : ∀ n ∈ count.toList, n.InBounds) :
      Begins room .factor (signText negative ++ count.elim [] Numeral.digits ++ ['d']) []
  | mark {room : Nat} {negative : Bool} {count : Option Numeral} {sides : Numeral} {ms : List Modifier} {c : Char}
      (hn : ∀ n ∈ WrittenDice.numerals ⟨negative, count, .sided sides ms⟩, n.IsNumber)
      (hb : ∀ n ∈ WrittenDice.numerals ⟨negative, count, .sided sides ms⟩, n.InBounds) (hc : c ∈ modifierMarks) :
      Begins room .factor (WrittenDice.text ⟨negative, count, .sided sides ms⟩ ++ [c]) []
  | opened {room : Nat} {s : List Char} {parts : List Formula} (h : Begins room .expression s parts) :
      Begins (room + 1) .factor ('(' :: s) parts
  | unclosed {room : Nat} {s : List Char} {f : Formula} (h : Derives .expression s f) (hf : Fits room f) :
      Begins (room + 1) .factor ('(' :: s) [f]
  | factor {room : Nat} {s : List Char} {parts : List Formula} (h : Begins room .factor s parts) :
      Begins room .product s parts
  | times {room : Nat} {s t : List Char} {l : Formula} {c : Char} {symbol : Symbol} {parts : List Formula}
      (hl : Derives .product s l) (hf : Fits room l) (hc : multiplicative? c = some symbol)
      (hr : Begins room .factor t parts) : Begins room .product (s ++ c :: t) (l :: parts)
  | product {room : Nat} {s : List Char} {parts : List Formula} (h : Begins room .product s parts) :
      Begins room .expression s parts
  | plus {room : Nat} {s t : List Char} {l : Formula} {c : Char} {symbol : Symbol} {parts : List Formula}
      (hl : Derives .expression s l) (hf : Fits room l) (hc : additive? c = some symbol)
      (hr : Begins room .product t parts) : Begins room .expression (s ++ c :: t) (l :: parts)

/-! ### Beginnings can be finished -/

/-- The number that finishes whatever asks for one. -/
private def one : Numeral := ⟨['1']⟩

private theorem isNumber_one : one.IsNumber := by
  refine ⟨by decide, ?_⟩
  intro c hc
  obtain rfl := List.mem_singleton.mp hc
  decide

private theorem inBounds_one : one.InBounds := by
  unfold Numeral.InBounds
  decide

private theorem exists_modifier_of_mark {c : Char} (hc : c ∈ modifierMarks) :
    ∃ m : Modifier, m.text = [c, '1'] ∧ m.numerals = [one] := by
  simp only [modifierMarks, List.mem_cons, List.not_mem_nil, or_false] at hc
  rcases hc with rfl | rfl | rfl | rfl | rfl
  · exact ⟨.keep one, rfl, rfl⟩
  · exact ⟨.drop one, rfl, rfl⟩
  · exact ⟨.reroll one, rfl, rfl⟩
  · exact ⟨.explode .bang (some one), rfl, rfl⟩
  · exact ⟨.explode .letter (some one), rfl, rfl⟩

private theorem fits_dice {room : Nat} {d : WrittenDice} (h : ∀ n ∈ d.numerals, n.InBounds) : Fits room (.dice d) :=
  ⟨h, Nat.zero_le _⟩

private theorem exists_derives_mark {room : Nat} {negative : Bool} {count : Option Numeral} {sides : Numeral}
    {ms : List Modifier} {c : Char} (hn : ∀ n ∈ WrittenDice.numerals ⟨negative, count, .sided sides ms⟩, n.IsNumber)
    (hb : ∀ n ∈ WrittenDice.numerals ⟨negative, count, .sided sides ms⟩, n.InBounds) (hc : c ∈ modifierMarks) :
    ∃ t f, Derives .factor (WrittenDice.text ⟨negative, count, .sided sides ms⟩ ++ [c] ++ t) f ∧ Fits room f := by
  obtain ⟨m, htext, hnumerals⟩ := exists_modifier_of_mark hc
  have hmore : WrittenDice.numerals ⟨negative, count, .sided sides (ms ++ [m])⟩ =
      WrittenDice.numerals ⟨negative, count, .sided sides ms⟩ ++ [one] := by
    simp [WrittenDice.numerals, WrittenKind.numerals, hnumerals]
  have hwhole : WrittenDice.text ⟨negative, count, .sided sides (ms ++ [m])⟩ =
      WrittenDice.text ⟨negative, count, .sided sides ms⟩ ++ [c] ++ ['1'] := by
    simp [WrittenDice.text, WrittenDice.countText, WrittenKind.text, htext]
  refine ⟨['1'], .dice ⟨negative, count, .sided sides (ms ++ [m])⟩, ?_, fits_dice ?_⟩
  · rw [← hwhole]
    refine .dice ?_
    rw [hmore]
    exact List.forall_mem_append.mpr ⟨hn, List.forall_mem_singleton.mpr isNumber_one⟩
  · rw [hmore]
    exact List.forall_mem_append.mpr ⟨hb, List.forall_mem_singleton.mpr inBounds_one⟩

theorem Begins.exists_derives {room : Nat} {k : Nonterminal} {s : List Char} {parts : List Formula}
    (h : Begins room k s parts) : ∃ t f, Derives k (s ++ t) f ∧ Fits room f := by
  induction h with
  | sign negative =>
    exact ⟨['1'], _, .literal negative isNumber_one, List.forall_mem_singleton.mpr inBounds_one, Nat.zero_le _⟩
  | @letter room negative count hn hb =>
    refine ⟨['1'], .dice ⟨negative, count, .sided one []⟩, ?_, fits_dice ?_⟩
    · have hdice := Derives.dice (d := ⟨negative, count, .sided one []⟩)
        (List.forall_mem_append.mpr ⟨hn, List.forall_mem_singleton.mpr isNumber_one⟩)
      rw [countText_eq] at hdice
      rw [List.append_assoc]
      exact hdice
    · exact List.forall_mem_append.mpr ⟨hb, List.forall_mem_singleton.mpr inBounds_one⟩
  | mark hn hb hc => exact exists_derives_mark hn hb hc
  | @opened room s parts h ih =>
    obtain ⟨t, f, hf, hfits⟩ := ih
    refine ⟨t ++ [')'], .group f, ?_, fits_group.mpr hfits⟩
    rw [List.cons_append, ← List.append_assoc]
    exact .group hf
  | @unclosed room s f h hf => exact ⟨[')'], .group f, .group h, fits_group.mpr hf⟩
  | factor h ih =>
    obtain ⟨t, f, hf, hfits⟩ := ih
    exact ⟨t, f, .factor hf, hfits⟩
  | @times room s t l c symbol parts hl hfits hc hr ih =>
    obtain ⟨t', r, hr, hr'⟩ := ih
    refine ⟨t', .binary symbol l r, ?_, fits_binary.mpr ⟨hfits, hr'⟩⟩
    rw [List.append_assoc, List.cons_append]
    exact .times hl hc hr
  | product h ih =>
    obtain ⟨t, f, hf, hfits⟩ := ih
    exact ⟨t, f, .product hf, hfits⟩
  | @plus room s t l c symbol parts hl hfits hc hr ih =>
    obtain ⟨t', r, hr, hr'⟩ := ih
    refine ⟨t', .binary symbol l r, ?_, fits_binary.mpr ⟨hfits, hr'⟩⟩
    rw [List.append_assoc, List.cons_append]
    exact .plus hl hc hr

/-! ### Where reading breaks off -/

/-- `Reports room start s c fault`: reading breaks off with the fault at the cursor `c`, behind the text `s` of a part that
starts at the place `start` and in which `room` groups may still be nested. -/
inductive Reports (room start : Nat) (s : List Char) (c : Cursor) : Fault → Prop where
  | term : Reports room start s c (.expectedNumberOrDice c.position)
  | sides : Reports room start s c (.missingDiceSides c.position)
  | modifierValue (letter : Char) : Reports room start s c (.missingModifierValue letter c.position)
  | number (hs : ¬EndsInDigit s) (hdigits : c.digits ≠ []) (hlarge : maxNumber < (Numeral.mk c.digits).value) :
      Reports room start s c (.numberTooLarge (Numeral.mk c.digits).value c.position)
  | nesting (hc : c.next? = some '(') (hdepth : ∀ outer, (openedFrom start outer s).length = outer.length + room) :
      Reports room start s c (.nestingTooDeep c.position)
  | closing {openedAt : Nat} (hinnermost : ∀ outer, (openedFrom start outer s).head? = some openedAt) :
      Reports room start s c (.missingClosingParenthesis openedAt c.position)

namespace Reports

variable {room start : Nat} {s t : List Char} {c : Cursor} {fault : Fault}

theorem position_eq (h : Reports room start s c fault) : fault.position = some c.position := by
  cases h <;> rfl

/-- Only behind a whole expression a character is unexpected. -/
theorem ne_unexpectedCharacter (h : Reports room start s c fault) (found : Char) (p : Nat) :
    fault ≠ .unexpectedCharacter found p := by
  rintro rfl
  cases h

/-- A group opens one more parenthesis. -/
theorem opened (h : Reports room (start + 1) s c fault) : Reports (room + 1) start ('(' :: s) c fault := by
  cases h with
  | term => exact .term
  | sides => exact .sides
  | modifierValue letter => exact .modifierValue letter
  | number hs hdigits hlarge =>
    exact .number (fun hends => hs (EndsInDigit.of_append_cons (s := []) hends (by decide))) hdigits hlarge
  | nesting hc hdepth =>
    refine .nesting hc fun outer => ?_
    rw [openedFrom_open, hdepth, List.length_cons]
    omega
  | closing hinnermost => exact .closing fun outer => hinnermost (start :: outer)

/-- What stands complete before an operator leaves no parenthesis open. -/
theorem behind {k : Nonterminal} {f : Formula} {d : Char} (hs : Derives k s f) (hd : IsOperator d)
    (h : Reports room (start + (s.length + 1)) t c fault) : Reports room start (s ++ d :: t) c fault := by
  have hopen : ∀ outer, openedFrom start outer (s ++ d :: t) = openedFrom (start + (s.length + 1)) outer t := by
    intro outer
    rw [openedFrom_append, hs.openedFrom_eq, openedFrom_cons_of_ne hd.2, Nat.add_assoc]
  cases h with
  | term => exact .term
  | sides => exact .sides
  | modifierValue letter => exact .modifierValue letter
  | number ht hdigits hlarge => exact .number (fun hends => ht (hends.of_append_cons hd.isDigit_eq_false)) hdigits hlarge
  | nesting hc hdepth => exact .nesting hc fun outer => hopen outer ▸ hdepth outer
  | closing hinnermost => exact .closing fun outer => hopen outer ▸ hinnermost outer

end Reports

/-- A term breaks off with the fault at the cursor, which does not stand within a number. -/
private def FailsAt (c : Cursor) (fault : Fault) : Prop :=
  ∀ room start s, ¬EndsInDigit s → Reports room start s c fault

private theorem digits_ne_nil {c : Cursor} (h : c.atDigit) : c.digits ≠ [] := by
  obtain ⟨position, rest⟩ := c
  cases rest with
  | nil => simp [Cursor.atDigit, Cursor.next?] at h
  | cons d rest =>
    simp only [Cursor.atDigit, Cursor.next?, List.head?_cons, Option.any_some] at h
    simp [Cursor.digits, h]

/-- Whoever reads a number has seen its first digit. -/
private theorem failsAt_of_numeral {c : Cursor} {fault : Fault} (hc : c.atDigit) (h : numeral c = .error fault) :
    FailsAt c fault := by
  intro room start s hs
  have hdigits := digits_ne_nil hc
  rcases numeral_eq_error h with ⟨hnil, -⟩ | ⟨hlarge, rfl⟩
  · exact absurd hnil hdigits
  · exact .number hs hdigits hlarge

private theorem failsAt_of_numeral? {c : Cursor} {fault : Fault} (h : numeral? c = .error fault) : FailsAt c fault := by
  unfold numeral? at h
  split at h
  · rename_i hc
    rcases cases_of_bind_eq_error h with h | ⟨r, -, h⟩
    · exact failsAt_of_numeral hc h
    · cases h
  · cases h

private theorem failsAt_of_modifierValue {c : Cursor} {letter : Char} {fault : Fault}
    (h : modifierValue letter c = .error fault) : FailsAt c fault := by
  unfold modifierValue at h
  split at h
  · rename_i hc
    exact failsAt_of_numeral hc h
  · cases h
    exact fun room start s hs => .modifierValue letter

/-- A modifier breaks off behind its mark. -/
private theorem failsAt_of_modifier? {c : Cursor} {fault : Fault} (h : modifier? c = .error fault) :
    ∃ d ∈ modifierMarks, c.next? = some d ∧ FailsAt c.skip fault := by
  unfold modifier? at h
  split at h
  case h_1 hc | h_2 hc | h_3 hc =>
    rcases cases_of_bind_eq_error h with h | ⟨r, -, h⟩
    · exact ⟨_, by decide, hc, failsAt_of_modifierValue h⟩
    · cases h
  case h_4 hc | h_5 hc =>
    rcases cases_of_bind_eq_error h with h | ⟨r, -, h⟩
    · exact ⟨_, by decide, hc, failsAt_of_numeral? h⟩
    · cases h
  case h_6 => cases h

/-- A row of modifiers breaks off behind the mark of one of them, with those before it read. -/
private structure BreaksAtMark (c : Cursor) (ms : List Modifier) (mark : Char) (c' : Cursor) : Prop where
  spans : c.Spans (ms.flatMap Modifier.text ++ [mark]) c'
  isMark : mark ∈ modifierMarks
  isNumber : ∀ n ∈ ms.flatMap Modifier.numerals, n.IsNumber
  inBounds : ∀ n ∈ ms.flatMap Modifier.numerals, n.InBounds

private theorem breaksAtMark_of_modifiersWithin {room : Nat} {c : Cursor} {fault : Fault}
    (h : modifiersWithin room c = .error fault) :
    ∃ ms mark c', BreaksAtMark c ms mark c' ∧ FailsAt c' fault := by
  induction room generalizing c with
  | zero => cases h
  | succ room ih =>
    rcases cases_of_bind_eq_error h with h | ⟨⟨m, c₁⟩, hm, h⟩
    · obtain ⟨mark, hmark, hc, hfails⟩ := failsAt_of_modifier? h
      exact ⟨[], mark, c.skip, ⟨Cursor.spans_skip hc, hmark, by simp, by simp⟩, hfails⟩
    · cases m with
      | none => cases h
      | some m =>
        rcases cases_of_bind_eq_error h with h | ⟨r, -, h⟩
        · obtain ⟨ms, mark, c', hms, hfails⟩ := ih h
          obtain ⟨hn, hs⟩ := modifier?_sound hm
          have hb := modifier?_inBounds hm
          refine ⟨m :: ms, mark, c', ⟨?_, hms.isMark, ?_, ?_⟩, hfails⟩
          · rw [List.flatMap_cons, List.append_assoc]
            exact hs.trans hms.spans
          · rw [List.flatMap_cons]
            exact List.forall_mem_append.mpr ⟨by simpa using hn, hms.isNumber⟩
          · rw [List.flatMap_cons]
            exact List.forall_mem_append.mpr ⟨by simpa using hb, hms.inBounds⟩
        · cases h

/-- What follows the letter of a dice term breaks off at once or in a row of modifiers. -/
private theorem failsAt_of_kind {c : Cursor} {fault : Fault} (h : kind c = .error fault) :
    FailsAt c fault ∨
      ∃ (sides : Numeral) (c₁ : Cursor) (ms : List Modifier) (mark : Char) (c' : Cursor), sides.IsNumber ∧
        sides.InBounds ∧ c.Spans sides.digits c₁ ∧ BreaksAtMark c₁ ms mark c' ∧ FailsAt c' fault := by
  unfold kind at h
  split at h
  case h_1 => cases h
  case h_2 => cases h
  case h_3 =>
    split at h
    · rename_i hc
      rcases cases_of_bind_eq_error h with h | ⟨⟨sides, c₁⟩, hsides, h⟩
      · exact .inl (failsAt_of_numeral hc h)
      · rcases cases_of_bind_eq_error h with h | ⟨r, -, h⟩
        · obtain ⟨ms, mark, c', hms, hfails⟩ := breaksAtMark_of_modifiersWithin h
          obtain ⟨hn, hs⟩ := numeral_sound hsides
          exact .inr ⟨sides, c₁, ms, mark, c', hn, numeral_inBounds hsides, hs, hms, hfails⟩
        · cases h
    · cases h
      exact .inl fun room start s hs => .sides

private theorem not_endsInDigit_signText (negative : Bool) : ¬EndsInDigit (signText negative) := by
  rintro ⟨c, hc, hdigit⟩
  obtain rfl := eq_minus_of_mem_signText (List.mem_of_getLast? hc)
  cases hdigit

private theorem isDigit_of_mem_modifierMarks {c : Char} (h : c ∈ modifierMarks) : c.isDigit = false := by
  have hall : (modifierMarks.all fun c => !c.isDigit) = true := by decide
  simpa using List.all_eq_true.mp hall c h

private theorem term_begins {room : Nat} {c : Cursor} {fault : Fault} (h : term c = .error fault) :
    ∃ s c', c.Spans s c' ∧ Reports room c.position s c' fault ∧ Begins room .factor s [] := by
  have hsign := spans_sign c
  unfold term at h
  rcases cases_of_bind_eq_error h with h | ⟨⟨count, c₁⟩, hcount, h⟩
  · exact ⟨_, _, hsign, failsAt_of_numeral? h _ _ _ (not_endsInDigit_signText _), .sign _⟩
  · obtain ⟨hn, hs⟩ := numeral?_sound hcount
    have hb := numeral?_inBounds hcount
    dsimp only at h
    split at h
    · rename_i hd
      have hletter : c₁.Spans ['d'] c₁.skip := Cursor.spans_skip (by simpa using hd)
      have hstart := (hsign.trans hs).trans hletter
      rcases cases_of_bind_eq_error h with h | ⟨r, -, h⟩
      · rcases failsAt_of_kind h with hfails | ⟨sides, c₂, ms, mark, c', hsides, hsides', hs', hms, hfails⟩
        · exact ⟨_, _, hstart, hfails _ _ _ (not_endsInDigit_concat (by decide)), .letter _ hn hb⟩
        · have hnumbers := List.forall_mem_append.mpr ⟨hn, List.forall_mem_cons.mpr ⟨hsides, hms.isNumber⟩⟩
          have hbounds := List.forall_mem_append.mpr ⟨hb, List.forall_mem_cons.mpr ⟨hsides', hms.inBounds⟩⟩
          have hwhole : c.Spans (WrittenDice.text ⟨c.next? == some '-', count, .sided sides ms⟩ ++ [mark]) c' := by
            unfold WrittenDice.text WrittenKind.text
            rw [countText_eq]
            simpa using hstart.trans (hs'.trans hms.spans)
          have hend := not_endsInDigit_concat (isDigit_of_mem_modifierMarks hms.isMark)
            (s := WrittenDice.text ⟨c.next? == some '-', count, .sided sides ms⟩)
          exact ⟨_, c', hwhole, hfails _ _ _ hend, .mark hnumbers hbounds hms.isMark⟩
      · cases h
    · -- A minus that nothing follows is no part of what was taken.
      cases count with
      | none =>
        cases h
        exact ⟨[], c, .refl c, .term, .sign false⟩
      | some n => cases h

/-- Where `read` breaks off, the text up to the fault begins a part of the kind `k`, and the fault says what is wrong there. -/
def BreaksOff (room : Nat) (k : Nonterminal) (read : Cursor → Reading Formula) : Prop :=
  ∀ ⦃c : Cursor⦄ ⦃b : Break⦄, read c = .error b →
    ∃ s c', c.Spans s c' ∧ Reports room c.position s c' b.fault ∧ Begins room k s b.completed

/-- Parts of the kind `k` are rows of parts of the kind `k'`, and are cut off in their last one. -/
private structure Rows (k k' : Nonterminal) (symbol? : Char → Option Symbol) : Prop where
  one : ∀ {s f}, Derives k' s f → Derives k s f
  more : ∀ {s t l r d symbol}, Derives k s l → symbol? d = some symbol → Derives k' t r →
    Derives k (s ++ d :: t) (.binary symbol l r)
  cut : ∀ {room s parts}, Begins room k' s parts → Begins room k s parts
  cutMore : ∀ {room s t l d symbol parts}, Derives k s l → Fits room l → symbol? d = some symbol →
    Begins room k' t parts → Begins room k (s ++ d :: t) (l :: parts)
  operator : ∀ {d symbol}, symbol? d = some symbol → IsOperator d

section

variable {room : Nat} {k k' : Nonterminal} {symbol? : Char → Option Symbol} {operand : Cursor → Reading Formula}

private theorem joinWithin_begins (hrows : Rows k k' symbol?) (hsound : Sound k' operand) (hfits : Fitting room operand)
    (hoperand : BreaksOff room k' operand) {steps : Nat} {start c : Cursor} {left : Formula} {s : List Char} {b : Break}
    (hleft : Derives k s left) (hleft' : Fits room left) (hspan : start.Spans s c)
    (h : joinWithin symbol? operand steps left c = .error b) :
    ∃ t c', start.Spans t c' ∧ Reports room start.position t c' b.fault ∧ Begins room k t b.completed := by
  induction steps generalizing left c s with
  | zero => cases h
  | succ steps ih =>
    unfold joinWithin at h
    split at h
    · cases h
    · rename_i symbol hsymbol
      obtain ⟨d, hd, hsymbol⟩ := Option.bind_eq_some_iff.mp hsymbol
      have hd' := Cursor.spans_skip hd
      split at h
      · rename_i b' hright
        cases h
        obtain ⟨t, c', ht, hreports, hbegins⟩ := hoperand hright
        rw [(hspan.trans hd').position, List.length_append, List.length_singleton] at hreports
        exact ⟨_, c', hspan.trans (hd'.trans ht), hreports.behind hleft (hrows.operator hsymbol),
          hrows.cutMore hleft hleft' hsymbol hbegins⟩
      · rename_i right c₁ hright
        obtain ⟨t, ht, hspan'⟩ := hsound hright
        have hjoined : Fits room (.binary symbol left right) := fits_binary.mpr ⟨hleft', hfits hright⟩
        exact ih (hrows.more hleft hsymbol ht) hjoined (hspan.trans (hd'.trans hspan')) h

private theorem chain_begins (hrows : Rows k k' symbol?) (hsound : Sound k' operand) (hfits : Fitting room operand)
    (hoperand : BreaksOff room k' operand) : BreaksOff room k (chain symbol? operand) := by
  intro c b h
  unfold chain at h
  split at h
  · rename_i b' hread
    cases h
    obtain ⟨s, c', hs, hreports, hbegins⟩ := hoperand hread
    exact ⟨s, c', hs, hreports, hrows.cut hbegins⟩
  · rename_i first c₁ hread
    obtain ⟨s, hs, hspan⟩ := hsound hread
    exact joinWithin_begins hrows hsound hfits hoperand (hrows.one hs) (hfits hread) hspan h

end

private theorem factor_begins {room : Nat} (h : ∀ read ∈ inner room, BreaksOff (room - 1) .expression read) :
    BreaksOff room .factor (readPart room .factor) := by
  intro c b hread
  by_cases hopen : c.next? = some '('
  · have hskip := Cursor.spans_skip hopen
    cases room with
    | zero =>
      simp only [readPart, factor, inner, hopen, if_true] at hread
      cases hread
      exact ⟨[], c, .refl c, .nesting hopen fun outer => rfl, .sign false⟩
    | succ room =>
      simp only [readPart, factor, inner, hopen, if_true] at hread
      split at hread
      · rename_i b' hinside
        cases hread
        obtain ⟨s, c', hs, hreports, hbegins⟩ := h _ rfl hinside
        exact ⟨_, c', hskip.trans hs, hreports.opened, .opened hbegins⟩
      · rename_i f c' hinside
        split at hread
        · cases hread
        · cases hread
          rw [expression_eq_readPart] at hinside
          obtain ⟨s, hs, hspan⟩ := readPart_sound _ _ hinside
          have hfits := readPart_fits _ _ hinside
          refine ⟨_, c', hskip.trans hspan, .closing fun outer => ?_, .unclosed hs hfits⟩
          rw [List.singleton_append, openedFrom_open, hs.openedFrom_eq]
          rfl
  · simp only [readPart, factor, hopen, if_false] at hread
    cases hterm : term c with
    | error fault =>
      rw [hterm] at hread
      cases hread
      exact term_begins hterm
    | ok r =>
      rw [hterm] at hread
      cases hread

theorem readPart_begins (room : Nat) (k : Nonterminal) : BreaksOff room k (readPart room k) :=
  readPart_induction (P := BreaksOff) (fun _ hinner => factor_begins hinner)
    (fun room hfactor => chain_begins ⟨.factor, .times, .factor, .times, isOperator_of_multiplicative?⟩
      (readPart_sound room .factor) (readPart_fits room .factor) hfactor)
    (fun room hproduct => chain_begins ⟨.product, .plus, .product, .plus, isOperator_of_additive?⟩
      (readPart_sound room .product) (readPart_fits room .product) hproduct) room k

/-! ### Whole texts -/

/-- Sentences are the formulas within the bounds on numbers and nesting; other bounds are no matter of the syntax. -/
def IsSentence (text : List Char) : Prop := ∃ f, Derives .expression text f ∧ Fits maxNesting f

/-- What was read up to a fault, with the parts that are complete: the beginning of a sentence, or a whole one. -/
inductive Reached : List Char → List Formula → Prop where
  | beginning {s : List Char} {parts : List Formula} (h : Begins maxNesting .expression s parts) : Reached s parts
  | whole {s : List Char} {f : Formula} (h : Derives .expression s f) (hf : Fits maxNesting f) : Reached s [f]

theorem Reached.exists_sentence {s : List Char} {parts : List Formula} (h : Reached s parts) :
    ∃ more, IsSentence (s ++ more) := by
  cases h with
  | beginning h => exact h.exists_derives
  | whole h hf => exact ⟨[], _, by simpa using h, hf⟩

/-- A text is refused for its length, or where the expression breaks off, or for what stands behind the expression. -/
theorem cases_of_read_error {text : List Char} {b : Break} (h : read text = .error b) :
    (b.completed = [] ∧ b.fault.position = none) ∨
      text.length ≤ maxLength ∧
        (expression maxNesting (.start text) = .error b ∨
          ∃ f c found, expression maxNesting (.start text) = .ok (f, c) ∧ c.next? = some found ∧
            b = ⟨[f], .unexpectedCharacter found c.position⟩) := by
  unfold read at h
  split at h
  · cases h
    exact .inl ⟨rfl, rfl⟩
  · split at h
    · cases h
      exact .inl ⟨rfl, rfl⟩
    · rename_i hlength
      refine .inr ⟨Nat.le_of_not_lt hlength, ?_⟩
      split at h
      · rename_i b' hread
        cases h
        exact .inl hread
      · rename_i f c hread
        split at h
        · cases h
        · rename_i found hfound
          cases h
          exact .inr ⟨f, c, found, hread, hfound, rfl⟩

theorem length_of_spans_start {text s : List Char} {c : Cursor} (h : (Cursor.start text).Spans s c) :
    s <+: text ∧ s.length = c.position := by
  refine ⟨⟨c.rest, h.rest.symm⟩, ?_⟩
  rw [h.position]
  exact (Nat.zero_add _).symm

/-- The parts of a break are those of the text up to the position of the fault. -/
theorem reached_of_read_error {text : List Char} {b : Break} (h : read text = .error b) :
    ∃ s, s <+: text ∧ Reached s b.completed ∧ s.length = b.fault.position.getD 0 := by
  rcases cases_of_read_error h with ⟨hparts, hposition⟩ | ⟨-, hread | ⟨f, c, found, hread, -, rfl⟩⟩
  · rw [hparts, hposition]
    exact ⟨[], List.nil_prefix, .beginning (.product (.factor (.sign false))), rfl⟩
  · rw [expression_eq_readPart] at hread
    obtain ⟨s, c', hs, hreports, hbegins⟩ := readPart_begins _ _ hread
    obtain ⟨hbegin, hlength⟩ := length_of_spans_start hs
    rw [hreports.position_eq]
    exact ⟨s, hbegin, .beginning hbegins, hlength⟩
  · rw [expression_eq_readPart] at hread
    obtain ⟨s, hs, hspan⟩ := readPart_sound _ _ hread
    obtain ⟨hbegin, hlength⟩ := length_of_spans_start hspan
    exact ⟨s, hbegin, .whole hs (readPart_fits _ _ hread), hlength⟩

end Tabletop.Formula
