import Tabletop.Proofs.Formula.Offence

/-!
# Characters that stray into a formula

Characters that no formula is written with are all the same to the reader: it stops at the first of them.  An `Exchange`
puts other such characters in their place; every function of the reader then does the same as before (`Spares`), so the
text is read as before, and a fault at most quotes another character (`read_exchange`).
-/

namespace Tabletop

open Formula (formulaChars)

/-- Characters that formulas are written with stay, all others become others of their kind. -/
structure Exchange where
  map : Char → Char
  fixed : ∀ c ∈ formulaChars, map c = c
  strays : ∀ c, map c ∈ formulaChars → c ∈ formulaChars

/-- The fault with the quoted character exchanged. -/
def Fault.exchange (e : Exchange) : Fault → Fault
  | unexpectedCharacter found p => unexpectedCharacter (e.map found) p
  | fault => fault

def Break.exchange (e : Exchange) (b : Break) : Break := { b with fault := b.fault.exchange e }

namespace Cursor

def exchange (e : Exchange) (c : Cursor) : Cursor := ⟨c.position, c.rest.map e.map⟩

variable (e : Exchange) (c : Cursor)

@[simp] theorem position_exchange : (c.exchange e).position = c.position := rfl

@[simp] theorem length_exchange : (c.exchange e).rest.length = c.rest.length := List.length_map _

@[simp] theorem next?_exchange : (c.exchange e).next? = c.next?.map e.map := List.head?_map

@[simp] theorem skip_exchange : (c.exchange e).skip = c.skip.exchange e := by
  unfold skip exchange
  rw [List.map_tail]

end Cursor

namespace Exchange

variable (e : Exchange)

private theorem mem_formulaChars_of_isDigit {c : Char} (h : c.isDigit) : c ∈ formulaChars := by
  have hnumber : (⟨[c]⟩ : Numeral).IsNumber := ⟨by simp, by simpa using h⟩
  exact List.mem_append_left _ (Formula.digits_subset_smallChars hnumber (by simp))

theorem isDigit_map (c : Char) : (e.map c).isDigit = c.isDigit := by
  by_cases hc : c ∈ formulaChars
  · rw [e.fixed c hc]
  · have hstray : ¬(e.map c).isDigit := fun h => hc (e.strays c (mem_formulaChars_of_isDigit h))
    have hself : ¬c.isDigit := fun h => hc (mem_formulaChars_of_isDigit h)
    simp [hstray, hself]

private theorem isDigit_comp : Char.isDigit ∘ e.map = Char.isDigit := funext e.isDigit_map

@[simp] theorem digits_exchange (c : Cursor) : (c.exchange e).digits = c.digits := by
  unfold Cursor.digits Cursor.exchange
  rw [List.takeWhile_map, isDigit_comp]
  -- What is taken are digits, and these are not exchanged.
  conv_rhs => rw [← List.map_id (c.rest.takeWhile Char.isDigit)]
  refine List.map_congr_left fun d hd => e.fixed d ?_
  exact mem_formulaChars_of_isDigit (List.all_eq_true.mp List.all_takeWhile d hd)

@[simp] theorem skipDigits_exchange (c : Cursor) : (c.exchange e).skipDigits = c.skipDigits.exchange e := by
  unfold Cursor.skipDigits
  rw [digits_exchange]
  unfold Cursor.exchange
  rw [List.dropWhile_map, isDigit_comp]

@[simp] theorem atDigit_exchange (c : Cursor) : (c.exchange e).atDigit = c.atDigit := by
  unfold Cursor.atDigit
  rw [Cursor.next?_exchange, Option.any_map]
  exact congrArg (fun p => c.next?.any p) e.isDigit_comp

/-! ### Rules -/

/-- The reading does the same after the exchange. -/
def Spares {ε α : Type} (read : Cursor → Except ε (α × Cursor)) : Prop :=
  ∀ c, read (c.exchange e) = (read c).map fun r => (r.1, r.2.exchange e)

variable {e} {ε α β : Type}

theorem Spares.ok (a : α) : e.Spares (ε := ε) fun c => .ok (a, c) := fun _ => rfl

theorem Spares.skip {read : Cursor → Except ε (α × Cursor)} (h : e.Spares read) : e.Spares fun c => read c.skip := by
  intro c
  show read (c.exchange e).skip = _
  rw [Cursor.skip_exchange]
  exact h c.skip

theorem Spares.bind {read : Cursor → Except ε (α × Cursor)} {next : α × Cursor → Except ε (β × Cursor)}
    (h : e.Spares read) (hnext : ∀ a, e.Spares fun c => next (a, c)) : e.Spares fun c => read c >>= next := by
  intro c
  show (read (c.exchange e) >>= next) = (read c >>= next).map _
  rw [h c]
  cases read c with
  | error b => rfl
  | ok r => exact hnext r.1 r.2

theorem Spares.mapError {ε' : Type} {g : ε → ε'} {read : Cursor → Except ε (α × Cursor)} (h : e.Spares read) :
    e.Spares fun c => (read c).mapError g := by
  intro c
  show (read (c.exchange e)).mapError g = ((read c).mapError g).map _
  rw [h c]
  cases read c with
  | error b => rfl
  | ok r => rfl

/-- What is done next may depend on the next character, but a stray one counts as none. -/
theorem Spares.of_next {read : Cursor → Except ε (α × Cursor)}
    (branch : Option Char → Cursor → Except ε (α × Cursor)) (h : ∀ c, read c = branch c.next? c)
    (hstray : ∀ d, d ∉ formulaChars → branch (some d) = branch none) (hbranch : ∀ next, e.Spares (branch next)) :
    e.Spares read := by
  intro c
  have hsame : branch (c.exchange e).next? = branch c.next? := by
    rw [Cursor.next?_exchange]
    cases c.next? with
    | none => rfl
    | some d =>
      by_cases hd : d ∈ formulaChars
      · rw [Option.map_some, e.fixed d hd]
      · rw [Option.map_some, hstray d hd, hstray (e.map d) fun hmap => hd (e.strays d hmap)]
  rw [h, h, hsame]
  exact hbranch c.next? c

end Exchange

namespace Formula

open Exchange

variable {e : Exchange}

/-! ### Numbers and modifiers -/

private theorem numeral_spares : e.Spares numeral := by
  intro c
  unfold numeral
  rw [digits_exchange, skipDigits_exchange, Cursor.position_exchange]
  simp only
  split
  · rfl
  · split
    · rfl
    · rfl

private theorem numeral?_spares : e.Spares numeral? := by
  have hsome : e.Spares fun c => numeral c >>= fun r => Except.ok (some r.1, r.2) :=
    numeral_spares.bind fun n => .ok (some n)
  intro c
  unfold numeral?
  rw [atDigit_exchange]
  split
  · exact hsome c
  · rfl

private theorem modifierValue_spares (letter : Char) : e.Spares (modifierValue letter) := by
  intro c
  unfold modifierValue
  rw [atDigit_exchange]
  split
  · exact numeral_spares c
  · rfl

/-- The modifier that starts with a character. -/
private def modifierAt (next : Option Char) (c : Cursor) : Except Fault (Option Modifier × Cursor) :=
  match next with
  | some 'k' => modifierValue 'k' c.skip >>= fun r => .ok (some (.keep r.1), r.2)
  | some 'd' => modifierValue 'd' c.skip >>= fun r => .ok (some (.drop r.1), r.2)
  | some 'r' => modifierValue 'r' c.skip >>= fun r => .ok (some (.reroll r.1), r.2)
  | some '!' => numeral? c.skip >>= fun r => .ok (some (.explode .bang r.1), r.2)
  | some 'e' => numeral? c.skip >>= fun r => .ok (some (.explode .letter r.1), r.2)
  | _ => .ok (none, c)

private theorem modifier?_spares : e.Spares modifier? := by
  refine .of_next modifierAt (fun c => ?_) (fun d hd => ?_) fun next => ?_
  · rfl
  · funext c
    unfold modifierAt
    split
    all_goals first | rfl | (rename_i h; cases h; exact absurd (by decide) hd)
  · unfold modifierAt
    split
    · exact (modifierValue_spares 'k').skip.bind fun n => .ok (some (Modifier.keep n))
    · exact (modifierValue_spares 'd').skip.bind fun n => .ok (some (Modifier.drop n))
    · exact (modifierValue_spares 'r').skip.bind fun n => .ok (some (Modifier.reroll n))
    · exact numeral?_spares.skip.bind fun n => .ok (some (Modifier.explode .bang n))
    · exact numeral?_spares.skip.bind fun n => .ok (some (Modifier.explode .letter n))
    · exact .ok none

private theorem modifiersWithin_spares (room : Nat) : e.Spares (modifiersWithin room) := by
  induction room with
  | zero => exact .ok []
  | succ room ih =>
    intro c
    refine Spares.bind modifier?_spares (fun m => ?_) c
    cases m with
    | none => exact .ok []
    | some m => exact ih.bind fun ms => .ok (m :: ms)

private theorem modifiers_spares : e.Spares modifiers := by
  intro c
  unfold modifiers
  rw [Cursor.length_exchange]
  exact modifiersWithin_spares c.rest.length c

/-! ### Terms -/

/-- The kind of dice that starts with a character. -/
private def kindAt (next : Option Char) (c : Cursor) : Except Fault (WrittenKind × Cursor) :=
  match next with
  | some '%' => .ok (.percentile, c.skip)
  | some 'f' => .ok (.fudge, c.skip)
  | _ =>
    if c.atDigit then numeral c >>= fun r => modifiers r.2 >>= fun r' => .ok (.sided r.1 r'.1, r'.2)
    else .error (.missingDiceSides c.position)

private theorem kind_spares : e.Spares kind := by
  refine .of_next kindAt (fun c => ?_) (fun d hd => ?_) fun next => ?_
  · rfl
  · funext c
    unfold kindAt
    split
    all_goals first | rfl | (rename_i h; cases h; exact absurd (by decide) hd)
  · have hsided : e.Spares fun c => numeral c >>= fun r => modifiers r.2 >>= fun r' =>
        Except.ok (WrittenKind.sided r.1 r'.1, r'.2) := by
      refine numeral_spares.bind fun sides => ?_
      show e.Spares fun c => modifiers c >>= fun r' => Except.ok (WrittenKind.sided sides r'.1, r'.2)
      exact modifiers_spares.bind fun ms => .ok (WrittenKind.sided sides ms)
    unfold kindAt
    split
    · exact Spares.skip (.ok WrittenKind.percentile)
    · exact Spares.skip (.ok WrittenKind.fudge)
    · intro c
      simp only [atDigit_exchange, Cursor.position_exchange]
      split
      · exact hsided c
      · rfl

/-- What follows the count of a term that was begun at the place `start`. -/
private def dieAt (negative : Bool) (start : Nat) (count : Option Numeral) (next : Option Char) (c : Cursor) :
    Except Fault (Formula × Cursor) :=
  if next == some 'd' then kind c.skip >>= fun r => .ok (.dice ⟨negative, count, r.1⟩, r.2)
  else
    match count with
    | none => .error (.expectedNumberOrDice start)
    | some n => .ok (.literal negative n, c)

private theorem dieAt_spares (negative : Bool) (start : Nat) (count : Option Numeral) :
    e.Spares fun c => dieAt negative start count c.next? c := by
  refine .of_next (dieAt negative start count) (fun c => rfl) (fun d hd => ?_) fun next => ?_
  · have hne : d ≠ 'd' := (ne_of_mem_of_not_mem (by decide) hd).symm
    funext c
    unfold dieAt
    simp [hne]
  · unfold dieAt
    split
    · exact kind_spares.skip.bind fun k => .ok (Formula.dice ⟨negative, count, k⟩)
    · cases count with
      | none => exact fun c => rfl
      | some n => exact .ok (Formula.literal negative n)

/-- What follows the sign of a term that was begun at the place `start`. -/
private def bareTerm (negative : Bool) (start : Nat) (c : Cursor) : Except Fault (Formula × Cursor) :=
  numeral? c >>= fun r => dieAt negative start r.1 r.2.next? r.2

private theorem bareTerm_spares (negative : Bool) (start : Nat) : e.Spares (bareTerm negative start) :=
  numeral?_spares.bind (dieAt_spares negative start)

private theorem term_spares : e.Spares term := by
  refine .of_next (fun next c =>
    if next == some '-' then bareTerm true c.position c.skip else bareTerm false c.position c) (fun c => ?_)
    (fun d hd => ?_) fun next => ?_
  · unfold term
    cases c.next? == some '-' with
    | false => rfl
    | true => rfl
  · have hne : d ≠ '-' := (ne_of_mem_of_not_mem (by decide) hd).symm
    funext c
    simp [hne]
  · intro c
    show (if next == some '-' then bareTerm true c.position (c.exchange e).skip
      else bareTerm false c.position (c.exchange e)) = _
    split
    · exact (bareTerm_spares true c.position).skip c
    · exact bareTerm_spares false c.position c

/-! ### Operators and groups -/

section

variable {symbol? : Char → Option Symbol} {operand : Cursor → Reading Formula}

/-- What is joined to an operand, as the next character says. -/
private def joinAt (symbol? : Char → Option Symbol) (operand : Cursor → Reading Formula) (room : Nat) (left : Formula)
    (next : Option Char) (c : Cursor) : Except Break (Formula × Cursor) :=
  (next.bind symbol?).elim (.ok (left, c)) fun symbol => (operand c.skip).mapError (Break.after left) >>= fun r =>
    joinWithin symbol? operand room (.binary symbol left r.1) r.2

private theorem joinWithin_spares (hsymbol : ∀ d, d ∉ formulaChars → symbol? d = none) (h : e.Spares operand)
    (room : Nat) (left : Formula) : e.Spares (joinWithin symbol? operand room left) := by
  induction room generalizing left with
  | zero => exact .ok left
  | succ room ih =>
    refine .of_next (joinAt symbol? operand room left) (fun c => ?_) (fun d hd => ?_) fun next => ?_
    · rw [joinWithin]
      unfold joinAt
      cases c.next?.bind symbol? with
      | none => rfl
      | some symbol =>
        simp only [Option.elim_some]
        cases operand c.skip with
        | error b => rfl
        | ok r => rfl
    · funext c
      unfold joinAt
      rw [Option.bind_some, Option.bind_none, hsymbol d hd]
    · unfold joinAt
      cases next.bind symbol? with
      | none => exact .ok left
      | some symbol => exact h.skip.mapError.bind fun right => ih (.binary symbol left right)

private theorem chain_spares (hsymbol : ∀ d, d ∉ formulaChars → symbol? d = none) (h : e.Spares operand) :
    e.Spares (chain symbol? operand) := by
  intro c
  unfold chain
  rw [h c]
  cases operand c with
  | error b => rfl
  | ok r =>
    show joinWithin symbol? operand (r.2.exchange e).rest.length r.1 (r.2.exchange e) = _
    rw [Cursor.length_exchange]
    exact joinWithin_spares hsymbol h r.2.rest.length r.1 r.2

end

/-- What follows the inside of a group that was opened at the place `openedAt`. -/
private def closeAt (openedAt : Nat) (f : Formula) (next : Option Char) (c : Cursor) : Reading Formula :=
  if next = some ')' then .ok (.group f, c.skip) else .error ⟨[f], .missingClosingParenthesis openedAt c.position⟩

private theorem closeAt_spares (openedAt : Nat) (f : Formula) : e.Spares fun c => closeAt openedAt f c.next? c := by
  refine .of_next (closeAt openedAt f) (fun c => rfl) (fun d hd => ?_) fun next => ?_
  · have hne : d ≠ ')' := (ne_of_mem_of_not_mem (by decide) hd).symm
    funext c
    unfold closeAt
    simp [hne]
  · unfold closeAt
    split
    · exact Spares.skip (.ok (Formula.group f))
    · exact fun c => rfl

/-- A group or a term, as the next character says. -/
private def factorAt (inside : Option (Cursor → Reading Formula)) (next : Option Char) (c : Cursor) :
    Except Break (Formula × Cursor) :=
  if next = some '(' then
    inside.elim (.error ⟨[], .nestingTooDeep c.position⟩) fun read =>
      (read c.skip : Except Break (Formula × Cursor)) >>= fun r => closeAt c.position r.1 r.2.next? r.2
  else (term c).mapError (⟨[], ·⟩)

private theorem factor_spares {inside : Option (Cursor → Reading Formula)} (h : ∀ read ∈ inside, e.Spares read) :
    e.Spares (factor inside) := by
  refine .of_next (factorAt inside) (fun c => ?_) (fun d hd => ?_) fun next => ?_
  · unfold factor factorAt
    split
    · cases inside with
      | none => rfl
      | some read =>
        simp only [Option.elim_some]
        cases read c.skip with
        | error b => rfl
        | ok r => rfl
    · rfl
  · have hne : d ≠ '(' := (ne_of_mem_of_not_mem (by decide) hd).symm
    funext c
    unfold factorAt
    simp [hne]
  · unfold factorAt
    split
    · cases inside with
      | none => exact fun c => rfl
      | some read =>
        intro c
        exact (h read rfl).skip.bind (closeAt_spares c.position) c
    · exact term_spares.mapError

/-- No part of a formula is read differently. -/
theorem readPart_spares (room : Nat) (k : Nonterminal) : e.Spares (readPart room k) := by
  have hmultiplicative : ∀ d, d ∉ formulaChars → multiplicative? d = none := by
    intro d hd
    unfold multiplicative?
    split
    all_goals first | rfl | exact absurd (by decide) hd
  have hadditive : ∀ d, d ∉ formulaChars → additive? d = none := by
    intro d hd
    unfold additive?
    split
    all_goals first | rfl | exact absurd (by decide) hd
  exact readPart_induction (P := fun _ _ read => e.Spares read) (fun _ hinner => factor_spares hinner)
    (fun _ hfactor => chain_spares hmultiplicative hfactor) (fun _ hproduct => chain_spares hadditive hproduct) room k

/-! ### Whole texts -/

/-- Only the fault of a whole text quotes a character that strays into it. -/
private theorem exchange_of_expression_error {room : Nat} {c : Cursor} {b : Break} (h : expression room c = .error b) :
    b.exchange e = b := by
  rw [expression_eq_readPart] at h
  obtain ⟨s, c', -, hreports, -⟩ := readPart_begins _ _ h
  obtain ⟨parts, fault⟩ := b
  cases fault with
  | unexpectedCharacter found p => exact absurd rfl (hreports.ne_unexpectedCharacter found p)
  | _ => rfl

theorem read_exchange (e : Exchange) (text : List Char) :
    read (text.map e.map) = (read text).mapError (Break.exchange e) := by
  have hexpression := readPart_spares (e := e) maxNesting .expression (.start text)
  rw [← expression_eq_readPart] at hexpression
  change expression maxNesting (.start (text.map e.map)) = _ at hexpression
  unfold read
  rw [List.isEmpty_map, List.length_map, hexpression]
  split
  · rfl
  · split
    · rfl
    · cases hread : expression maxNesting (.start text) with
      | error b => exact congrArg Except.error (exchange_of_expression_error hread).symm
      | ok r =>
        obtain ⟨f, c⟩ := r
        simp only [Except.map, Cursor.next?_exchange]
        cases c.next? with
        | none => rfl
        | some found => rfl

end Formula

end Tabletop
