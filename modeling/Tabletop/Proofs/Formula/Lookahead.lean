import Tabletop.Proofs.Formula.Completeness

/-!
# One character ahead

Reading looks at the character where it stands and at none behind it.  `Variants` are two texts that agree up to a bound;
they are read alike as long as the reading of the first one stays below the bound (`Lockstep`), which is shown for every
function of the reader in turn, up to `Variants.expression_lockstep`.  So a fault says nothing about the text behind the
character that caused it (`Fault.offence?`).
-/

namespace Tabletop

/-- Where the character stands that caused a fault of the syntax, if the fault points at it.  A minus in front of a term may
be a sign, so it is the character behind it that is wrong. -/
def Fault.offence? (text : List Char) : Fault → Option Nat
  | unexpectedCharacter _ p => some p
  | expectedNumberOrDice p => some (if text[p]? = some '-' then p + 1 else p)
  | missingDiceSides p => some p
  | missingModifierValue _ p => some p
  | missingClosingParenthesis _ p => some p
  | _ => none

/-- The cursor at a place in a text. -/
def Cursor.within (text : List Char) (i : Nat) : Cursor := ⟨i, text.drop i⟩

namespace Cursor

@[simp] theorem next?_within (text : List Char) (i : Nat) : (within text i).next? = text[i]? := List.head?_drop

@[simp] theorem skip_within (text : List Char) (i : Nat) : (within text i).skip = within text (i + 1) := by
  unfold skip within
  rw [List.tail_drop]

theorem skipDigits_within (text : List Char) (i : Nat) :
    (within text i).skipDigits = within text (i + (within text i).digits.length) := by
  have hsplit := (within text i).digits_append
  unfold skipDigits
  refine congrArg (Cursor.mk _) ?_
  show (text.drop i).dropWhile Char.isDigit = text.drop (i + (within text i).digits.length)
  rw [← List.drop_drop]
  have hdrop := congrArg (List.drop (within text i).digits.length) hsplit
  rw [List.drop_left] at hdrop
  exact hdrop

end Cursor

open Cursor (within)

/-- Two texts that agree up to a bound. -/
structure Variants where
  text : List Char
  other : List Char
  bound : Nat
  agree : text.take bound = other.take bound

namespace Variants

variable (v : Variants)

theorem getElem?_eq {i : Nat} (h : i < v.bound) : v.text[i]? = v.other[i]? := by
  rw [← List.getElem?_take_of_lt h, v.agree, List.getElem?_take_of_lt h]

/-- The results of reading the two texts from the place `i` on.  What is read of the first text ends at `i` or behind it, and
so does what causes a fault; if it is below the bound, the other text comes to the same. -/
def Lockstep {ε α : Type} (fault : ε → Fault) (i : Nat) (r r' : Except ε (α × Cursor)) : Prop :=
  match r with
  | .ok (a, c) => ∃ j, i ≤ j ∧ c = within v.text j ∧ (j < v.bound → r' = .ok (a, within v.other j))
  | .error e => ∀ q ∈ (fault e).offence? v.text, i ≤ q ∧ (q < v.bound → r' = .error e)

/-- Reading with `read` keeps in step, wherever it starts. -/
def KeepsStep {ε α : Type} (fault : ε → Fault) (read : Cursor → Except ε (α × Cursor)) : Prop :=
  ∀ i, v.Lockstep fault i (read (within v.text i)) (read (within v.other i))

variable {v}

/-! ### Rules -/

section Rules

variable {ε α β : Type} {fault : ε → Fault} {i : Nat}

theorem Lockstep.ok (a : α) (i : Nat) : v.Lockstep fault i (.ok (a, within v.text i)) (.ok (a, within v.other i)) :=
  ⟨i, Nat.le_refl i, rfl, fun _ => rfl⟩

theorem Lockstep.error_at {e : ε} (h : (fault e).offence? v.text = some i) :
    v.Lockstep fault i (.error e : Except ε (α × Cursor)) (.error e) := by
  intro q hq
  rw [h] at hq
  exact ⟨Nat.le_of_eq (Option.some.inj hq), fun _ => rfl⟩

/-- Of a fault that no single character has caused nothing is claimed. -/
theorem Lockstep.error_nowhere {e : ε} {r' : Except ε (α × Cursor)} (h : (fault e).offence? v.text = none) :
    v.Lockstep fault i (.error e) r' := by
  intro q hq
  rw [h] at hq
  cases hq

theorem Lockstep.mono {i' : Nat} {r r' : Except ε (α × Cursor)} (h : v.Lockstep fault i r r') (hi : i' ≤ i) :
    v.Lockstep fault i' r r' := by
  cases r with
  | error e => exact fun q hq => ⟨Nat.le_trans hi (h q hq).1, (h q hq).2⟩
  | ok x =>
    obtain ⟨j, hj, hx⟩ := h
    exact ⟨j, Nat.le_trans hi hj, hx⟩

theorem Lockstep.skip {f : Cursor → Except ε (α × Cursor)} (h : v.KeepsStep fault f) (i : Nat) :
    v.Lockstep fault i (f (within v.text i).skip) (f (within v.other i).skip) := by
  rw [Cursor.skip_within, Cursor.skip_within]
  exact (h (i + 1)).mono (Nat.le_succ i)

theorem Lockstep.ok_skip (a : α) (i : Nat) :
    v.Lockstep fault i (.ok (a, (within v.text i).skip)) (.ok (a, (within v.other i).skip)) :=
  Lockstep.skip (f := fun c => .ok (a, c)) (fun i => .ok a i) i

/-- The second step starts where the first one has ended; if that is behind the bound, so is everything that follows. -/
theorem Lockstep.bind {r r' : Except ε (α × Cursor)} {k : α × Cursor → Except ε (β × Cursor)} (h : v.Lockstep fault i r r')
    (hk : ∀ a j, r = .ok (a, within v.text j) → v.Lockstep fault j (k (a, within v.text j)) (k (a, within v.other j))) :
    v.Lockstep fault i (r >>= k) (r' >>= k) := by
  cases r with
  | error e =>
    intro q hq
    obtain ⟨hi, hr'⟩ := h q hq
    refine ⟨hi, fun hlt => ?_⟩
    rw [hr' hlt]
    rfl
  | ok x =>
    obtain ⟨a, c⟩ := x
    obtain ⟨j, hj, rfl, hr'⟩ := h
    have hnext := hk a j rfl
    show v.Lockstep fault i (k (a, within v.text j)) (r' >>= k)
    cases hsecond : k (a, within v.text j) with
    | error e =>
      rw [hsecond] at hnext
      intro q hq
      obtain ⟨hjq, hsame⟩ := hnext q hq
      refine ⟨Nat.le_trans hj hjq, fun hlt => ?_⟩
      rw [hr' (Nat.lt_of_le_of_lt hjq hlt)]
      exact hsame hlt
    | ok y =>
      rw [hsecond] at hnext
      obtain ⟨l, hjl, hc, hsame⟩ := hnext
      refine ⟨l, Nat.le_trans hj hjl, hc, fun hlt => ?_⟩
      rw [hr' (Nat.lt_of_le_of_lt hjl hlt)]
      exact hsame hlt

theorem Lockstep.mapError {ε' : Type} {fault' : ε' → Fault} {g : ε → ε'} (hg : ∀ e, fault' (g e) = fault e)
    {r r' : Except ε (α × Cursor)} (h : v.Lockstep fault i r r') :
    v.Lockstep fault' i (r.mapError g) (r'.mapError g) := by
  cases r with
  | error e =>
    intro q hq
    rw [hg] at hq
    obtain ⟨hi, hr'⟩ := h q hq
    refine ⟨hi, fun hlt => ?_⟩
    rw [hr' hlt]
    rfl
  | ok x =>
    obtain ⟨j, hj, hc, hr'⟩ := h
    refine ⟨j, hj, hc, fun hlt => ?_⟩
    rw [hr' hlt]
    rfl

/-- Below the bound the next character is the same, so the same branch is taken; at the bound nothing is claimed of the
other text. -/
theorem Lockstep.of_next {f g : Cursor → Except ε (α × Cursor)} (hg : ∀ c, c.next? = v.text[i]? → f c = g c)
    (h : v.Lockstep fault i (g (within v.text i)) (g (within v.other i))) :
    v.Lockstep fault i (f (within v.text i)) (f (within v.other i)) := by
  rw [hg _ (Cursor.next?_within _ _)]
  by_cases hlt : i < v.bound
  · rw [hg (within v.other i) ((Cursor.next?_within _ _).trans (v.getElem?_eq hlt).symm)]
    exact h
  · cases hread : g (within v.text i) with
    | error e =>
      rw [hread] at h
      intro q hq
      obtain ⟨hi, -⟩ := h q hq
      exact ⟨hi, fun hq => by omega⟩
    | ok x =>
      rw [hread] at h
      obtain ⟨j, hj, hc, -⟩ := h
      exact ⟨j, hj, hc, fun hj => by omega⟩

end Rules

end Variants

namespace Formula

open Variants

variable {v : Variants}

/-! ### Numbers -/

private theorem takeWhile_eq_of_take_eq {p : Char → Bool} {s t : List Char} {m : Nat} (h : s.take m = t.take m)
    (hlt : (s.takeWhile p).length < m) : t.takeWhile p = s.takeWhile p := by
  induction m generalizing s t with
  | zero => exact absurd hlt (Nat.not_lt_zero _)
  | succ m ih =>
    cases s with
    | nil =>
      cases t with
      | nil => rfl
      | cons d t => cases h
    | cons c s =>
      cases t with
      | nil => cases h
      | cons d t =>
        rw [List.take_succ_cons, List.take_succ_cons] at h
        obtain ⟨rfl, htail⟩ := List.cons.inj h
        cases hc : p c with
        | false => rw [List.takeWhile_cons_of_neg (by simp [hc]), List.takeWhile_cons_of_neg (by simp [hc])]
        | true =>
          rw [List.takeWhile_cons_of_pos hc, List.length_cons] at hlt
          rw [List.takeWhile_cons_of_pos hc, List.takeWhile_cons_of_pos hc, ih htail (Nat.lt_of_succ_lt_succ hlt)]

/-- Digits that end below the bound end at the same place in both texts. -/
private theorem digits_other {i : Nat} (h : i + (within v.text i).digits.length < v.bound) :
    (within v.other i).digits = (within v.text i).digits := by
  have hagree : (v.text.drop i).take (v.bound - i) = (v.other.drop i).take (v.bound - i) := by
    rw [← List.drop_take, ← List.drop_take, v.agree]
  refine takeWhile_eq_of_take_eq hagree ?_
  show (within v.text i).digits.length < v.bound - i
  omega

private theorem numeral_keepsStep : v.KeepsStep id numeral := by
  intro i
  cases hread : numeral (within v.text i) with
  | error fault =>
    rcases numeral_eq_error hread with ⟨-, rfl⟩ | ⟨-, rfl⟩
    · exact .error_nowhere rfl
    · exact .error_nowhere rfl
  | ok r =>
    obtain ⟨n, c⟩ := r
    obtain ⟨hn, hne, hvalue, rfl⟩ := numeral_eq_ok_iff.mp hread
    refine ⟨i + (within v.text i).digits.length, Nat.le_add_right _ _, Cursor.skipDigits_within _ _, fun hlt => ?_⟩
    have hdigits := digits_other hlt
    have hskip := Cursor.skipDigits_within v.other i
    rw [hdigits] at hskip
    exact numeral_eq_ok_iff.mpr ⟨hn.trans hdigits.symm, hdigits ▸ hne, hvalue, hskip.symm⟩

private theorem numeral?_keepsStep : v.KeepsStep id numeral? := by
  intro i
  by_cases hdigit : (v.text[i]?.any Char.isDigit) = true
  · refine .of_next (g := fun c => numeral c >>= fun r => pure (some r.1, r.2)) (fun c hc => ?_) ?_
    · unfold numeral? Cursor.atDigit
      rw [hc, if_pos hdigit]
    · exact (numeral_keepsStep i).bind fun n j _ => .ok (some n) j
  · refine .of_next (g := fun c => .ok (none, c)) (fun c hc => ?_) (.ok none i)
    unfold numeral? Cursor.atDigit
    rw [hc, if_neg hdigit]
    rfl

private theorem modifierValue_keepsStep (letter : Char) : v.KeepsStep id (modifierValue letter) := by
  intro i
  by_cases hdigit : (v.text[i]?.any Char.isDigit) = true
  · refine .of_next (g := numeral) (fun c hc => ?_) (numeral_keepsStep i)
    unfold modifierValue Cursor.atDigit
    rw [hc, if_pos hdigit]
  · refine .of_next (g := fun c => .error (.missingModifierValue letter c.position)) (fun c hc => ?_) (.error_at rfl)
    unfold modifierValue Cursor.atDigit
    rw [hc, if_neg hdigit]

/-! ### Modifiers -/

private def valued (letter : Char) (make : Numeral → Modifier) (c : Cursor) : Except Fault (Option Modifier × Cursor) := do
  let (n, c) ← modifierValue letter c.skip
  return (some (make n), c)

private theorem valued_keepsStep (letter : Char) (make : Numeral → Modifier) : v.KeepsStep id (valued letter make) := by
  intro i
  exact (Lockstep.skip (modifierValue_keepsStep letter) i).bind fun n j _ => .ok _ j

private def explosion (mark : ExplosionMark) (c : Cursor) : Except Fault (Option Modifier × Cursor) := do
  let (n, c) ← numeral? c.skip
  return (some (.explode mark n), c)

private theorem explosion_keepsStep (mark : ExplosionMark) : v.KeepsStep id (explosion mark) := by
  intro i
  exact (Lockstep.skip numeral?_keepsStep i).bind fun n j _ => .ok _ j

private theorem modifier?_keepsStep : v.KeepsStep id modifier? := by
  intro i
  by_cases hk : v.text[i]? = some 'k'
  · refine .of_next (g := valued 'k' .keep) (fun c hc => ?_) (valued_keepsStep 'k' .keep i)
    unfold modifier?
    rw [hc, hk]
    rfl
  by_cases hd : v.text[i]? = some 'd'
  · refine .of_next (g := valued 'd' .drop) (fun c hc => ?_) (valued_keepsStep 'd' .drop i)
    unfold modifier?
    rw [hc, hd]
    rfl
  by_cases hr : v.text[i]? = some 'r'
  · refine .of_next (g := valued 'r' .reroll) (fun c hc => ?_) (valued_keepsStep 'r' .reroll i)
    unfold modifier?
    rw [hc, hr]
    rfl
  by_cases hbang : v.text[i]? = some '!'
  · refine .of_next (g := explosion .bang) (fun c hc => ?_) (explosion_keepsStep .bang i)
    unfold modifier?
    rw [hc, hbang]
    rfl
  by_cases he : v.text[i]? = some 'e'
  · refine .of_next (g := explosion .letter) (fun c hc => ?_) (explosion_keepsStep .letter i)
    unfold modifier?
    rw [hc, he]
    rfl
  · refine .of_next (g := fun c => .ok (none, c)) (fun c hc => ?_) (.ok none i)
    unfold modifier?
    rw [hc]
    split
    case h_1 h => exact absurd h hk
    case h_2 h => exact absurd h hd
    case h_3 h => exact absurd h hr
    case h_4 h => exact absurd h hbang
    case h_5 h => exact absurd h he
    case h_6 => rfl

private theorem modifiersWithin_keepsStep (room : Nat) : v.KeepsStep id (modifiersWithin room) := by
  induction room with
  | zero => exact fun i => .ok [] i
  | succ room ih =>
    intro i
    refine (modifier?_keepsStep i).bind fun m j _ => ?_
    cases m with
    | none => exact .ok [] j
    | some m => exact (ih j).bind fun ms l _ => .ok (m :: ms) l

/-- Every modifier takes a character, so any room for the rest of the text is room enough. -/
private theorem modifiersWithin_congr {room room' : Nat} {c : Cursor} (h : c.rest.length ≤ room)
    (h' : c.rest.length ≤ room') : modifiersWithin room c = modifiersWithin room' c := by
  induction room generalizing room' c with
  | zero =>
    have hc : c.rest = [] := List.length_eq_zero_iff.mp (Nat.le_zero.mp h)
    cases room' with
    | zero => rfl
    | succ room' => simp [modifiersWithin, modifier?, Cursor.next?, hc, bind, Except.bind, pure, Except.pure]
  | succ room ih =>
    cases room' with
    | zero =>
      have hc : c.rest = [] := List.length_eq_zero_iff.mp (Nat.le_zero.mp h')
      simp [modifiersWithin, modifier?, Cursor.next?, hc, bind, Except.bind, pure, Except.pure]
    | succ room' =>
      unfold modifiersWithin
      cases hm : modifier? c with
      | error fault => rfl
      | ok r =>
        obtain ⟨m, c'⟩ := r
        cases m with
        | none => rfl
        | some m =>
          obtain ⟨-, hs⟩ := modifier?_sound hm
          obtain ⟨d, s, htext, -⟩ := modifierText_eq_cons m
          rw [Option.elim_some, htext] at hs
          have hle := hs.skip.length_le
          have hskip : c.skip.rest.length = c.rest.length - 1 := List.length_tail
          have hmore : modifiersWithin room c' = modifiersWithin room' c' := ih (by omega) (by omega)
          exact congrArg (fun r => r >>= fun x => pure (m :: x.1, x.2)) hmore

private theorem modifiers_keepsStep : v.KeepsStep id modifiers := by
  intro i
  have hroom : ∀ text : List Char, text.length ≤ v.text.length + v.other.length →
      modifiers (within text i) = modifiersWithin (v.text.length + v.other.length) (within text i) := by
    intro text htext
    have hrest : (within text i).rest.length = text.length - i := List.length_drop
    exact modifiersWithin_congr (Nat.le_refl _) (by omega)
  rw [hroom v.text (Nat.le_add_right _ _), hroom v.other (Nat.le_add_left _ _)]
  exact modifiersWithin_keepsStep _ i

/-! ### Terms -/

private theorem kind_keepsStep : v.KeepsStep id kind := by
  intro i
  by_cases hpercent : v.text[i]? = some '%'
  · refine .of_next (g := fun c => .ok (.percentile, c.skip)) (fun c hc => ?_) (.ok_skip _ i)
    unfold kind
    rw [hc, hpercent]
    rfl
  by_cases hfudge : v.text[i]? = some 'f'
  · refine .of_next (g := fun c => .ok (.fudge, c.skip)) (fun c hc => ?_) (.ok_skip _ i)
    unfold kind
    rw [hc, hfudge]
    rfl
  by_cases hdigit : (v.text[i]?.any Char.isDigit) = true
  · refine .of_next (g := fun c => numeral c >>= fun r => modifiers r.2 >>= fun r' => pure (.sided r.1 r'.1, r'.2))
      (fun c hc => ?_) ?_
    · unfold kind Cursor.atDigit
      rw [hc, if_pos hdigit]
      split
      case h_1 h => exact absurd h hpercent
      case h_2 h => exact absurd h hfudge
      case h_3 => rfl
    · exact (numeral_keepsStep i).bind fun sides j _ => (modifiers_keepsStep j).bind fun ms l _ => .ok _ l
  · refine .of_next (g := fun c => .error (.missingDiceSides c.position)) (fun c hc => ?_) (.error_at rfl)
    unfold kind Cursor.atDigit
    rw [hc, if_neg hdigit]
    split
    case h_1 h => exact absurd h hpercent
    case h_2 h => exact absurd h hfudge
    case h_3 => rfl

/-- What follows the count of a term; `start` is the place where the term was begun. -/
private def counted (negative : Bool) (start : Nat) (count : Option Numeral) (c : Cursor) :
    Except Fault (Formula × Cursor) :=
  if c.next? == some 'd' then do
    let (kind, c') ← kind c.skip
    return (.dice { negative, count, kind }, c')
  else
    match count with
    | none => throw (.expectedNumberOrDice start)
    | some n => return (.literal negative n, c)

/-- What follows the sign of a term. -/
private def unsigned (negative : Bool) (start : Nat) (c : Cursor) : Except Fault (Formula × Cursor) := do
  let (count, c') ← numeral? c
  counted negative start count c'

private theorem unsigned_lockstep {negative : Bool} {start i : Nat}
    (h : (if v.text[start]? = some '-' then start + 1 else start) = i) :
    v.Lockstep id i (unsigned negative start (within v.text i)) (unsigned negative start (within v.other i)) := by
  refine (numeral?_keepsStep i).bind fun count j hcount => ?_
  show v.Lockstep id j (counted negative start count (within v.text j)) (counted negative start count (within v.other j))
  by_cases hd : v.text[j]? = some 'd'
  · refine .of_next (g := fun c => kind c.skip >>= fun r => pure (.dice ⟨negative, count, r.1⟩, r.2)) (fun c hc => ?_) ?_
    · unfold counted
      rw [hc, hd]
      rfl
    · exact (Lockstep.skip kind_keepsStep j).bind fun k l _ => .ok _ l
  · have hne : ¬(v.text[j]? == some 'd') = true := by simpa using hd
    cases count with
    | none =>
      -- Without digits the term is given up where they were looked for.
      obtain ⟨-, hs⟩ := numeral?_sound hcount
      have hj : j = i := congrArg Cursor.position hs.eq_of_nil
      have hoffence : (Fault.expectedNumberOrDice start).offence? v.text = some j := by
        rw [hj, ← h]
        rfl
      refine .of_next (g := fun c => .error (.expectedNumberOrDice start)) (fun c hc => ?_) (.error_at hoffence)
      unfold counted
      rw [hc, if_neg hne]
      rfl
    | some n =>
      refine .of_next (g := fun c => .ok (.literal negative n, c)) (fun c hc => ?_) (.ok _ j)
      unfold counted
      rw [hc, if_neg hne]
      rfl

private theorem term_keepsStep : v.KeepsStep id term := by
  intro i
  by_cases hsign : v.text[i]? = some '-'
  · refine .of_next (g := fun c => unsigned true c.position c.skip) (fun c hc => ?_) ?_
    · unfold term
      rw [hc, hsign]
      rfl
    · rw [Cursor.skip_within, Cursor.skip_within]
      have hstart : (if v.text[i]? = some '-' then i + 1 else i) = i + 1 := if_pos hsign
      exact (unsigned_lockstep hstart).mono (Nat.le_succ i)
  · have hne : (v.text[i]? == some '-') = false := by simpa using hsign
    refine .of_next (g := fun c => unsigned false c.position c) (fun c hc => ?_) ?_
    · unfold term
      rw [hc, hne]
      rfl
    · have hstart : (if v.text[i]? = some '-' then i + 1 else i) = i := if_neg hsign
      exact unsigned_lockstep hstart

/-! ### Operators and groups -/

section

variable {k : Nonterminal} {symbol? : Char → Option Symbol} {operand : Cursor → Reading Formula}

private theorem joinWithin_keepsStep (h : v.KeepsStep Break.fault operand) (room : Nat) (left : Formula) :
    v.KeepsStep Break.fault (joinWithin symbol? operand room left) := by
  induction room generalizing left with
  | zero => exact fun i => .ok left i
  | succ room ih =>
    intro i
    cases hsymbol : v.text[i]?.bind symbol? with
    | none =>
      refine .of_next (g := fun c => .ok (left, c)) (fun c hc => ?_) (.ok left i)
      unfold joinWithin
      rw [hc, hsymbol]
    | some symbol =>
      refine .of_next (g := fun c => (operand c.skip).mapError (Break.after left) >>= fun r =>
        joinWithin symbol? operand room (.binary symbol left r.1) r.2) (fun c hc => ?_) ?_
      · rw [joinWithin, hc, hsymbol]
        cases operand c.skip with
        | error b => rfl
        | ok r => rfl
      · have hright : v.Lockstep Break.fault i ((operand (within v.text i).skip).mapError (Break.after left))
            ((operand (within v.other i).skip).mapError (Break.after left)) :=
          (Lockstep.skip h i).mapError (g := Break.after left) fun b => rfl
        exact hright.bind fun right j _ => ih (.binary symbol left right) j

private theorem chain_keepsStep (hsound : Sound k operand) (h : v.KeepsStep Break.fault operand) :
    v.KeepsStep Break.fault (chain symbol? operand) := by
  intro i
  have hroom : ∀ text : List Char, text.length ≤ v.text.length + v.other.length →
      chain symbol? operand (within text i) = Except.bind (operand (within text i)) fun r =>
        joinWithin symbol? operand (v.text.length + v.other.length) r.1 r.2 := by
    intro text htext
    unfold chain
    cases hfirst : operand (within text i) with
    | error b => rfl
    | ok r =>
      obtain ⟨s, -, hs⟩ := hsound hfirst
      have hle := hs.length_le
      have hrest : (within text i).rest.length = text.length - i := List.length_drop
      exact joinWithin_congr hsound (Nat.le_refl _) (by omega)
  rw [hroom v.text (Nat.le_add_right _ _), hroom v.other (Nat.le_add_left _ _)]
  refine Lockstep.bind (h i) fun first j _ => ?_
  exact joinWithin_keepsStep h _ first j

end

/-- What follows the inside of a group. -/
private def closing (openedAt : Nat) (f : Formula) (c : Cursor) : Reading Formula :=
  if c.next? = some ')' then .ok (.group f, c.skip) else .error ⟨[f], .missingClosingParenthesis openedAt c.position⟩

private theorem factor_keepsStep {inside : Option (Cursor → Reading Formula)}
    (h : ∀ read ∈ inside, v.KeepsStep Break.fault read) : v.KeepsStep Break.fault (factor inside) := by
  intro i
  by_cases hopen : v.text[i]? = some '('
  · cases inside with
    | none =>
      refine .of_next (g := fun c => .error ⟨[], .nestingTooDeep c.position⟩) (fun c hc => ?_) (.error_nowhere rfl)
      unfold factor
      rw [hc, if_pos hopen]
    | some read =>
      refine .of_next (g := fun c => (read c.skip : Except Break (Formula × Cursor)) >>= fun r =>
        closing c.position r.1 r.2) (fun c hc => ?_) ?_
      · simp only [factor, hc, hopen, if_true]
        cases read c.skip with
        | error b => rfl
        | ok r => rfl
      · refine (Lockstep.skip (h read rfl) i).bind fun f j _ => ?_
        show v.Lockstep Break.fault j (closing i f (within v.text j)) (closing i f (within v.other j))
        by_cases hclose : v.text[j]? = some ')'
        · refine .of_next (g := fun c => .ok (.group f, c.skip)) (fun c hc => ?_) (.ok_skip _ j)
          unfold closing
          rw [hc, if_pos hclose]
        · refine .of_next (g := fun c => .error ⟨[f], .missingClosingParenthesis i c.position⟩) (fun c hc => ?_)
            (.error_at rfl)
          unfold closing
          rw [hc, if_neg hclose]
  · refine .of_next (g := fun c => (term c).mapError (⟨[], ·⟩)) (fun c hc => ?_) ?_
    · unfold factor
      rw [hc, if_neg hopen]
    · exact (term_keepsStep i).mapError (g := fun fault => (⟨[], fault⟩ : Break)) fun fault => rfl

theorem readPart_keepsStep (room : Nat) (k : Nonterminal) : v.KeepsStep Break.fault (readPart room k) :=
  readPart_induction (P := fun _ _ read => v.KeepsStep Break.fault read) (fun _ hinner => factor_keepsStep hinner)
    (fun room hfactor => chain_keepsStep (readPart_sound room .factor) hfactor)
    (fun room hproduct => chain_keepsStep (readPart_sound room .product) hproduct) room k

/-! ### Expressions -/

/-- What is read to its end below the bound is read in the same way in the other text. -/
theorem expression_other_of_ok {room : Nat} {f : Formula} {c : Cursor} (h : expression room (.start v.text) = .ok (f, c))
    (hlt : c.position < v.bound) : expression room (.start v.other) = .ok (f, within v.other c.position) := by
  have hstep := readPart_keepsStep (v := v) room .expression 0
  rw [← expression_eq_readPart] at hstep
  change v.Lockstep Break.fault 0 (expression room (.start v.text)) (expression room (.start v.other)) at hstep
  rw [h] at hstep
  obtain ⟨j, -, rfl, hsame⟩ := hstep
  exact hsame hlt

theorem expression_other_of_error {room : Nat} {b : Break} {q : Nat} (h : expression room (.start v.text) = .error b)
    (hq : b.fault.offence? v.text = some q) (hlt : q < v.bound) : expression room (.start v.other) = .error b := by
  have hstep := readPart_keepsStep (v := v) room .expression 0
  rw [← expression_eq_readPart] at hstep
  change v.Lockstep Break.fault 0 (expression room (.start v.text)) (expression room (.start v.other)) at hstep
  rw [h] at hstep
  exact (hstep q hq).2 hlt

end Formula

end Tabletop
