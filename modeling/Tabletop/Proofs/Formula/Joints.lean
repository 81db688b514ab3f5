import Tabletop.Proofs.Formula.Completeness

/-!
# Between numbers and dice terms

Operators and parentheses stand between numbers and dice terms and never inside of them: of these `joints` only a sign can
occur in a dice term (`eq_minus_of_mem_text`).  Within a dice term a letter always begins a modifier
(`Modifier.exists_of_letter`), and a number that is not the count stands right behind such a letter
(`Modifier.exists_of_digit`).

`unclosed` goes over a text from the left and keeps the places of the parentheses that are open.  It knows neither the grammar
nor the depth that a reader counts; a part of a formula closes whatever it opens (`Derives.openedFrom_eq`).
-/

namespace Tabletop

/-! ### Lists of characters -/

theorem behind_of_not_mem {s t a b : List Char} {c : Char} (h : s ++ t = a ++ c :: b) (hc : c ∉ s) :
    ∃ a', a = s ++ a' ∧ t = a' ++ c :: b := by
  rcases List.append_eq_append_iff.mp h with ⟨a', ha, ht⟩ | ⟨s', hs, hcb⟩
  · exact ⟨a', ha, ht⟩
  · cases s' with
    | nil => exact ⟨[], by simpa using hs.symm, by simpa using hcb.symm⟩
    | cons e s' =>
      obtain ⟨rfl, -⟩ := List.cons.inj hcb
      exact absurd (by rw [hs]; simp) hc

/-- A character stands before a joint, or is the joint, or stands behind it. -/
theorem cases_at_joint {s t a b : List Char} {c joint : Char} (h : s ++ joint :: t = a ++ c :: b) :
    (∃ b', s = a ++ c :: b' ∧ b = b' ++ joint :: t) ∨ (a = s ∧ c = joint ∧ b = t) ∨
      ∃ a', a = s ++ joint :: a' ∧ t = a' ++ c :: b := by
  rcases List.append_eq_append_iff.mp h with ⟨a', ha, ht⟩ | ⟨s', hs, hcb⟩
  · cases a' with
    | nil =>
      obtain ⟨hjoint, ht⟩ := List.cons.inj ht
      exact .inr (.inl ⟨by simpa using ha, hjoint.symm, ht.symm⟩)
    | cons e a' =>
      obtain ⟨rfl, ht'⟩ := List.cons.inj ht
      exact .inr (.inr ⟨a', ha, ht'⟩)
  · cases s' with
    | nil =>
      obtain ⟨hjoint, hb⟩ := List.cons.inj hcb
      exact .inr (.inl ⟨by simpa using hs.symm, hjoint, hb⟩)
    | cons e s' =>
      obtain ⟨rfl, hb⟩ := List.cons.inj hcb
      exact .inl ⟨s', hs, hb⟩

/-- What does not hold the joint stands before it or behind it. -/
theorem cases_at_joint_of_not_mem {s t a b x : List Char} {joint : Char} (h : s ++ joint :: t = a ++ x ++ b)
    (hx : x ≠ []) (hjoint : joint ∉ x) :
    (∃ b', s = a ++ x ++ b' ∧ b = b' ++ joint :: t) ∨ ∃ a', a = s ++ joint :: a' ∧ t = a' ++ x ++ b := by
  cases x with
  | nil => exact absurd rfl hx
  | cons c x =>
    rw [List.append_assoc, List.cons_append] at h
    rcases cases_at_joint h with ⟨b', hs, hb⟩ | ⟨-, rfl, -⟩ | ⟨a', ha, ht⟩
    · have hfree : joint ∉ x := fun hmem => hjoint (List.mem_cons_of_mem c hmem)
      obtain ⟨b'', rfl, hb'⟩ := behind_of_not_mem hb hfree
      exact .inl ⟨b'', by rw [hs]; simp, hb'⟩
    · exact absurd List.mem_cons_self hjoint
    · exact .inr ⟨a', ha, by rw [ht]; simp⟩

/-- A text that ends with a digit. -/
def EndsInDigit (text : List Char) : Prop := ∃ c ∈ text.getLast?, c.isDigit

theorem mem_getLast?_of_suffix {s t : List Char} (hst : s <:+ t) {c : Char} (hc : c ∈ s.getLast?) : c ∈ t.getLast? := by
  obtain ⟨p, rfl⟩ := hst
  rw [List.getLast?_append, Option.mem_def.mp hc]
  rfl

theorem EndsInDigit.of_suffix {s t : List Char} (h : EndsInDigit s) (hst : s <:+ t) : EndsInDigit t := by
  obtain ⟨c, hc, hdigit⟩ := h
  exact ⟨c, mem_getLast?_of_suffix hst hc, hdigit⟩

theorem not_endsInDigit_concat {s : List Char} {c : Char} (hc : c.isDigit = false) : ¬EndsInDigit (s ++ [c]) := by
  rintro ⟨d, hd, hdigit⟩
  rw [List.getLast?_concat] at hd
  obtain rfl := Option.some.inj hd
  rw [hc] at hdigit
  cases hdigit

/-- What ends with a digit ends with one behind its last character that is none. -/
theorem EndsInDigit.of_append_cons {s t : List Char} {c : Char} (h : EndsInDigit (s ++ c :: t)) (hc : c.isDigit = false) :
    EndsInDigit t := by
  cases t with
  | nil => exact absurd h (not_endsInDigit_concat hc)
  | cons d t =>
    obtain ⟨e, he, hdigit⟩ := h
    rw [List.append_cons, List.getLast?_append, List.getLast?_eq_some_getLast (by simp), Option.some_or] at he
    exact ⟨e, he, hdigit⟩

theorem endsInDigit_of_forall {s : List Char} (hs : s ≠ []) (hdigits : ∀ c ∈ s, c.isDigit) : EndsInDigit s :=
  ⟨s.getLast hs, List.getLast?_eq_some_getLast hs, hdigits _ (List.getLast_mem hs)⟩

namespace Formula

theorem NoDigit.append {s t : List Char} (hs : NoDigit s) (ht : NoDigit t) : NoDigit (s ++ t) := by
  cases s with
  | nil => exact ht
  | cons c s => exact hs

/-- Digits end where something else begins. -/
theorem digits_unique {s t r r' : List Char} (hs : ∀ c ∈ s, c.isDigit) (ht : ∀ c ∈ t, c.isDigit) (hr : NoDigit r)
    (hr' : NoDigit r') (h : s ++ r = t ++ r') : s = t ∧ r = r' := by
  have htake := congrArg (List.takeWhile Char.isDigit) h
  rw [List.takeWhile_append_of_pos hs, List.takeWhile_append_of_pos ht, takeWhile_of_noDigit hr,
    takeWhile_of_noDigit hr', List.append_nil, List.append_nil] at htake
  rw [htake] at h
  exact ⟨htake, List.append_cancel_left h⟩

end Formula

/-! ### Rows of modifiers -/

namespace Modifier

open Formula (NoDigit)

/-- The character that a modifier begins with. -/
def letter : Modifier → Char
  | keep _ => 'k'
  | drop _ => 'd'
  | explode mark _ => mark.char
  | reroll _ => 'r'

/-- The digits behind the letter. -/
def digits (m : Modifier) : List Char := m.numerals.flatMap Numeral.digits

theorem text_eq (m : Modifier) : m.text = m.letter :: m.digits := by
  cases m with
  | explode mark n =>
    cases n with
    | none => rfl
    | some n => exact congrArg (mark.char :: ·) (List.append_nil n.digits).symm
  | keep n => exact congrArg ('k' :: ·) (List.append_nil n.digits).symm
  | drop n => exact congrArg ('d' :: ·) (List.append_nil n.digits).symm
  | reroll n => exact congrArg ('r' :: ·) (List.append_nil n.digits).symm

theorem isDigit_letter (m : Modifier) : m.letter.isDigit = false := by
  cases m with
  | explode mark n =>
    cases mark with
    | bang => rfl
    | letter => rfl
  | _ => rfl

theorem isDigit_of_mem_digits {m : Modifier} (hm : ∀ n ∈ m.numerals, n.IsNumber) : ∀ c ∈ m.digits, c.isDigit := by
  intro c hc
  obtain ⟨n, hn, hc⟩ := List.mem_flatMap.mp hc
  exact (hm n hn).2 c hc

theorem flatMap_text_cons (m : Modifier) (row : List Modifier) :
    (m :: row).flatMap text = m.letter :: (m.digits ++ row.flatMap text) := by
  rw [List.flatMap_cons, text_eq]
  rfl

theorem noDigit_flatMap_text (row : List Modifier) : NoDigit (row.flatMap text) := by
  cases row with
  | nil => exact fun c hc => by cases hc
  | cons m row =>
    intro c hc
    rw [flatMap_text_cons] at hc
    obtain rfl : m.letter = c := Option.some.inj hc
    exact isDigit_letter m

section

variable {row : List Modifier} (hrow : ∀ n ∈ row.flatMap numerals, n.IsNumber) {a b : List Char}

include hrow

/-- What is no digit begins a modifier. -/
theorem exists_of_letter {c : Char} (hc : c.isDigit = false) (h : row.flatMap text = a ++ c :: b) :
    ∃ before m after, row = before ++ m :: after ∧ a = before.flatMap text ∧ c = m.letter ∧
      b = m.digits ++ after.flatMap text := by
  induction row generalizing a with
  | nil => simp at h
  | cons m rest ih =>
    obtain ⟨hm, hrest⟩ := List.forall_mem_append.mp (List.flatMap_cons ▸ hrow)
    rw [flatMap_text_cons] at h
    cases a with
    | nil =>
      obtain ⟨hletter, hb⟩ := List.cons.inj h
      exact ⟨[], m, rest, rfl, rfl, hletter.symm, hb.symm⟩
    | cons e a =>
      obtain ⟨rfl, htail⟩ := List.cons.inj h
      have hfree : c ∉ m.digits := by
        intro hmem
        rw [isDigit_of_mem_digits hm c hmem] at hc
        cases hc
      obtain ⟨a', rfl, hlater⟩ := behind_of_not_mem htail hfree
      obtain ⟨before, m', after, rfl, rfl, hletter, hb⟩ := ih hrest hlater
      exact ⟨m :: before, m', after, rfl, (flatMap_text_cons m before).symm, hletter, hb⟩

/-- The first digit of a number stands right behind the letter of its modifier. -/
theorem exists_of_digit {d : Char} (hd : d.isDigit) (ha : ¬EndsInDigit a) (h : row.flatMap text = a ++ d :: b) :
    ∃ before m after ds, row = before ++ m :: after ∧ a = before.flatMap text ++ [m.letter] ∧ m.digits = d :: ds ∧
      b = ds ++ after.flatMap text := by
  rcases List.eq_nil_or_concat a with rfl | ⟨a, c, rfl⟩
  · have hhead := noDigit_flatMap_text row d (by rw [h]; rfl)
    rw [hd] at hhead
    cases hhead
  · rw [List.concat_eq_append] at h ha
    have hc : c.isDigit = false := by
      rw [← Bool.not_eq_true]
      exact fun hdigit => ha ⟨c, by simp, hdigit⟩
    rw [List.append_assoc] at h
    obtain ⟨before, m, after, hrow', rfl, rfl, hb⟩ := exists_of_letter hrow hc h
    cases hdigits : m.digits with
    | nil =>
      rw [hdigits] at hb
      have hhead := noDigit_flatMap_text after d (by rw [← List.nil_append (after.flatMap text), ← hb]; rfl)
      rw [hd] at hhead
      cases hhead
    | cons e ds =>
      rw [hdigits] at hb
      obtain ⟨rfl, hb'⟩ := List.cons.inj hb
      exact ⟨before, m, after, ds, hrow', by simp, hdigits, hb'⟩

end

/-- The modifier with a letter and digits. -/
private def ofText (letter : Char) (digits : List Char) : Modifier :=
  match letter with
  | 'k' => keep ⟨digits⟩
  | 'd' => drop ⟨digits⟩
  | 'r' => reroll ⟨digits⟩
  | '!' => explode .bang (if digits = [] then none else some ⟨digits⟩)
  | _ => explode .letter (if digits = [] then none else some ⟨digits⟩)

private theorem ofText_self {m : Modifier} (hm : ∀ n ∈ m.numerals, n.IsNumber) : ofText m.letter m.digits = m := by
  have hdigits : ∀ n : Numeral, (⟨n.digits ++ []⟩ : Numeral) = n := by
    intro n
    rw [List.append_nil]
  cases m with
  | keep n => exact congrArg keep (hdigits n)
  | drop n => exact congrArg drop (hdigits n)
  | reroll n => exact congrArg reroll (hdigits n)
  | explode mark n =>
    have hthreshold : (if (explode mark n).digits = [] then none else some ⟨(explode mark n).digits⟩) = n := by
      cases n with
      | none => rfl
      | some n =>
        have hne : n.digits ++ [] ≠ [] := by simpa using (hm n (by simp [numerals])).1
        exact (if_neg hne).trans (congrArg some (hdigits n))
    cases mark with
    | bang => exact congrArg (explode .bang) hthreshold
    | letter => exact congrArg (explode .letter) hthreshold

/-- A modifier is known by its letter and its digits. -/
theorem eq_of_text {m m' : Modifier} (hm : ∀ n ∈ m.numerals, n.IsNumber) (hm' : ∀ n ∈ m'.numerals, n.IsNumber)
    (hletter : m.letter = m'.letter) (hdigits : m.digits = m'.digits) : m = m' := by
  rw [← ofText_self hm, hletter, hdigits, ofText_self hm']

/-- A row of modifiers cannot be read in two ways. -/
theorem exists_append_of_text {row part : List Modifier} (hrow : ∀ n ∈ row.flatMap numerals, n.IsNumber)
    (hpart : ∀ n ∈ part.flatMap numerals, n.IsNumber) {b : List Char} (hb : NoDigit b)
    (h : row.flatMap text = part.flatMap text ++ b) : ∃ after, row = part ++ after ∧ b = after.flatMap text := by
  induction part generalizing row with
  | nil => exact ⟨row, rfl, h.symm⟩
  | cons m part ih =>
    rw [flatMap_text_cons, List.cons_append, List.append_assoc] at h
    cases row with
    | nil => cases h
    | cons e row =>
      rw [List.flatMap_cons] at hrow hpart
      obtain ⟨he, hrest⟩ := List.forall_mem_append.mp hrow
      obtain ⟨hm, hmore⟩ := List.forall_mem_append.mp hpart
      rw [flatMap_text_cons] at h
      obtain ⟨hletter, h⟩ := List.cons.inj h
      obtain ⟨hdigits, hbehind⟩ := Formula.digits_unique (isDigit_of_mem_digits he) (isDigit_of_mem_digits hm)
        (noDigit_flatMap_text row) ((noDigit_flatMap_text part).append hb) h
      obtain rfl := eq_of_text he hm hletter hdigits
      obtain ⟨after, rfl, hafter⟩ := ih hrest hmore hbehind
      exact ⟨after, rfl, hafter⟩

end Modifier

namespace Formula

/-! ### Numbers and dice terms -/

/-- The characters that stand between numbers and dice terms. -/
def joints : List Char := ['(', ')', '+', '-', '*', '×', '·']

theorem not_mem_joints_of_isDigit {c : Char} (h : c.isDigit) : c ∉ joints := by
  have hall : (joints.all fun c => !c.isDigit) = true := by decide
  intro hc
  have hno := List.all_eq_true.mp hall c hc
  simp [h] at hno

theorem not_mem_joints_of_mem_row {row : List Modifier} (hrow : ∀ n ∈ row.flatMap Modifier.numerals, n.IsNumber)
    {c : Char} (hc : c ∈ row.flatMap Modifier.text) : c ∉ joints := by
  obtain ⟨m, hm, hc⟩ := List.mem_flatMap.mp hc
  rw [Modifier.text_eq] at hc
  rcases List.mem_cons.mp hc with rfl | hc
  · cases m with
    | explode mark n =>
      cases mark with
      | bang => exact (by decide : '!' ∉ joints)
      | letter => exact (by decide : 'e' ∉ joints)
    | keep n => exact (by decide : 'k' ∉ joints)
    | drop n => exact (by decide : 'd' ∉ joints)
    | reroll n => exact (by decide : 'r' ∉ joints)
  · have hnumbers : ∀ n ∈ m.numerals, n.IsNumber := fun n hn => hrow n (List.mem_flatMap.mpr ⟨m, hm, hn⟩)
    exact not_mem_joints_of_isDigit (Modifier.isDigit_of_mem_digits hnumbers c hc)

/-- The letter and the sides of a dice term read like a modifier that drops dice. -/
theorem text_sided (sides : Numeral) (row : List Modifier) :
    'd' :: (WrittenKind.sided sides row).text = (Modifier.drop sides :: row).flatMap Modifier.text := rfl

theorem numerals_sided (sides : Numeral) (row : List Modifier) :
    (WrittenKind.sided sides row).numerals = (Modifier.drop sides :: row).flatMap Modifier.numerals := rfl

theorem eq_minus_of_mem_signText {negative : Bool} {c : Char} (h : c ∈ signText negative) : c = '-' := by
  cases negative with
  | false => cases h
  | true => exact List.mem_singleton.mp h

theorem isDigit_of_mem_countText {d : WrittenDice} (hd : ∀ n ∈ d.numerals, n.IsNumber) {c : Char}
    (h : c ∈ d.countText) : c.isDigit := by
  rw [countText_eq] at h
  cases hcount : d.count with
  | none =>
    rw [hcount] at h
    cases h
  | some n =>
    rw [hcount] at h
    exact (hd n (List.mem_append_left _ (by simp [hcount]))).2 c h

/-- Dice without sides are written with their letters alone. -/
theorem exists_sided {k : WrittenKind} {c : Char} (h : c ∈ 'd' :: k.text) (hc : c ∉ ['d', '%', 'f']) :
    ∃ sides row, k = .sided sides row := by
  cases k with
  | percentile =>
    have hletters : 'd' :: WrittenKind.percentile.text ⊆ ['d', '%', 'f'] := by decide
    exact absurd (hletters h) hc
  | fudge =>
    have hletters : 'd' :: WrittenKind.fudge.text ⊆ ['d', '%', 'f'] := by decide
    exact absurd (hletters h) hc
  | sided sides row => exact ⟨sides, row, rfl⟩

theorem not_mem_joints_of_mem_kind {k : WrittenKind} (hk : ∀ n ∈ k.numerals, n.IsNumber) {c : Char}
    (h : c ∈ 'd' :: k.text) : c ∉ joints := by
  by_cases hc : c ∈ ['d', '%', 'f']
  · have hall : (['d', '%', 'f'].all fun c => decide (c ∉ joints)) = true := by decide
    exact of_decide_eq_true (List.all_eq_true.mp hall c hc)
  · obtain ⟨sides, row, rfl⟩ := exists_sided h hc
    rw [text_sided] at h
    rw [numerals_sided] at hk
    exact not_mem_joints_of_mem_row hk h

/-- The only joint in a dice term is its sign. -/
theorem eq_minus_of_mem_text {d : WrittenDice} (hd : ∀ n ∈ d.numerals, n.IsNumber) {c : Char} (h : c ∈ d.text)
    (hc : c ∈ joints) : c = '-' := by
  unfold WrittenDice.text at h
  rcases List.mem_append.mp h with h | h
  · rcases List.mem_append.mp h with h | h
    · exact eq_minus_of_mem_signText h
    · exact absurd hc (not_mem_joints_of_isDigit (isDigit_of_mem_countText hd h))
  · exact absurd hc (not_mem_joints_of_mem_kind (fun n hn => hd n (List.mem_append_right _ hn)) h)

def IsOperator (c : Char) : Prop := c ∈ joints ∧ c ≠ '(' ∧ c ≠ ')'

instance (c : Char) : Decidable (IsOperator c) := inferInstanceAs (Decidable (_ ∧ _))

theorem isOperator_of_multiplicative? {c : Char} {symbol : Symbol} (h : multiplicative? c = some symbol) :
    IsOperator c := by
  unfold multiplicative? at h
  split at h <;> first | decide | cases h

theorem isOperator_of_additive? {c : Char} {symbol : Symbol} (h : additive? c = some symbol) : IsOperator c := by
  unfold additive? at h
  split at h <;> first | decide | cases h

theorem IsOperator.isDigit_eq_false {c : Char} (h : IsOperator c) : c.isDigit = false := by
  rw [← Bool.not_eq_true]
  exact fun hdigit => not_mem_joints_of_isDigit hdigit h.1

/-! ### Open parentheses -/

/-- The places of the parentheses that are open behind a text, the innermost first.  The text starts at the place `i`, and
those at the places `outer` are open before it. -/
def openedFrom (i : Nat) (outer : List Nat) : List Char → List Nat
  | [] => outer
  | c :: rest => openedFrom (i + 1) (if c = '(' then i :: outer else if c = ')' then outer.tail else outer) rest

def unclosed (text : List Char) : List Nat := openedFrom 0 [] text

theorem openedFrom_append (i : Nat) (outer : List Nat) (s t : List Char) :
    openedFrom i outer (s ++ t) = openedFrom (i + s.length) (openedFrom i outer s) t := by
  induction s generalizing i outer with
  | nil => rfl
  | cons c s ih =>
    rw [List.cons_append, openedFrom, openedFrom, ih, List.length_cons, Nat.add_assoc, Nat.add_comm 1]

theorem openedFrom_open (i : Nat) (outer : List Nat) (s : List Char) :
    openedFrom i outer ('(' :: s) = openedFrom (i + 1) (i :: outer) s := rfl

theorem openedFrom_cons_of_ne {c : Char} (h : c ≠ '(' ∧ c ≠ ')') (i : Nat) (outer : List Nat) (s : List Char) :
    openedFrom i outer (c :: s) = openedFrom (i + 1) outer s := by
  rw [openedFrom, if_neg h.1, if_neg h.2]

private theorem openedFrom_of_forall {s : List Char} (h : ∀ c ∈ s, c ≠ '(' ∧ c ≠ ')') (i : Nat) (outer : List Nat) :
    openedFrom i outer s = outer := by
  induction s generalizing i with
  | nil => rfl
  | cons c s ih =>
    obtain ⟨hc, hs⟩ := List.forall_mem_cons.mp h
    rw [openedFrom_cons_of_ne hc, ih hs]

private theorem ne_of_joints {c : Char} (h : c ∈ joints → c = '-') : c ≠ '(' ∧ c ≠ ')' := by
  constructor
  · rintro rfl
    exact absurd (h (by decide)) (by decide)
  · rintro rfl
    exact absurd (h (by decide)) (by decide)

/-- A part of a formula closes what it opens and nothing else. -/
theorem Derives.openedFrom_eq {k : Nonterminal} {s : List Char} {f : Formula} (h : Derives k s f) (i : Nat)
    (outer : List Nat) : openedFrom i outer s = outer := by
  induction h generalizing i outer with
  | literal negative hn =>
    refine openedFrom_of_forall (fun c hc => ne_of_joints fun hjoint => ?_) i outer
    rcases List.mem_append.mp hc with hc | hc
    · exact eq_minus_of_mem_signText hc
    · exact absurd hjoint (not_mem_joints_of_isDigit (hn.2 c hc))
  | dice hd => exact openedFrom_of_forall (fun c hc => ne_of_joints (eq_minus_of_mem_text hd hc)) i outer
  | group h ih =>
    rw [List.cons_append, openedFrom_open, openedFrom_append, ih]
    rfl
  | factor h ih => exact ih i outer
  | times hl hc hr ihl ihr =>
    rw [openedFrom_append, ihl, openedFrom_cons_of_ne (isOperator_of_multiplicative? hc).2, ihr]
  | product h ih => exact ih i outer
  | plus hl hc hr ihl ihr =>
    rw [openedFrom_append, ihl, openedFrom_cons_of_ne (isOperator_of_additive? hc).2, ihr]

end Formula

end Tabletop
