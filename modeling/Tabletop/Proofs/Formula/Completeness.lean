import Tabletop.Proofs.Formula.Soundness

/-!
# Every formula within the bounds is read

One character ahead is enough: a text that derives is read with the tree of its derivation, provided that its numbers
and its nesting are within the bounds, and reading breaks off otherwise (`Derives.settles`).  So reading accepts exactly
the formulas within the bounds (`read_eq_ok_iff`), and where it accepts a text there is no other tree for it
(`eq_of_read`).
-/

namespace Tabletop

/-- A computation comes to `target` if a condition holds, and to an error otherwise. -/
structure Settles {ε α : Type} (r : Except ε α) (condition : Prop) (target : Except ε α) : Prop where
  eq_target : condition → r = target
  is_error : ¬condition → ∃ e, r = .error e

namespace Settles

theorem of_eq {ε α : Type} {r target : Except ε α} (h : r = target) : Settles r True target :=
  ⟨fun _ => h, fun hn => absurd trivial hn⟩

theorem congr {ε α : Type} {r target : Except ε α} {P Q : Prop} (h : Settles r P target) (hPQ : Q ↔ P) :
    Settles r Q target :=
  ⟨fun hq => h.eq_target (hPQ.mp hq), fun hq => h.is_error fun hp => hq (hPQ.mpr hp)⟩

theorem trans {ε α : Type} {r middle target : Except ε α} {P Q : Prop} (h : Settles r P middle)
    (h' : Settles middle Q target) : Settles r (P ∧ Q) target := by
  refine ⟨fun hpq => (h.eq_target hpq.1).trans (h'.eq_target hpq.2), fun hpq => ?_⟩
  by_cases hp : P
  · rw [h.eq_target hp]
    exact h'.is_error fun hq => hpq ⟨hp, hq⟩
  · exact h.is_error hp

theorem bind {ε α β : Type} {r : Except ε α} {f : α → Except ε β} {a : α} {P : Prop} (h : Settles r P (.ok a)) :
    Settles (r >>= f) P (f a) := by
  refine ⟨fun hp => by rw [h.eq_target hp]; rfl, fun hp => ?_⟩
  obtain ⟨e, he⟩ := h.is_error hp
  exact ⟨e, by rw [he]; rfl⟩

end Settles

def Numeral.InBounds (n : Numeral) : Prop := n.value ≤ maxNumber

namespace Formula

/-! ### Numbers -/

def NoDigit (rest : List Char) : Prop := ∀ c ∈ rest.head?, c.isDigit = false

theorem takeWhile_of_noDigit {rest : List Char} (h : NoDigit rest) : rest.takeWhile Char.isDigit = [] := by
  cases rest with
  | nil => rfl
  | cons c rest =>
    rw [List.takeWhile_cons_of_neg]
    simp [h c (by simp)]

private theorem dropWhile_of_noDigit {rest : List Char} (h : NoDigit rest) :
    rest.dropWhile Char.isDigit = rest := by
  cases rest with
  | nil => rfl
  | cons c rest =>
    rw [List.dropWhile_cons_of_neg]
    simp [h c (by simp)]

private theorem digits_eq {c c' : Cursor} {n : Numeral} (hn : n.IsNumber) (hs : c.Spans n.digits c')
    (hrest : NoDigit c'.rest) : c.digits = n.digits := by
  unfold Cursor.digits
  rw [hs.rest, List.takeWhile_append_of_pos hn.2, takeWhile_of_noDigit hrest, List.append_nil]

private theorem skipDigits_eq {c c' : Cursor} {n : Numeral} (hn : n.IsNumber) (hs : c.Spans n.digits c')
    (hrest : NoDigit c'.rest) : c.skipDigits = c' := by
  unfold Cursor.skipDigits
  rw [digits_eq hn hs hrest, hs.rest, List.dropWhile_append_of_pos hn.2, dropWhile_of_noDigit hrest, ← hs.position]

private theorem atDigit_of_spans {c c' : Cursor} {n : Numeral} (hn : n.IsNumber) (hs : c.Spans n.digits c') :
    c.atDigit := by
  obtain ⟨digits⟩ := n
  obtain ⟨hne, hdigits⟩ := hn
  cases digits with
  | nil => exact absurd rfl hne
  | cons d digits =>
    unfold Cursor.atDigit
    rw [hs.next?_eq]
    exact hdigits d (by simp)

private theorem not_atDigit {c : Cursor} (h : NoDigit c.rest) : c.atDigit = false := by
  unfold Cursor.atDigit Cursor.next?
  cases hc : c.rest.head? with
  | none => rfl
  | some d => exact h d hc

private theorem numeral_settles {c c' : Cursor} {n : Numeral} (hn : n.IsNumber) (hs : c.Spans n.digits c')
    (hrest : NoDigit c'.rest) : Settles (numeral c) n.InBounds (.ok (n, c')) := by
  have hne : n.digits.isEmpty = false := by simpa using hn.1
  simp only [numeral, digits_eq hn hs hrest, skipDigits_eq hn hs hrest, hne, Bool.false_eq_true, if_false]
  refine ⟨fun hb => ?_, fun hb => ?_⟩
  · rw [if_neg (Nat.not_lt.mpr hb)]
  · rw [if_pos (Nat.lt_of_not_le hb)]
    exact ⟨_, rfl⟩

private theorem numeral?_settles {c c' : Cursor} {n : Option Numeral} (hn : ∀ m ∈ n.toList, m.IsNumber)
    (hs : c.Spans (n.elim [] Numeral.digits) c') (hrest : NoDigit c'.rest) :
    Settles (numeral? c) (∀ m ∈ n.toList, m.InBounds) (.ok (n, c')) := by
  unfold numeral?
  cases n with
  | none =>
    obtain rfl := hs.eq_of_nil
    rw [not_atDigit hrest, if_neg (by simp)]
    exact (Settles.of_eq rfl).congr (by simp)
  | some n =>
    have hn := hn n (by simp)
    rw [atDigit_of_spans hn hs, if_pos rfl]
    exact (numeral_settles hn hs hrest).bind.congr (by simp)

/-! ### What stands behind a part -/

/-- The characters that may stand behind a factor or a product. -/
def behindFactor : List Char := [')', '+', '-', '*', '×', '·']

/-- The characters that may stand behind an expression, of which more may follow. -/
def behindExpression : List Char := [')', '+', '-']

/-- The text ends or goes on with one of the characters. -/
def EndsOr (chars rest : List Char) : Prop := ∀ c ∈ rest.head?, c ∈ chars

private theorem EndsOr.mono {chars chars' rest : List Char} (h : EndsOr chars rest) (hsub : chars ⊆ chars') :
    EndsOr chars' rest :=
  fun c hc => hsub (h c hc)

private theorem noDigit_of_endsOr {rest : List Char} (h : EndsOr behindFactor rest) : NoDigit rest := by
  intro c hc
  have hall : behindFactor.all (fun d => !d.isDigit) = true := by decide
  simpa using List.all_eq_true.mp hall c (h c hc)

private theorem next?_ne_of_endsOr {c : Cursor} {d : Char} (h : EndsOr behindFactor c.rest)
    (hd : d ∉ behindFactor) : c.next? ≠ some d :=
  fun hc => hd (h d hc)

/-! ### Modifiers -/

private theorem modifierValue_settles {c c' : Cursor} {n : Numeral} (hn : n.IsNumber) (hs : c.Spans n.digits c')
    (hrest : NoDigit c'.rest) (letter : Char) : Settles (modifierValue letter c) n.InBounds (.ok (n, c')) := by
  unfold modifierValue
  rw [atDigit_of_spans hn hs, if_pos rfl]
  exact numeral_settles hn hs hrest

private theorem explosionText_eq (mark : ExplosionMark) (n : Option Numeral) :
    (Modifier.explode mark n).text = mark.char :: n.elim [] Numeral.digits := by
  cases n with
  | none => rfl
  | some n => rfl

private theorem modifier?_settles {c c' : Cursor} {m : Modifier} (hm : ∀ n ∈ m.numerals, n.IsNumber)
    (hs : c.Spans m.text c') (hrest : NoDigit c'.rest) :
    Settles (modifier? c) (∀ n ∈ m.numerals, n.InBounds) (.ok (some m, c')) := by
  unfold modifier?
  cases m with
  | keep n =>
    rw [hs.next?_eq]
    have hn := hm n (by simp [Modifier.numerals])
    exact (modifierValue_settles hn hs.skip hrest 'k').bind.congr (by simp [Modifier.numerals])
  | drop n =>
    rw [hs.next?_eq]
    have hn := hm n (by simp [Modifier.numerals])
    exact (modifierValue_settles hn hs.skip hrest 'd').bind.congr (by simp [Modifier.numerals])
  | explode mark n =>
    rw [explosionText_eq] at hs
    rw [hs.next?_eq]
    cases mark with
    | bang => exact (numeral?_settles hm hs.skip hrest).bind
    | letter => exact (numeral?_settles hm hs.skip hrest).bind
  | reroll n =>
    rw [hs.next?_eq]
    have hn := hm n (by simp [Modifier.numerals])
    exact (modifierValue_settles hn hs.skip hrest 'r').bind.congr (by simp [Modifier.numerals])

private theorem modifier?_of_endsOr {c : Cursor} (h : EndsOr behindFactor c.rest) :
    modifier? c = .ok (none, c) := by
  unfold modifier?
  split
  case h_1 hc => exact absurd hc (next?_ne_of_endsOr h (by decide))
  case h_2 hc => exact absurd hc (next?_ne_of_endsOr h (by decide))
  case h_3 hc => exact absurd hc (next?_ne_of_endsOr h (by decide))
  case h_4 hc => exact absurd hc (next?_ne_of_endsOr h (by decide))
  case h_5 hc => exact absurd hc (next?_ne_of_endsOr h (by decide))
  case h_6 => rfl

theorem modifierText_eq_cons (m : Modifier) : ∃ d s, m.text = d :: s ∧ d.isDigit = false := by
  cases m with
  | keep n => exact ⟨_, _, rfl, by decide⟩
  | drop n => exact ⟨_, _, rfl, by decide⟩
  | explode mark n =>
    refine ⟨_, _, explosionText_eq mark n, ?_⟩
    cases mark with
    | bang => decide
    | letter => decide
  | reroll n => exact ⟨_, _, rfl, by decide⟩

private theorem noDigit_of_modifiers {c c' : Cursor} {ms : List Modifier} (hs : c.Spans (ms.flatMap Modifier.text) c')
    (hrest : NoDigit c'.rest) : NoDigit c.rest := by
  cases ms with
  | nil =>
    obtain rfl := hs.eq_of_nil
    exact hrest
  | cons m ms =>
    obtain ⟨d, s, hm, hd⟩ := modifierText_eq_cons m
    rw [List.flatMap_cons, hm] at hs
    intro e he
    have : e = d := Option.some.inj (he.symm.trans hs.next?_eq)
    rw [this]
    exact hd

private theorem length_le_of_modifiers {c c' : Cursor} {ms : List Modifier}
    (hs : c.Spans (ms.flatMap Modifier.text) c') : ms.length ≤ c.rest.length := by
  induction ms generalizing c with
  | nil => exact Nat.zero_le _
  | cons m ms ih =>
    obtain ⟨d, s, hm, -⟩ := modifierText_eq_cons m
    rw [List.flatMap_cons, hm] at hs
    obtain ⟨c₁, hs₁, hs₂⟩ := hs.split
    have h₁ := ih hs₂
    have h₂ := hs₁.rest
    rw [h₂, List.length_append, List.length_cons, List.length_cons]
    omega

private theorem modifiersWithin_settles {room : Nat} {c c' : Cursor} {ms : List Modifier}
    (hms : ∀ n ∈ ms.flatMap Modifier.numerals, n.IsNumber) (hs : c.Spans (ms.flatMap Modifier.text) c')
    (hrest : EndsOr behindFactor c'.rest) (hroom : ms.length ≤ room) :
    Settles (modifiersWithin room c) (∀ n ∈ ms.flatMap Modifier.numerals, n.InBounds) (.ok (ms, c')) := by
  induction ms generalizing room c with
  | nil =>
    obtain rfl := hs.eq_of_nil
    refine (Settles.of_eq ?_).congr (by simp)
    cases room with
    | zero => rfl
    | succ room =>
      unfold modifiersWithin
      rw [modifier?_of_endsOr hrest]
      rfl
  | cons m ms ih =>
    cases room with
    | zero => exact absurd hroom (by simp)
    | succ room =>
      rw [List.flatMap_cons] at hms hs
      obtain ⟨c₁, hs₁, hs₂⟩ := hs.split
      have hnext := noDigit_of_modifiers hs₂ (noDigit_of_endsOr hrest)
      have hm := modifier?_settles (fun n hn => hms n (List.mem_append_left _ hn)) hs₁ hnext
      have hms := ih (fun n hn => hms n (List.mem_append_right _ hn)) hs₂ (Nat.le_of_succ_le_succ hroom)
      rw [List.flatMap_cons]
      exact (hm.bind.trans hms.bind).congr List.forall_mem_append

/-! ### Terms -/

private theorem kind_settles {c c' : Cursor} {k : WrittenKind} (hk : ∀ n ∈ k.numerals, n.IsNumber)
    (hs : c.Spans k.text c') (hrest : EndsOr behindFactor c'.rest) :
    Settles (kind c) (∀ n ∈ k.numerals, n.InBounds) (.ok (k, c')) := by
  cases k with
  | sided sides ms =>
    obtain ⟨c₁, hs₁, hs₂⟩ := hs.split
    rw [WrittenKind.numerals] at hk ⊢
    have hdigit := atDigit_of_spans (hk sides (by simp)) hs₁
    have hnext := noDigit_of_modifiers hs₂ (noDigit_of_endsOr hrest)
    have hsides := numeral_settles (hk sides (by simp)) hs₁ hnext
    have hms := modifiersWithin_settles (fun n hn => hk n (List.mem_cons_of_mem _ hn)) hs₂ hrest
      (length_le_of_modifiers hs₂)
    unfold kind
    split
    case h_1 hc => simp [Cursor.atDigit, hc] at hdigit
    case h_2 hc => simp [Cursor.atDigit, hc] at hdigit
    case h_3 =>
      rw [if_pos hdigit]
      exact (hsides.bind.trans hms.bind).congr List.forall_mem_cons
  | percentile =>
    unfold kind
    rw [hs.next?_eq, hs.skip.eq_of_nil]
    exact (Settles.of_eq rfl).congr (by simp [WrittenKind.numerals])
  | fudge =>
    unfold kind
    rw [hs.next?_eq, hs.skip.eq_of_nil]
    exact (Settles.of_eq rfl).congr (by simp [WrittenKind.numerals])

private theorem sign_spans {c c' : Cursor} {negative : Bool} {d : Char} {s : List Char}
    (hs : c.Spans (signText negative ++ d :: s) c') (hd : d ≠ '-') :
    (c.next? == some '-') = negative ∧ (if negative then c.skip else c).Spans (d :: s) c' := by
  cases negative with
  | false =>
    have hs : c.Spans (d :: s) c' := hs
    refine ⟨?_, hs⟩
    rw [hs.next?_eq]
    simpa using hd
  | true =>
    have hs : c.Spans ('-' :: d :: s) c' := hs
    refine ⟨?_, hs.skip⟩
    rw [hs.next?_eq]
    rfl

private theorem ne_of_isDigit {d e : Char} (hd : d.isDigit) (he : e.isDigit = false) : d ≠ e := by
  rintro rfl
  simp [hd] at he

private theorem digits_eq_cons {n : Numeral} (hn : n.IsNumber) :
    ∃ d s, n.digits = d :: s ∧ d.isDigit := by
  obtain ⟨digits⟩ := n
  obtain ⟨hne, hdigits⟩ := hn
  cases digits with
  | nil => exact absurd rfl hne
  | cons d s => exact ⟨d, s, rfl, hdigits d (by simp)⟩

private theorem literal_settles {c c' : Cursor} {negative : Bool} {n : Numeral} (hn : n.IsNumber)
    (hs : c.Spans (signText negative ++ n.digits) c') (hrest : EndsOr behindFactor c'.rest) :
    Settles (term c) n.InBounds (.ok (.literal negative n, c')) := by
  obtain ⟨d, s, hdigits, hd⟩ := digits_eq_cons hn
  rw [hdigits] at hs
  obtain ⟨hsign, hs⟩ := sign_spans hs (ne_of_isDigit hd (by decide))
  rw [← hdigits] at hs
  unfold term
  simp only [hsign]
  have hcount := numeral?_settles (n := some n) (by simpa using hn) hs (noDigit_of_endsOr hrest)
  refine (hcount.bind.trans (Q := True) ?_).congr (by simp)
  rw [if_neg (by simpa using next?_ne_of_endsOr hrest (by decide))]
  exact .of_eq rfl

private theorem countText_append_eq_cons {count : Option Numeral} (hn : ∀ n ∈ count.toList, n.IsNumber)
    (s : List Char) : ∃ e t, count.elim [] Numeral.digits ++ 'd' :: s = e :: t ∧ (e = 'd' ∨ e.isDigit) := by
  cases count with
  | none => exact ⟨'d', s, rfl, .inl rfl⟩
  | some n =>
    obtain ⟨e, t, hdigits, he⟩ := digits_eq_cons (hn n (by simp))
    exact ⟨e, t ++ 'd' :: s, by rw [Option.elim_some, hdigits]; rfl, .inr he⟩

private theorem noDigit_of_letter {c c' : Cursor} {s : List Char} (hs : c.Spans ('d' :: s) c') :
    NoDigit c.rest := by
  intro e he
  rw [← Option.some.inj (hs.next?_eq.symm.trans he)]
  decide

private theorem dice_settles {c c' : Cursor} {d : WrittenDice} (hd : ∀ n ∈ d.numerals, n.IsNumber)
    (hs : c.Spans (signText d.negative ++ d.countText ++ 'd' :: d.kind.text) c')
    (hrest : EndsOr behindFactor c'.rest) :
    Settles (term c) (∀ n ∈ d.numerals, n.InBounds) (.ok (.dice d, c')) := by
  obtain ⟨negative, count, k⟩ := d
  simp only [countText_eq, List.append_assoc] at hs
  unfold WrittenDice.numerals at hd ⊢
  have hcount : ∀ n ∈ count.toList, n.IsNumber := fun n hn => hd n (List.mem_append_left _ hn)
  have hkind : ∀ n ∈ k.numerals, n.IsNumber := fun n hn => hd n (List.mem_append_right _ hn)
  obtain ⟨e, t, htext, he⟩ := countText_append_eq_cons hcount k.text
  rw [htext] at hs
  have hne : e ≠ '-' := he.elim (fun h => h ▸ by decide) (ne_of_isDigit · (by decide))
  obtain ⟨hsign, hs⟩ := sign_spans hs hne
  rw [← htext] at hs
  obtain ⟨c₁, hs₁, hs₂⟩ := hs.split
  unfold term
  simp only [hsign]
  refine ((numeral?_settles hcount hs₁ (noDigit_of_letter hs₂)).bind.trans ?_).congr List.forall_mem_append
  rw [if_pos (by simp [hs₂.next?_eq])]
  exact (kind_settles hkind hs₂.skip hrest).bind

/-! ### Chains of operands -/

/-- All operands that operators join to `left`. -/
def join (symbol? : Char → Option Symbol) (operand : Cursor → Reading Formula) (left : Formula) (c : Cursor) :
    Reading Formula :=
  joinWithin symbol? operand c.rest.length left c

section
variable {k : Nonterminal} {symbol? : Char → Option Symbol} {operand : Cursor → Reading Formula}

private theorem chain_settles {c c' : Cursor} {f : Formula} {P : Prop} (h : Settles (operand c) P (.ok (f, c'))) :
    Settles (chain symbol? operand c) P (join symbol? operand f c') := by
  unfold chain
  refine ⟨fun hp => ?_, fun hp => ?_⟩
  · rw [h.eq_target hp]
    rfl
  · obtain ⟨b, hb⟩ := h.is_error hp
    rw [hb]
    exact ⟨b, rfl⟩

/-- Every operator takes a character, so any room for the rest of the text is room enough. -/
theorem joinWithin_congr (hoperand : Sound k operand) {room room' : Nat} {left : Formula} {c : Cursor}
    (h : c.rest.length ≤ room) (h' : c.rest.length ≤ room') :
    joinWithin symbol? operand room left c = joinWithin symbol? operand room' left c := by
  induction room generalizing room' left c with
  | zero =>
    have hc : c.rest = [] := List.length_eq_zero_iff.mp (Nat.le_zero.mp h)
    cases room' with
    | zero => rfl
    | succ room' => simp [joinWithin, Cursor.next?, hc]
  | succ room ih =>
    cases room' with
    | zero =>
      have hc : c.rest = [] := List.length_eq_zero_iff.mp (Nat.le_zero.mp h')
      simp [joinWithin, Cursor.next?, hc]
    | succ room' =>
      unfold joinWithin
      cases c.next?.bind symbol? with
      | none => rfl
      | some symbol =>
        cases hright : operand c.skip with
        | error b => rfl
        | ok r =>
          obtain ⟨s, -, hs⟩ := hoperand hright
          have hle := hs.length_le
          have hskip : c.skip.rest.length = c.rest.length - 1 := List.length_tail
          exact ih (by omega) (by omega)

private theorem join_of_none {left : Formula} {c : Cursor} (h : c.next?.bind symbol? = none) :
    join symbol? operand left c = .ok (left, c) := by
  unfold join
  cases c.rest.length with
  | zero => rfl
  | succ n => simp [joinWithin, h]

private theorem join_settles (hoperand : Sound k operand) {left right : Formula} {c c' : Cursor} {d : Char}
    {s : List Char} {symbol : Symbol} {P : Prop} (hs : c.Spans (d :: s) c') (hd : symbol? d = some symbol)
    (h : Settles (operand c.skip) P (.ok (right, c'))) :
    Settles (join symbol? operand left c) P (join symbol? operand (.binary symbol left right) c') := by
  have hlength : c.rest.length = c.rest.length - 1 + 1 := by
    rw [hs.rest]
    simp
  have hle : c'.rest.length ≤ c.rest.length - 1 := by
    rw [hs.rest]
    simp
  have hsymbol : c.next?.bind symbol? = some symbol := by
    rw [hs.next?_eq]
    exact hd
  unfold join
  rw [hlength, joinWithin, hsymbol]
  refine ⟨fun hp => ?_, fun hp => ?_⟩
  · rw [h.eq_target hp]
    exact joinWithin_congr hoperand hle (Nat.le_refl _)
  · obtain ⟨b, hb⟩ := h.is_error hp
    rw [hb]
    exact ⟨_, rfl⟩

end

/-! ### All parts of a formula -/

/-- How reading goes on behind a part: a product or an expression may go on with an operator. -/
def goOn (room : Nat) (f : Formula) (c : Cursor) : Nonterminal → Reading Formula
  | .factor => .ok (f, c)
  | .product => join multiplicative? (readPart room .factor) f c
  | .expression => join additive? (readPart room .product) f c

def behind : Nonterminal → List Char
  | .factor => behindFactor
  | .product => behindFactor
  | .expression => behindExpression

/-- The bounds on the text of a formula of which `room` groups may still be nested. -/
structure Fits (room : Nat) (f : Formula) : Prop where
  numerals : ∀ n ∈ f.numerals, n.InBounds
  nesting : f.nesting ≤ room

theorem fits_binary {room : Nat} {symbol : Symbol} {l r : Formula} :
    Fits room (.binary symbol l r) ↔ Fits room l ∧ Fits room r := by
  constructor
  · rintro ⟨hn, hd⟩
    have hn := List.forall_mem_append.mp hn
    have hd := Nat.max_le.mp hd
    exact ⟨⟨hn.1, hd.1⟩, ⟨hn.2, hd.2⟩⟩
  · rintro ⟨hl, hr⟩
    exact ⟨List.forall_mem_append.mpr ⟨hl.numerals, hr.numerals⟩, Nat.max_le.mpr ⟨hl.nesting, hr.nesting⟩⟩

theorem fits_group {room : Nat} {f : Formula} : Fits (room + 1) (.group f) ↔ Fits room f :=
  ⟨fun h => ⟨h.numerals, Nat.le_of_succ_le_succ h.nesting⟩, fun h => ⟨h.numerals, Nat.succ_le_succ h.nesting⟩⟩

private theorem not_fits_group (f : Formula) : ¬Fits 0 (.group f) :=
  fun h => absurd h.nesting (Nat.not_succ_le_zero _)

private theorem mem_behindFactor {d : Char} {symbol : Symbol} (h : multiplicative? d = some symbol) :
    d ∈ behindFactor := by
  unfold multiplicative? at h
  split at h
  · decide
  · decide
  · decide
  · cases h

private theorem mem_behindExpression {d : Char} {symbol : Symbol} (h : additive? d = some symbol) :
    d ∈ behindExpression := by
  unfold additive? at h
  split at h
  · decide
  · decide
  · cases h

private theorem endsOr_of_spans {chars : List Char} {c c' : Cursor} {d : Char} {s : List Char}
    (hs : c.Spans (d :: s) c') (hd : d ∈ chars) : EndsOr chars c.rest := by
  intro e he
  rw [← Option.some.inj (hs.next?_eq.symm.trans he)]
  exact hd

/-- Behind a product that nothing more is multiplied to, the product is complete. -/
private theorem join_multiplicative {operand : Cursor → Reading Formula} {f : Formula} {c : Cursor}
    (h : EndsOr behindExpression c.rest) : join multiplicative? operand f c = .ok (f, c) := by
  apply join_of_none
  cases hc : c.next? with
  | none => rfl
  | some d =>
    have hall : behindExpression.all (fun d => (multiplicative? d).isNone) = true := by decide
    exact Option.isNone_iff_eq_none.mp (List.all_eq_true.mp hall d (h d hc))

private theorem factor_settles {inside : Option (Cursor → Reading Formula)} {c c' : Cursor} {f : Formula} {P : Prop}
    (hc : c.next? ≠ some '(') (h : Settles (term c) P (.ok (f, c'))) :
    Settles (factor inside c) P (.ok (f, c')) := by
  unfold factor
  rw [if_neg hc]
  refine ⟨fun hp => by rw [h.eq_target hp]; rfl, fun hp => ?_⟩
  obtain ⟨fault, hfault⟩ := h.is_error hp
  rw [hfault]
  exact ⟨_, rfl⟩

private theorem next?_ne_open {c c' : Cursor} {negative : Bool} {d : Char} {s : List Char}
    (hs : c.Spans (signText negative ++ d :: s) c') (hd : d ≠ '(') : c.next? ≠ some '(' := by
  cases negative with
  | false =>
    have hs : c.Spans (d :: s) c' := hs
    rw [hs.next?_eq]
    simpa using hd
  | true =>
    have hs : c.Spans ('-' :: d :: s) c' := hs
    rw [hs.next?_eq]
    decide

private theorem group_settles {room : Nat} {c c' : Cursor} {s : List Char} {f : Formula}
    (hs : c.Spans ('(' :: s ++ [')']) c')
    (h : ∀ (room : Nat) {c c' : Cursor}, c.Spans s c' → EndsOr behindExpression c'.rest →
      Settles (readPart room .expression c) (Fits room f) (join additive? (readPart room .product) f c')) :
    Settles (readPart room .factor c) (Fits room (.group f)) (.ok (.group f, c')) := by
  have hopen : c.next? = some '(' := hs.next?_eq
  obtain ⟨c₁, hs₁, hs₂⟩ := hs.skip.split
  cases room with
  | zero =>
    -- There is no room for a group, and a group does not fit.
    refine ⟨fun hf => absurd hf (not_fits_group f), fun _ => ?_⟩
    simp only [readPart, factor, inner, hopen, if_true]
    exact ⟨_, rfl⟩
  | succ room =>
    have hinside := h room hs₁ (endsOr_of_spans hs₂ (by decide))
    rw [← expression_eq_readPart, join_of_none (by rw [hs₂.next?_eq]; rfl)] at hinside
    simp only [readPart, factor, inner, hopen, if_true]
    refine ⟨fun hf => ?_, fun hf => ?_⟩
    · rw [hinside.eq_target (fits_group.mp hf)]
      simp only [hs₂.next?_eq, if_true, hs₂.skip.eq_of_nil]
    · obtain ⟨b, hb⟩ := hinside.is_error fun hf' => hf (fits_group.mpr hf')
      rw [hb]
      exact ⟨b, rfl⟩

theorem Derives.settles {k : Nonterminal} {s : List Char} {f : Formula} (h : Derives k s f) (room : Nat)
    {c c' : Cursor} (hs : c.Spans s c') (hrest : EndsOr (behind k) c'.rest) :
    Settles (readPart room k c) (Fits room f) (goOn room f c' k) := by
  induction h generalizing room c c' with
  | @literal negative n hn =>
    obtain ⟨d, t, hdigits, hd⟩ := digits_eq_cons hn
    have hopen := next?_ne_open (hdigits ▸ hs) (ne_of_isDigit hd (by decide))
    refine (factor_settles hopen (literal_settles hn hs hrest)).congr ?_
    exact ⟨fun hf => hf.numerals n (by simp [numerals]), fun hb => ⟨by simpa [numerals] using hb, Nat.zero_le _⟩⟩
  | @dice d hd =>
    have hcount : ∀ n ∈ d.count.toList, n.IsNumber := fun n hn => hd n (List.mem_append_left _ hn)
    obtain ⟨e, t, htext, he⟩ := countText_append_eq_cons hcount d.kind.text
    have hne : e ≠ '(' := he.elim (fun h => h ▸ by decide) (ne_of_isDigit · (by decide))
    rw [List.append_assoc, countText_eq, htext] at hs
    have hopen := next?_ne_open hs hne
    rw [← htext, ← countText_eq, ← List.append_assoc] at hs
    refine (factor_settles hopen (dice_settles hd hs hrest)).congr ?_
    exact ⟨fun hf => hf.numerals, fun hb => ⟨hb, Nat.zero_le _⟩⟩
  | group h ih => exact group_settles hs ih
  | factor h ih => exact chain_settles (ih room hs hrest)
  | times hl hc hr ihl ihr =>
    -- The left operand ends before a sign of multiplication, which no number or modifier takes.
    obtain ⟨c₁, hs₁, hs₂⟩ := hs.split
    have hleft := ihl room hs₁ (endsOr_of_spans hs₂ (mem_behindFactor hc))
    have hright := ihr room hs₂.skip hrest
    exact (hleft.trans (join_settles (readPart_sound room .factor) hs₂ hc hright)).congr fits_binary
  | product h ih =>
    have hproduct := ih room hs (hrest.mono (by decide))
    rw [goOn, join_multiplicative hrest] at hproduct
    exact chain_settles hproduct
  | plus hl hc hr ihl ihr =>
    obtain ⟨c₁, hs₁, hs₂⟩ := hs.split
    have hleft := ihl room hs₁ (endsOr_of_spans hs₂ (mem_behindExpression hc))
    have hright := ihr room hs₂.skip (hrest.mono (by decide))
    rw [goOn, join_multiplicative hrest] at hright
    exact (hleft.trans (join_settles (readPart_sound room .product) hs₂ hc hright)).congr fits_binary

/-! ### Whole texts -/

theorem Derives.expression_settles {text : List Char} {f : Formula} (h : Derives .expression text f) (room : Nat) :
    Settles (expression room (.start text)) (Fits room f) (.ok (f, ⟨text.length, []⟩)) := by
  have hs : (Cursor.start text).Spans text ⟨text.length, []⟩ := ⟨by simp [Cursor.start], by simp [Cursor.start]⟩
  have hwhole := h.settles room hs (by intro c hc; cases hc)
  rw [← expression_eq_readPart, goOn, join_of_none rfl] at hwhole
  exact hwhole

theorem Derives.read_settles {text : List Char} {f : Formula} (h : Derives .expression text f)
    (hlength : text.length ≤ maxLength) : Settles (read text) (Fits maxNesting f) (.ok f) := by
  have hwhole := h.expression_settles maxNesting
  unfold read
  rw [if_neg (by simpa using h.ne_nil), if_neg (Nat.not_lt.mpr hlength)]
  refine ⟨fun hf => ?_, fun hf => ?_⟩
  · rw [hwhole.eq_target hf]
    rfl
  · obtain ⟨b, hb⟩ := hwhole.is_error hf
    rw [hb]
    exact ⟨b, rfl⟩

private theorem length_le_of_read {text : List Char} {f : Formula} (h : read text = .ok f) :
    text.length ≤ maxLength := by
  unfold read at h
  split at h
  · cases h
  · split at h
    · cases h
    · rename_i hlength
      exact Nat.le_of_not_lt hlength

/-- Reading accepts the formulas within the bounds and nothing else. -/
theorem read_eq_ok_iff {text : List Char} {f : Formula} :
    read text = .ok f ↔ text.length ≤ maxLength ∧ Derives .expression text f ∧ Fits maxNesting f := by
  constructor
  · intro h
    have hlength := length_le_of_read h
    have hf := read_sound h
    refine ⟨hlength, hf, Classical.byContradiction fun hfits => ?_⟩
    obtain ⟨b, hb⟩ := (hf.read_settles hlength).is_error hfits
    rw [h] at hb
    cases hb
  · rintro ⟨hlength, hf, hfits⟩
    exact (hf.read_settles hlength).eq_target hfits

/-- A text that is read has no second tree, within the bounds or not. -/
theorem eq_of_read {text : List Char} {f g : Formula} (h : read text = .ok f) (hg : Derives .expression text g) :
    g = f := by
  have hsettles := hg.read_settles (length_le_of_read h)
  by_cases hfits : Fits maxNesting g
  · have heq := hsettles.eq_target hfits
    rw [h] at heq
    exact (Except.ok.inj heq).symm
  · obtain ⟨b, hb⟩ := hsettles.is_error hfits
    rw [h] at hb
    cases hb

end Formula

end Tabletop
