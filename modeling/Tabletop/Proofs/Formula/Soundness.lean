import Tabletop.Proofs.Formula.Grammar

/-!
# What is read is a formula

Whatever reading accepts, the grammar derives: a part that was read from one cursor to another derives the text
between the two with the tree that was read (`readPart_sound`, and `read_sound` for a whole text).
-/

namespace Tabletop

/-- The text between two cursors. -/
structure Cursor.Spans (c : Cursor) (s : List Char) (c' : Cursor) : Prop where
  rest : c.rest = s ++ c'.rest
  position : c'.position = c.position + s.length

namespace Cursor

theorem Spans.refl (c : Cursor) : c.Spans [] c := ⟨rfl, rfl⟩

theorem Spans.trans {c c' c'' : Cursor} {s t : List Char} (h : c.Spans s c') (h' : c'.Spans t c'') :
    c.Spans (s ++ t) c'' := by
  refine ⟨?_, ?_⟩
  · rw [h.rest, h'.rest, List.append_assoc]
  · rw [h'.position, h.position, List.length_append, Nat.add_assoc]

theorem spans_skip {c : Cursor} {d : Char} (h : c.next? = some d) : c.Spans [d] c.skip := by
  obtain ⟨position, rest⟩ := c
  cases rest with
  | nil => simp [next?] at h
  | cons e rest =>
    simp only [next?, List.head?_cons, Option.some.injEq] at h
    subst h
    exact ⟨rfl, rfl⟩

theorem Spans.split {c c' : Cursor} {s t : List Char} (h : c.Spans (s ++ t) c') :
    ∃ c₁, c.Spans s c₁ ∧ c₁.Spans t c' := by
  refine ⟨⟨c.position + s.length, t ++ c'.rest⟩, ⟨?_, rfl⟩, ⟨rfl, ?_⟩⟩
  · rw [h.rest, List.append_assoc]
  · rw [h.position, List.length_append, Nat.add_assoc]

theorem Spans.eq_of_nil {c c' : Cursor} (h : c.Spans [] c') : c' = c := by
  obtain ⟨position, rest⟩ := c
  obtain ⟨position', rest'⟩ := c'
  obtain ⟨hrest, hposition⟩ := h
  simp only [List.nil_append, List.length_nil, Nat.add_zero] at hrest hposition
  rw [hrest, hposition]

theorem Spans.next?_eq {c c' : Cursor} {d : Char} {s : List Char} (h : c.Spans (d :: s) c') : c.next? = some d := by
  unfold next?
  rw [h.rest]
  rfl

theorem Spans.skip {c c' : Cursor} {d : Char} {s : List Char} (h : c.Spans (d :: s) c') : c.skip.Spans s c' := by
  refine ⟨?_, ?_⟩
  · unfold Cursor.skip
    rw [h.rest]
    rfl
  · rw [h.position, List.length_cons, Cursor.skip, Nat.add_assoc, Nat.add_comm 1]

theorem spans_skipDigits (c : Cursor) : c.Spans c.digits c.skipDigits :=
  ⟨c.digits_append.symm, rfl⟩

theorem Spans.length_le {c c' : Cursor} {s : List Char} (h : c.Spans s c') : c'.rest.length ≤ c.rest.length := by
  rw [h.rest, List.length_append]
  omega

end Cursor

/-- A computation of two steps succeeds if both do. -/
theorem exists_of_bind_eq_ok {ε α β : Type} {x : Except ε α} {f : α → Except ε β} {b : β} (h : x >>= f = .ok b) :
    ∃ a, x = .ok a ∧ f a = .ok b := by
  cases x with
  | error e => cases h
  | ok a => exact ⟨a, rfl, h⟩

/-- A computation of two steps fails if one of them does. -/
theorem cases_of_bind_eq_error {ε α β : Type} {x : Except ε α} {f : α → Except ε β} {e : ε} (h : x >>= f = .error e) :
    x = .error e ∨ ∃ a, x = .ok a ∧ f a = .error e := by
  cases x with
  | error e' =>
    cases h
    exact .inl rfl
  | ok a => exact .inr ⟨a, rfl, h⟩

namespace Formula

/-! ### Numbers -/

/-- A number is a row of digits that is not empty and has no large value. -/
theorem numeral_eq_ok_iff {c c' : Cursor} {n : Numeral} :
    numeral c = .ok (n, c') ↔ n.digits = c.digits ∧ c.digits ≠ [] ∧ n.value ≤ maxNumber ∧ c' = c.skipDigits := by
  constructor
  · intro h
    simp only [numeral] at h
    split at h
    · cases h
    · rename_i hdigits
      split at h
      · cases h
      · rename_i hvalue
        cases h
        exact ⟨rfl, fun hnil => hdigits (List.isEmpty_iff.mpr hnil), Nat.le_of_not_lt hvalue, rfl⟩
  · rintro ⟨hdigits, hne, hvalue, rfl⟩
    obtain ⟨digits⟩ := n
    obtain rfl : digits = c.digits := hdigits
    simp only [numeral]
    rw [if_neg (by simpa using hne), if_neg (Nat.not_lt.mpr hvalue)]

theorem numeral_eq_error {c : Cursor} {fault : Fault} (h : numeral c = .error fault) :
    (c.digits = [] ∧ fault = .expectedNumber c.position) ∨
      (maxNumber < (Numeral.mk c.digits).value ∧ fault = .numberTooLarge (Numeral.mk c.digits).value c.position) := by
  simp only [numeral] at h
  split at h
  · rename_i hdigits
    cases h
    exact .inl ⟨List.isEmpty_iff.mp hdigits, rfl⟩
  · split at h
    · rename_i hvalue
      cases h
      exact .inr ⟨hvalue, rfl⟩
    · cases h

theorem numeral_sound {c c' : Cursor} {n : Numeral} (h : numeral c = .ok (n, c')) :
    n.IsNumber ∧ c.Spans n.digits c' := by
  obtain ⟨hdigits, hne, -, rfl⟩ := numeral_eq_ok_iff.mp h
  rw [Numeral.IsNumber, hdigits]
  exact ⟨⟨hne, fun _ hd => Cursor.isDigit_of_mem_digits hd⟩, c.spans_skipDigits⟩

theorem numeral?_sound {c c' : Cursor} {n : Option Numeral} (h : numeral? c = .ok (n, c')) :
    (∀ m ∈ n.toList, m.IsNumber) ∧ c.Spans (n.elim [] Numeral.digits) c' := by
  unfold numeral? at h
  split at h
  · obtain ⟨⟨m, c₁⟩, hm, h⟩ := exists_of_bind_eq_ok h
    cases h
    obtain ⟨hn, hs⟩ := numeral_sound hm
    exact ⟨by simpa using hn, hs⟩
  · cases h
    exact ⟨by simp, .refl c⟩

/-! ### Modifiers -/

theorem modifierValue_sound {c c' : Cursor} {letter : Char} {n : Numeral}
    (h : modifierValue letter c = .ok (n, c')) : n.IsNumber ∧ c.Spans n.digits c' := by
  unfold modifierValue at h
  split at h
  · exact numeral_sound h
  · cases h

/-- What is found of a modifier, if there is one, stands between two cursors. -/
def FoundModifier (c : Cursor) (m : Option Modifier) (c' : Cursor) : Prop :=
  (∀ n ∈ m.toList.flatMap Modifier.numerals, n.IsNumber) ∧ c.Spans (m.elim [] Modifier.text) c'

private theorem foundModifier_valued {c c' : Cursor} {letter : Char} {make : Numeral → Modifier}
    {m : Option Modifier} (hc : c.next? = some letter) (htext : ∀ n, (make n).text = letter :: n.digits)
    (hnumerals : ∀ n, (make n).numerals = [n])
    (h : (do let (n, c) ← modifierValue letter c.skip; return (some (make n), c)) = .ok (m, c')) :
    FoundModifier c m c' := by
  obtain ⟨⟨n, c₁⟩, hn, h⟩ := exists_of_bind_eq_ok h
  cases h
  obtain ⟨hn, hs⟩ := modifierValue_sound hn
  refine ⟨?_, ?_⟩
  · simpa [hnumerals] using hn
  · rw [Option.elim_some, htext]
    exact (Cursor.spans_skip hc).trans hs

private theorem foundModifier_explosion (mark : ExplosionMark) {c c' : Cursor} {m : Option Modifier}
    (hc : c.next? = some mark.char)
    (h : (do let (n, c) ← numeral? c.skip; return (some (Modifier.explode mark n), c)) = .ok (m, c')) :
    FoundModifier c m c' := by
  obtain ⟨⟨n, c₁⟩, hn, h⟩ := exists_of_bind_eq_ok h
  cases h
  obtain ⟨hn, hs⟩ := numeral?_sound hn
  refine ⟨by simpa [Modifier.numerals] using hn, ?_⟩
  have hskip := (Cursor.spans_skip hc).trans hs
  cases n with
  | none => exact hskip
  | some n => exact hskip

theorem modifier?_sound {c c' : Cursor} {m : Option Modifier} (h : modifier? c = .ok (m, c')) :
    FoundModifier c m c' := by
  unfold modifier? at h
  split at h
  case h_1 hc => exact foundModifier_valued hc (fun _ => rfl) (fun _ => rfl) h
  case h_2 hc => exact foundModifier_valued hc (fun _ => rfl) (fun _ => rfl) h
  case h_3 hc => exact foundModifier_valued hc (fun _ => rfl) (fun _ => rfl) h
  case h_4 hc => exact foundModifier_explosion .bang hc h
  case h_5 hc => exact foundModifier_explosion .letter hc h
  case h_6 =>
    cases h
    exact ⟨by simp, .refl _⟩

theorem modifiersWithin_sound {room : Nat} {c c' : Cursor} {ms : List Modifier}
    (h : modifiersWithin room c = .ok (ms, c')) :
    (∀ n ∈ ms.flatMap Modifier.numerals, n.IsNumber) ∧ c.Spans (ms.flatMap Modifier.text) c' := by
  induction room generalizing c ms with
  | zero =>
    cases h
    exact ⟨by simp, .refl _⟩
  | succ room ih =>
    obtain ⟨⟨m, c₁⟩, hm, h⟩ := exists_of_bind_eq_ok h
    obtain ⟨hn, hs⟩ := modifier?_sound hm
    cases m with
    | none =>
      cases h
      exact ⟨by simp, hs⟩
    | some m =>
      obtain ⟨⟨ms', c₂⟩, hms, h⟩ := exists_of_bind_eq_ok h
      cases h
      obtain ⟨hn', hs'⟩ := ih hms
      refine ⟨?_, hs.trans hs'⟩
      intro n hmem
      rw [List.flatMap_cons, List.mem_append] at hmem
      exact hmem.elim (fun hm => hn n (by simpa using hm)) (hn' n)

/-! ### Terms -/

theorem kind_sound {c c' : Cursor} {k : WrittenKind} (h : kind c = .ok (k, c')) :
    (∀ n ∈ k.numerals, n.IsNumber) ∧ c.Spans k.text c' := by
  unfold kind at h
  split at h
  case h_1 hc =>
    cases h
    exact ⟨by simp [WrittenKind.numerals], Cursor.spans_skip hc⟩
  case h_2 hc =>
    cases h
    exact ⟨by simp [WrittenKind.numerals], Cursor.spans_skip hc⟩
  case h_3 =>
    split at h
    · obtain ⟨⟨sides, c₁⟩, hsides, h⟩ := exists_of_bind_eq_ok h
      obtain ⟨⟨ms, c₂⟩, hms, h⟩ := exists_of_bind_eq_ok h
      cases h
      obtain ⟨hn, hs⟩ := numeral_sound hsides
      obtain ⟨hn', hs'⟩ := modifiersWithin_sound hms
      refine ⟨?_, hs.trans hs'⟩
      intro n hmem
      rw [WrittenKind.numerals, List.mem_cons] at hmem
      rcases hmem with rfl | hmem
      · exact hn
      · exact hn' n hmem
    · cases h

theorem countText_eq (d : WrittenDice) : d.countText = d.count.elim [] Numeral.digits := by
  unfold WrittenDice.countText
  cases d.count with
  | none => rfl
  | some n => rfl

theorem spans_sign (c : Cursor) :
    c.Spans (signText (c.next? == some '-')) (if (c.next? == some '-') = true then c.skip else c) := by
  split
  · rename_i hc
    rw [hc]
    exact Cursor.spans_skip (by simpa using hc)
  · rename_i hc
    rw [Bool.not_eq_true] at hc
    rw [hc]
    exact .refl c

theorem term_sound {c c' : Cursor} {f : Formula} (h : term c = .ok (f, c')) :
    ∃ s, Derives .factor s f ∧ c.Spans s c' := by
  unfold term at h
  obtain ⟨⟨count, c₁⟩, hcount, h⟩ := exists_of_bind_eq_ok h
  obtain ⟨hn, hs⟩ := numeral?_sound hcount
  have hsign := spans_sign c
  dsimp only at h
  split at h
  · rename_i hd
    obtain ⟨⟨k, c₂⟩, hk, h⟩ := exists_of_bind_eq_ok h
    cases h
    obtain ⟨hn', hs'⟩ := kind_sound hk
    refine ⟨_, .dice ?_, ?_⟩
    · intro n hmem
      rw [WrittenDice.numerals, List.mem_append] at hmem
      exact hmem.elim (hn n) (hn' n)
    · have hletter : c₁.Spans ['d'] c₁.skip := Cursor.spans_skip (by simpa using hd)
      have hwhole := ((hsign.trans hs).trans hletter).trans hs'
      rw [List.append_assoc] at hwhole
      rw [countText_eq]
      exact hwhole
  · cases count with
    | none => cases h
    | some n =>
      cases h
      exact ⟨_, .literal _ (hn n (by simp)), hsign.trans hs⟩

/-! ### Operators and groups -/

/-- What `read` accepts derives as the kind `k`. -/
def Sound (k : Nonterminal) (read : Cursor → Reading Formula) : Prop :=
  ∀ ⦃c c' : Cursor⦄ ⦃f : Formula⦄, read c = .ok (f, c') → ∃ s, Derives k s f ∧ c.Spans s c'

/-- A loop over operands gives a text of the kind `k` if `left` is one and joining an operand keeps the kind. -/
private theorem joinWithin_sound {k k' : Nonterminal} {symbol? : Char → Option Symbol}
    {operand : Cursor → Reading Formula} (hoperand : Sound k' operand)
    (hjoin : ∀ {s t l r d symbol}, Derives k s l → symbol? d = some symbol → Derives k' t r →
      Derives k (s ++ d :: t) (.binary symbol l r))
    {room : Nat} {start c c' : Cursor} {left f : Formula} {s : List Char} (hleft : Derives k s left)
    (hspan : start.Spans s c) (h : joinWithin symbol? operand room left c = .ok (f, c')) :
    ∃ t, Derives k t f ∧ start.Spans t c' := by
  induction room generalizing left c s with
  | zero =>
    cases h
    exact ⟨s, hleft, hspan⟩
  | succ room ih =>
    unfold joinWithin at h
    split at h
    · cases h
      exact ⟨s, hleft, hspan⟩
    · rename_i symbol hsymbol
      split at h
      · cases h
      · rename_i right c₁ hright
        obtain ⟨d, hd, hsymbol⟩ := Option.bind_eq_some_iff.mp hsymbol
        obtain ⟨t, ht, hspan'⟩ := hoperand hright
        have hd' := Cursor.spans_skip hd
        exact ih (hjoin hleft hsymbol ht) (hspan.trans (hd'.trans hspan')) h

private theorem chain_sound {k k' : Nonterminal} {symbol? : Char → Option Symbol}
    {operand : Cursor → Reading Formula} (hoperand : Sound k' operand)
    (hfirst : ∀ {s f}, Derives k' s f → Derives k s f)
    (hjoin : ∀ {s t l r d symbol}, Derives k s l → symbol? d = some symbol → Derives k' t r →
      Derives k (s ++ d :: t) (.binary symbol l r)) :
    Sound k (chain symbol? operand) := by
  intro c c' f h
  unfold chain at h
  split at h
  · cases h
  · rename_i first c₁ hread
    obtain ⟨s, hs, hspan⟩ := hoperand hread
    exact joinWithin_sound hoperand hjoin (hfirst hs) hspan h

private theorem factor_sound {inside : Option (Cursor → Reading Formula)}
    (hinside : ∀ read ∈ inside, Sound .expression read) : Sound .factor (factor inside) := by
  intro c c' f h
  unfold factor at h
  split at h
  · rename_i hopen
    split at h
    · cases h
    · rename_i read
      split at h
      · cases h
      · rename_i inner c₁ hread
        split at h
        · rename_i hclose
          cases h
          obtain ⟨s, hs, hspan⟩ := hinside read rfl hread
          exact ⟨_, .group hs, ((Cursor.spans_skip hopen).trans hspan).trans (Cursor.spans_skip hclose)⟩
        · cases h
  · cases hterm : term c with
    | error fault => rw [hterm] at h; cases h
    | ok r =>
      rw [hterm] at h
      cases h
      exact term_sound hterm

/-- How the inside of a group is read; a group takes one of the nestings that are left. -/
def inner : Nat → Option (Cursor → Reading Formula)
  | 0 => none
  | room + 1 => some (expression room)

def readPart (room : Nat) : Nonterminal → Cursor → Reading Formula
  | .factor => factor (inner room)
  | .product => chain multiplicative? (factor (inner room))
  | .expression => sum (inner room)

theorem expression_eq_readPart (room : Nat) : expression room = readPart room .expression := by
  cases room with
  | zero => rfl
  | succ room => rfl

/-- What holds of every part: groups are read by expressions with less room, and the larger parts by the smaller ones. -/
theorem readPart_induction {P : Nat → Nonterminal → (Cursor → Reading Formula) → Prop}
    (hfactor : ∀ room, (∀ read ∈ inner room, P (room - 1) .expression read) → P room .factor (readPart room .factor))
    (hproduct : ∀ room, P room .factor (readPart room .factor) → P room .product (readPart room .product))
    (hexpression : ∀ room, P room .product (readPart room .product) → P room .expression (readPart room .expression))
    (room : Nat) (k : Nonterminal) : P room k (readPart room k) := by
  have hparts : ∀ room, (∀ read ∈ inner room, P (room - 1) .expression read) → ∀ k, P room k (readPart room k) := by
    intro room hinner k
    have hf := hfactor room hinner
    cases k with
    | factor => exact hf
    | product => exact hproduct room hf
    | expression => exact hexpression room (hproduct room hf)
  induction room generalizing k with
  | zero => exact hparts 0 (by simp [inner]) k
  | succ room ih =>
    refine hparts (room + 1) ?_ k
    intro read hread
    cases hread
    rw [expression_eq_readPart]
    exact ih .expression

/-- Whatever part is read, the text that it takes derives as that part. -/
theorem readPart_sound (room : Nat) (k : Nonterminal) : Sound k (readPart room k) :=
  readPart_induction (P := fun _ k read => Sound k read) (fun _ hinner => factor_sound hinner)
    (fun _ hfactor => chain_sound hfactor .factor .times) (fun _ hproduct => chain_sound hproduct .product .plus) room k

/-- A text that is read as a whole derives as a whole. -/
theorem read_sound {text : List Char} {f : Formula} (h : read text = .ok f) :
    Derives .expression text f := by
  unfold read at h
  split at h
  · cases h
  · split at h
    · cases h
    · split at h
      · cases h
      · rename_i c hread
        split at h
        · rename_i hend
          cases h
          rw [expression_eq_readPart] at hread
          obtain ⟨s, hs, hspan⟩ := readPart_sound _ _ hread
          have hrest : c.rest = [] := List.head?_eq_none_iff.mp hend
          have htext : text = s := by simpa [Cursor.start, hrest] using hspan.rest
          rw [htext]
          exact hs
        · cases h

end Formula

end Tabletop
