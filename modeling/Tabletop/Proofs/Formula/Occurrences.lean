import Tabletop.Proofs.Formula.Joints
import Tabletop.Proofs.Formula.Spelling

/-!
# Where something stands in a formula

A piece of a formula without operators and parentheses lies inside one number or one dice term, and what is put in its
place there is put in its place in the whole formula (`Derives.replaced`).
-/

namespace Tabletop

namespace Formula

/-- The text is a part of the kind `k` and says the same as the formula. -/
def Spells (k : Nonterminal) (s : List Char) (f : Formula) : Prop := ∃ g, Derives k s g ∧ Respells f g

namespace Spells

variable {s t : List Char} {f l r : Formula} {c : Char} {symbol symbol' : Symbol}

theorem of_derives {k : Nonterminal} (h : Derives k s f) : Spells k s f := ⟨f, h, .refl f⟩

theorem group (h : Spells .expression s f) : Spells .factor ('(' :: s ++ [')']) (.group f) := by
  obtain ⟨g, hg, hrespells⟩ := h
  exact ⟨.group g, .group hg, hrespells.group⟩

theorem factor (h : Spells .factor s f) : Spells .product s f := by
  obtain ⟨g, hg, hrespells⟩ := h
  exact ⟨g, .factor hg, hrespells⟩

theorem product (h : Spells .product s f) : Spells .expression s f := by
  obtain ⟨g, hg, hrespells⟩ := h
  exact ⟨g, .product hg, hrespells⟩

theorem times (hl : Spells .product s l) (hc : multiplicative? c = some symbol')
    (hsymbol : symbol'.canonical = symbol.canonical) (hr : Spells .factor t r) :
    Spells .product (s ++ c :: t) (.binary symbol l r) := by
  obtain ⟨l', hl', hleft⟩ := hl
  obtain ⟨r', hr', hright⟩ := hr
  exact ⟨.binary symbol' l' r', .times hl' hc hr', .binary hsymbol hleft hright⟩

theorem plus (hl : Spells .expression s l) (hc : additive? c = some symbol) (hr : Spells .product t r) :
    Spells .expression (s ++ c :: t) (.binary symbol l r) := by
  obtain ⟨l', hl', hleft⟩ := hl
  obtain ⟨r', hr', hright⟩ := hr
  exact ⟨.binary symbol l' r', .plus hl' hc hr', .binary rfl hleft hright⟩

end Spells

/-- Wherever `x` stands in a number or a dice term, and not more before and behind it than given, the number or dice term
says the same with `y` in its place. -/
structure Replaces (x y before after : List Char) : Prop where
  literal : ∀ {a b negative n}, a <:+ before → b <+: after → n.IsNumber →
    signText negative ++ n.digits = a ++ x ++ b → Spells .factor (a ++ y ++ b) (.literal negative n)
  dice : ∀ {a b d}, a <:+ before → b <+: after → (∀ n ∈ d.numerals, n.IsNumber) → d.text = a ++ x ++ b →
    Spells .factor (a ++ y ++ b) (.dice d)

theorem Replaces.mono {x y before after before' after' : List Char} (h : Replaces x y before after)
    (hbefore : before' <:+ before) (hafter : after' <+: after) : Replaces x y before' after' :=
  ⟨fun ha hb => h.literal (ha.trans hbefore) (hb.trans hafter), fun ha hb => h.dice (ha.trans hbefore) (hb.trans hafter)⟩

theorem Derives.replaced {k : Nonterminal} {s : List Char} {f : Formula} (h : Derives k s f)
    {x y before after : List Char} (hx : x ≠ []) (hplain : ∀ c ∈ joints, c ∉ x) (hr : Replaces x y before after)
    (hs : s = before ++ x ++ after) : Spells k (before ++ y ++ after) f := by
  induction h generalizing before after with
  | literal negative hn => exact hr.literal (List.suffix_refl _) (List.prefix_refl _) hn hs
  | dice hd => exact hr.dice (List.suffix_refl _) (List.prefix_refl _) hd hs
  | @group s f h ih =>
    -- The parentheses are joints on both sides of the piece.
    have hopen : [] ++ '(' :: (s ++ [')']) = before ++ x ++ after := hs
    rcases cases_at_joint_of_not_mem hopen hx (hplain _ (by decide)) with ⟨b', hnil, -⟩ | ⟨a', rfl, hclose⟩
    · simp [hx] at hnil
    · rcases cases_at_joint_of_not_mem hclose hx (hplain _ (by decide)) with ⟨b', hin, rfl⟩ | ⟨a'', -, hnil⟩
      · have hgroup := (ih (hr.mono (List.suffix_cons '(' a') (List.prefix_append _ _)) hin).group
        simpa using hgroup
      · simp [hx] at hnil
  | factor h ih => exact (ih hr hs).factor
  | product h ih => exact (ih hr hs).product
  | @times s t l r c symbol hl hc hright ihl ihr =>
    have hfree := hplain c (isOperator_of_multiplicative? hc).1
    rcases cases_at_joint_of_not_mem hs hx hfree with ⟨b', hin, rfl⟩ | ⟨a', rfl, hin⟩
    · have hleft := ihl (hr.mono (List.suffix_refl _) (List.prefix_append _ _)) hin
      have htimes := hleft.times hc rfl (.of_derives hright)
      simpa using htimes
    · have hsuffix : a' <:+ s ++ c :: a' := (List.suffix_cons _ _).trans (List.suffix_append _ _)
      have htimes := (Spells.of_derives hl).times hc rfl (ihr (hr.mono hsuffix (List.prefix_refl _)) hin)
      simpa using htimes
  | @plus s t l r c symbol hl hc hright ihl ihr =>
    have hfree := hplain c (isOperator_of_additive? hc).1
    rcases cases_at_joint_of_not_mem hs hx hfree with ⟨b', hin, rfl⟩ | ⟨a', rfl, hin⟩
    · have hleft := ihl (hr.mono (List.suffix_refl _) (List.prefix_append _ _)) hin
      have hplus := hleft.plus hc (.of_derives hright)
      simpa using hplus
    · have hsuffix : a' <:+ s ++ c :: a' := (List.suffix_cons _ _).trans (List.suffix_append _ _)
      have hplus := (Spells.of_derives hl).plus hc (ihr (hr.mono hsuffix (List.prefix_refl _)) hin)
      simpa using hplus

/-- A sign of multiplication is always an operator. -/
theorem Derives.symbol_replaced {k : Nonterminal} {s : List Char} {f : Formula} (h : Derives k s f) {c c' : Char}
    {times times' : Symbol} (hc : multiplicative? c = some times) (hc' : multiplicative? c' = some times')
    {before after : List Char} (hs : s = before ++ c :: after) : Spells k (before ++ c' :: after) f := by
  have hjoint := (isOperator_of_multiplicative? hc).1
  have hminus : c ≠ '-' := by
    rintro rfl
    cases hc
  have hsame : times'.canonical = times.canonical := by
    unfold multiplicative? at hc hc'
    split at hc <;> split at hc' <;> cases hc <;> cases hc' <;> rfl
  induction h generalizing before after with
  | @literal negative n hn =>
    have hmem : c ∈ signText negative ++ n.digits := by
      rw [hs]
      simp
    rcases List.mem_append.mp hmem with hmem | hmem
    · exact absurd (eq_minus_of_mem_signText hmem) hminus
    · exact absurd hjoint (not_mem_joints_of_isDigit (hn.2 c hmem))
  | @dice d hd =>
    have hmem : c ∈ d.text := by
      show c ∈ signText d.negative ++ d.countText ++ 'd' :: d.kind.text
      rw [hs]
      simp
    exact absurd (eq_minus_of_mem_text hd hmem hjoint) hminus
  | @group s f h ih =>
    have hopen : [] ++ '(' :: (s ++ [')']) = before ++ c :: after := hs
    rcases cases_at_joint hopen with ⟨b', hnil, -⟩ | ⟨-, rfl, -⟩ | ⟨a', rfl, hclose⟩
    · simp at hnil
    · cases hc
    · rcases cases_at_joint hclose with ⟨b', hin, rfl⟩ | ⟨-, rfl, -⟩ | ⟨a'', -, hnil⟩
      · have hgroup := (ih hin).group
        simpa using hgroup
      · cases hc
      · simp at hnil
  | factor h ih => exact (ih hs).factor
  | product h ih => exact (ih hs).product
  | @times s t l r d symbol hl hd hright ihl ihr =>
    rcases cases_at_joint hs with ⟨b', hin, rfl⟩ | ⟨rfl, rfl, rfl⟩ | ⟨a', rfl, hin⟩
    · have htimes := (ihl hin).times hd rfl (.of_derives hright)
      simpa using htimes
    · obtain rfl : times = symbol := Option.some.inj (hc.symm.trans hd)
      exact (Spells.of_derives hl).times hc' hsame (.of_derives hright)
    · have htimes := (Spells.of_derives hl).times hd rfl (ihr hin)
      simpa using htimes
  | @plus s t l r d symbol hl hd hright ihl ihr =>
    rcases cases_at_joint hs with ⟨b', hin, rfl⟩ | ⟨-, rfl, -⟩ | ⟨a', rfl, hin⟩
    · have hplus := (ihl hin).plus hd (.of_derives hright)
      simpa using hplus
    · unfold multiplicative? at hc
      split at hc <;> first | cases hd | cases hc
    · have hplus := (Spells.of_derives hl).plus hd (ihr hin)
      simpa using hplus

end Formula

end Tabletop
