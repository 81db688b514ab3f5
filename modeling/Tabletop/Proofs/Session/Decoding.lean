import Tabletop.Proofs.Formula.Joints
import Tabletop.Proofs.Formula.Rendering
import Tabletop.Reply

/-!
# Replies can be decoded

The text of a roll joins its parts by marks that may stand in a description, too, and the mark of a product occurs in
expressions.  It can be taken apart all the same, from its end: the total has no blank, the breakdown is one line, and in an
expression something else follows each asterisk, so that the first two of them end it (`rollText_decodes`).
-/

namespace Tabletop

/-! ### Taking texts apart -/

/-- The last occurrence of a character. -/
theorem cut_last {s s' t t' : List Char} {c : Char} (ht : c ∉ t) (ht' : c ∉ t') (h : s ++ c :: t = s' ++ c :: t') :
    s = s' ∧ t = t' := by
  rcases cases_at_joint h with ⟨b', rfl, hb⟩ | ⟨rfl, -, rfl⟩ | ⟨a', rfl, hb⟩
  · exact absurd (by rw [hb]; simp) ht'
  · exact ⟨rfl, rfl⟩
  · exact absurd (by rw [hb]; simp) ht

/-- Each asterisk is followed by something else. -/
def StarsApart : List Char → Prop
  | [] => True
  | [c] => c ≠ '*'
  | c :: d :: rest => (c = '*' → d ≠ '*') ∧ StarsApart (d :: rest)

namespace StarsApart

variable {c : Char} {s t : List Char}

theorem tail (h : StarsApart (c :: s)) : StarsApart s := by
  cases s with
  | nil => trivial
  | cons d rest => exact h.2

theorem cons_of_ne (hc : c ≠ '*') (h : StarsApart s) : StarsApart (c :: s) := by
  cases s with
  | nil => exact hc
  | cons d rest => exact ⟨fun heq => absurd heq hc, h⟩

/-- What may stand behind an asterisk may stand behind anything. -/
theorem of_star (h : StarsApart ('*' :: s)) (c : Char) : StarsApart (c :: s) := by
  by_cases hc : c = '*'
  · rw [hc]
    exact h
  · exact cons_of_ne hc h.tail

theorem of_not_mem (h : '*' ∉ s) : StarsApart s := by
  induction s with
  | nil => trivial
  | cons c s ih =>
    obtain ⟨hc, hs⟩ := List.ne_and_not_mem_of_not_mem_cons h
    exact cons_of_ne (Ne.symm hc) (ih hs)

theorem append (hs : StarsApart s) (ht : StarsApart t) : StarsApart (s ++ t) := by
  induction s with
  | nil => exact ht
  | cons c s ih =>
    cases s with
    | nil => exact cons_of_ne hs ht
    | cons d rest => exact ⟨hs.1, ih hs.2⟩

/-- The first two asterisks in a row end a text in which they stand apart. -/
theorem cut (hs : StarsApart s) {s' : List Char} (hs' : StarsApart s') {t' : List Char}
    (h : s ++ '*' :: '*' :: t = s' ++ '*' :: '*' :: t') : s = s' ∧ t = t' := by
  induction s generalizing s' with
  | nil =>
    match s', hs', h with
    | [], _, h => exact ⟨rfl, by simpa using h⟩
    | [c], hs', h => exact absurd (List.cons.inj h).1.symm hs'
    | c :: d :: rest, hs', h =>
      obtain ⟨hc, htail⟩ := List.cons.inj h
      exact absurd (List.cons.inj htail).1.symm (hs'.1 hc.symm)
  | cons c s ih =>
    match s', hs', h with
    | [], _, h =>
      obtain ⟨hc, htail⟩ := List.cons.inj h
      cases s with
      | nil => exact absurd hc hs
      | cons d rest => exact absurd (List.cons.inj htail).1 (hs.1 hc)
    | d :: s', hs', h =>
      obtain ⟨hc, htail⟩ := List.cons.inj h
      obtain ⟨heq, ht⟩ := ih hs.tail hs'.tail htail
      exact ⟨by rw [hc, heq], ht⟩

end StarsApart

namespace Formula

/-! ### Expressions -/

/-- An asterisk stands between two operands, and none of them begins with one.  With the asterisk before it in the statement
the induction says both at once, that no asterisk begins the text and that they stand apart in it. -/
theorem Derives.starsApart {k : Nonterminal} {s : List Char} {f : Formula} (h : Derives k s f) : StarsApart ('*' :: s) := by
  have hleaf : ∀ {s : List Char}, s ≠ [] → (∀ c ∈ s, c ∈ joints → c = '-') → StarsApart ('*' :: s) := by
    intro s hne hjoints
    have hfree : '*' ∉ s := fun hmem => absurd (hjoints '*' hmem (by decide)) (by decide)
    cases s with
    | nil => exact absurd rfl hne
    | cons c s => exact ⟨fun _ hc => hfree (hc ▸ List.mem_cons_self), .of_not_mem hfree⟩
  induction h with
  | literal negative hn =>
    refine hleaf (List.append_ne_nil_of_right_ne_nil _ hn.1) fun c hc hjoint => ?_
    rcases List.mem_append.mp hc with hc | hc
    · exact eq_minus_of_mem_signText hc
    · exact absurd hjoint (not_mem_joints_of_isDigit (hn.2 c hc))
  | dice hd => exact hleaf (by simp) fun c hc => eq_minus_of_mem_text hd hc
  | @group s f h ih =>
    have hinner : StarsApart ('(' :: s ++ [')']) := (ih.of_star '(').append (.of_not_mem (by decide))
    exact ⟨fun _ => by decide, hinner⟩
  | factor h ih | product h ih => exact ih
  | times hl hc hr ihl ihr | plus hl hc hr ihl ihr => exact ihl.append (ihr.of_star _)

private theorem eq_star_of_lowers {d : Char} (h : Lowers '*' d) : d = '*' := by
  have hself : Lowers '*' '*' := lowers_self (by decide)
  exact h.1.symm.trans hself.1

/-- Writing in capital letters sets no asterisks. -/
theorem starsApart_of_lowers {s t : List Char} (h : List.Forall₂ Lowers s t) (ht : StarsApart t) : StarsApart s := by
  induction h with
  | nil => trivial
  | cons hc hrest ih =>
    have hfirst : ∀ {c d}, Lowers c d → c = '*' → d = '*' := by
      rintro c d hcd rfl
      exact eq_star_of_lowers hcd
    cases hrest with
    | nil => exact fun hstar => ht (hfirst hc hstar)
    | cons hd hmore => exact ⟨fun hstar hnext => ht.1 (hfirst hc hstar) (hfirst hd hnext), ih ht.2⟩

variable {σ : Type} [RandomSource σ]

theorem starsApart_expression {text : String} {s s' : σ} {o : Outcome}
    (h : (roll text).run.run s = (Except.ok o, s')) : StarsApart o.expression.toList := by
  obtain ⟨f, hread⟩ := read_of_roll h
  rw [roll_of_read hread] at h
  rw [evaluate_expression h]
  exact starsApart_of_lowers (lowers_rendered f) (read_sound hread).canonical.starsApart.tail

end Formula

/-! ### Breakdowns -/

def OneLine (s : String) : Prop := '\n' ∉ s.toList

instance (s : String) : Decidable (OneLine s) := inferInstanceAs (Decidable (¬_))

theorem OneLine.append {s t : String} (hs : OneLine s) (ht : OneLine t) : OneLine (s ++ t) := by
  unfold OneLine
  rw [String.toList_append]
  exact List.not_mem_append hs ht

theorem oneLine_toString (n : Int) : OneLine (toString n) :=
  Text.not_mem_toString (by decide) (by decide) n

theorem OneLine.intercalate {s : String} {parts : List String} (hs : OneLine s) (hparts : ∀ p ∈ parts, OneLine p) :
    OneLine (s.intercalate parts) := by
  unfold OneLine
  rw [String.toList_intercalate]
  induction parts with
  | nil => exact List.not_mem_nil
  | cons p rest ih =>
    obtain ⟨hp, hrest⟩ := List.forall_mem_cons.mp hparts
    cases rest with
    | nil =>
      rw [List.map_singleton, List.intercalate_singleton]
      exact hp
    | cons q more =>
      simp only [List.map_cons, List.intercalate_cons_cons]
      exact List.not_mem_append (List.not_mem_append hp hs) (ih hrest)

private theorem oneLine_listText (values : List Int) : OneLine (listText values) := by
  have hvalues : ∀ p ∈ values.map toString, OneLine p := by
    intro p hp
    obtain ⟨n, -, rfl⟩ := List.mem_map.mp hp
    exact oneLine_toString n
  have hinner : OneLine (", ".intercalate (values.map toString)) := .intercalate (by decide) hvalues
  exact (OneLine.append (s := "[") (by decide) hinner).append (by decide)

private theorem oneLine_ofDice (t : DiceTerm) (m : Modifiers) (dice : List Die) : OneLine (t.ofDice m dice).breakdown := by
  refine .append (.append (.append (oneLine_listText _) ?_) (by decide)) (oneLine_toString _)
  split
  · decide
  · exact .append (by decide) (oneLine_listText _)

private theorem oneLine_ofFudge (t : DiceTerm) (faces : List Int) : OneLine (t.ofFudge faces).breakdown := by
  have hglyphs : ∀ p ∈ faces.map fudgeGlyph, OneLine p := by
    intro p hp
    obtain ⟨face, -, rfl⟩ := List.mem_map.mp hp
    unfold fudgeGlyph
    split
    · decide
    · split <;> decide
  exact .append (.append (.intercalate (by decide) hglyphs) (by decide)) (oneLine_toString _)

theorem oneLine_throwAll {σ : Type} [RandomSource σ] (t : DiceTerm) (s : σ) : OneLine (t.throwAll.run s).1.breakdown := by
  unfold DiceTerm.throwAll
  split
  · exact oneLine_ofDice t _ _
  · exact oneLine_ofDice t _ _
  · exact oneLine_ofFudge t _

private theorem oneLine_combine {op : Operator} {left right o : Outcome} (hleft : OneLine left.breakdown)
    (hright : OneLine right.breakdown) (h : Outcome.combine op left right = .ok o) : OneLine o.breakdown := by
  unfold Outcome.combine at h
  obtain ⟨u, -, h⟩ := exists_of_bind_eq_ok h
  cases h
  refine .append (.append ?_ (by decide)) (oneLine_toString _)
  cases op with
  | add | subtract => exact .append (.append hleft (by decide)) hright
  | multiply => exact .append (.append (.append (.append (by decide) hleft) (by decide)) hright) (by decide)

theorem oneLine_evaluate {σ : Type} [RandomSource σ] {f : Formula} {s s' : σ} {o : Outcome}
    (h : f.evaluate.run.run s = (Except.ok o, s')) : OneLine o.breakdown := by
  induction f generalizing s s' o with
  | literal negative n =>
    obtain ⟨rfl, -⟩ := Roller.pure_eq_ok.mp h
    exact oneLine_toString _
  | dice d =>
    obtain ⟨-, hthrow⟩ := DiceTerm.roll_eq_ok_iff.mp h
    have hline := oneLine_throwAll d.term s
    rw [hthrow] at hline
    exact hline
  | group inner ih =>
    obtain ⟨o₁, s₁, hinner, h⟩ := Roller.bind_eq_ok.mp h
    obtain ⟨rfl, -⟩ := Roller.pure_eq_ok.mp h
    exact ih (o := o₁) hinner
  | binary symbol left right ihl ihr =>
    obtain ⟨a, s₁, hleft, h⟩ := Roller.bind_eq_ok.mp h
    obtain ⟨b, s₂, hright, h⟩ := Roller.bind_eq_ok.mp h
    obtain ⟨hcombine, -⟩ := Roller.liftM_eq_ok.mp h
    exact oneLine_combine (ihl hleft) (ihr hright) hcombine

theorem oneLine_breakdown {σ : Type} [RandomSource σ] {text : String} {s s' : σ} {o : Outcome}
    (h : (Formula.roll text).run.run s = (Except.ok o, s')) : OneLine o.breakdown := by
  obtain ⟨f, hread⟩ := Formula.read_of_roll h
  rw [Formula.roll_of_read hread] at h
  exact oneLine_evaluate h

/-! ### The parts of a reply -/

/-- What is said of a description. -/
def remark (description : String) : String := if description.isEmpty then "" else " *(" ++ description ++ ")*"

theorem rollText_eq (o : Outcome) (description : Option String) :
    rollText o description = "🎲 **" ++ o.expression ++ "**" ++ remark (description.getD "") ++ "\n\n" ++ o.breakdown ++
      "\n\n**Result: " ++ toString o.total ++ "**" := by
  cases description with
  | none => rfl
  | some d => rfl

private theorem toList_remark {d : String} (hd : d.isEmpty = false) :
    (remark d).toList = ' ' :: '*' :: '(' :: (d.toList ++ [')', '*']) := by
  simp [remark, hd]

/-- Only an empty description leaves no remark, and any other one stands between parentheses. -/
theorem remark_injective {d d' : String} (h : remark d = remark d') : d = d' := by
  have hempty : ∀ {d : String}, d.isEmpty = true → remark d = "" := fun hd => if_pos hd
  have hlist := congrArg String.toList h
  cases hd : d.isEmpty with
  | true =>
    cases hd' : d'.isEmpty with
    | true => rw [String.isEmpty_iff.mp hd, String.isEmpty_iff.mp hd']
    | false =>
      rw [hempty hd, toList_remark hd'] at hlist
      cases hlist
  | false =>
    cases hd' : d'.isEmpty with
    | true =>
      rw [hempty hd', toList_remark hd] at hlist
      cases hlist
    | false =>
      rw [toList_remark hd, toList_remark hd'] at hlist
      simp only [List.cons.injEq, true_and] at hlist
      exact String.toList_inj.mp (List.append_cancel_right hlist)

/-- Where the parts of a reply are cut. -/
private theorem toList_rollText (o : Outcome) (description : Option String) :
    (rollText o description).toList =
      ("🎲 **".toList ++ (o.expression.toList ++ '*' :: '*' :: (remark (description.getD "")).toList) ++ ['\n'] ++
          '\n' :: o.breakdown.toList ++ "\n\n**Result:".toList) ++
        ' ' :: ((toString o.total).toList ++ ['*', '*']) := by
  rw [rollText_eq]
  simp [String.toList_append]

private theorem blank_not_mem (n : Int) : ' ' ∉ (toString n).toList ++ ['*', '*'] :=
  List.not_mem_append (Text.not_mem_toString (by decide) (by decide) n) (by decide)

theorem rollText_decodes {σ τ : Type} [RandomSource σ] [RandomSource τ] {text text' : String} {s₁ s₂ : σ} {t₁ t₂ : τ}
    {o o' : Outcome} (ho : (Formula.roll text).run.run s₁ = (Except.ok o, s₂))
    (ho' : (Formula.roll text').run.run t₁ = (Except.ok o', t₂)) {description description' : Option String}
    (h : rollText o description = rollText o' description') :
    o.expression = o'.expression ∧ o.breakdown = o'.breakdown ∧ o.total = o'.total ∧
      description.getD "" = description'.getD "" := by
  have hlist := congrArg String.toList h
  rw [toList_rollText, toList_rollText] at hlist
  -- From the end: the last blank is before the total, the last line break before that is before the breakdown.
  obtain ⟨hbefore, htotal⟩ := cut_last (blank_not_mem o.total) (blank_not_mem o'.total) hlist
  obtain ⟨htitle, hbreakdown⟩ := cut_last (oneLine_breakdown ho) (oneLine_breakdown ho') (List.append_cancel_right hbefore)
  have hexpression := List.append_cancel_left (List.append_cancel_right htitle)
  obtain ⟨hexpression, hremark⟩ := (Formula.starsApart_expression ho).cut (Formula.starsApart_expression ho') hexpression
  refine ⟨String.toList_inj.mp hexpression, String.toList_inj.mp hbreakdown, ?_,
    remark_injective (String.toList_inj.mp hremark)⟩
  exact Text.toString_injective (String.toList_inj.mp (List.append_cancel_right htotal))

private def thrown : Outcome := ⟨7, [3, 4], "2d6r1", "[3, 4] = 7"⟩

/-- Only the faces tell that a die was thrown again, and a reply does not show them. -/
private def rethrown : Outcome := ⟨7, [1, 3, 4], "2d6r1", "[3, 4] = 7"⟩

private theorem roll_thrown :
    (Formula.roll "2d6r1").run.run (Script.ofFaces [3, 4]) = (Except.ok thrown, ⟨[3, 4], []⟩) := by
  show @Eq (Except Fault Outcome × Script) _ _
  decide +kernel

private theorem roll_rethrown :
    (Formula.roll "2D6 R1").run.run (Script.ofFaces [1, 3, 4]) = (Except.ok rethrown, ⟨[1, 3, 4], []⟩) := by
  show @Eq (Except Fault Outcome × Script) _ _
  decide +kernel

theorem rollText_decodes_rethrown :
    (Formula.roll "2d6r1").run.run (Script.ofFaces [3, 4]) = (Except.ok thrown, ⟨[3, 4], []⟩) ∧
      (Formula.roll "2D6 R1").run.run (Script.ofFaces [1, 3, 4]) = (Except.ok rethrown, ⟨[1, 3, 4], []⟩) ∧
      rollText thrown none = rollText rethrown (some "") ∧ thrown.expression = rethrown.expression ∧
      thrown.breakdown = rethrown.breakdown ∧ thrown.total = rethrown.total ∧
      (none : Option String).getD "" = (some "").getD "" := by
  have hsame : rollText thrown none = rollText rethrown (some "") := rfl
  exact ⟨roll_thrown, roll_rethrown, hsame, rollText_decodes roll_thrown roll_rethrown hsame⟩

/-- A description that looks like the end of another reply. -/
example :
    rollText thrown (some "x)*\n\n[6, 6] = 12 + 5 = 17\n\n**Result: 17**\n\n*(") ≠
      rollText ⟨17, [6, 6], "2d6+5", "[6, 6] = 12 + 5 = 17"⟩ (some "x") := by
  decide +kernel

end Tabletop
