import Tabletop.Proofs.Formula.Completeness
import Tabletop.Proofs.Formula.Descent
import Tabletop.Proofs.Formula.Evaluation
import Tabletop.Proofs.Formula.OnePass
import Tabletop.Proofs.Formula.Soundness

/-!
# Every descent lands

A call that is carried out in single steps comes to an end, and it ends as `rollPart` has it, the same work in one pass
(`lands`): by induction on the groups that may still be opened, whatever waits on the stack.  A loop is no longer than the
text that is left, because what is worked out takes at least one character (`rollPart_advances`).  So a whole run ends, and
what it ends with has moved on within the text, at the depth where it began; the same holds of every call on the way
(`call_lands`).
-/

namespace Tabletop

namespace Cursor.Spans

variable {c c' : Cursor} {s text : List Char}

theorem length_lt (h : c.Spans s c') (hs : s ≠ []) : c'.rest.length < c.rest.length := by
  rw [h.rest, List.length_append]
  have := List.length_pos_iff.mpr hs
  omega

theorem le_within (h : c.Spans s c') (hrest : c.rest = text.drop c.position) :
    c.position ≤ c'.position ∧ c'.rest = text.drop c'.position := by
  refine ⟨by rw [h.position]; omega, ?_⟩
  have hdrop := congrArg (List.drop s.length) (h.rest.symm.trans hrest)
  rw [List.drop_left, List.drop_drop, ← h.position] at hdrop
  exact hdrop

theorem lt_within (h : c.Spans s c') (hrest : c.rest = text.drop c.position) (hs : s ≠ []) :
    c.position < c'.position ∧ c'.position ≤ text.length := by
  have hlength := congrArg List.length (h.rest.symm.trans hrest)
  rw [List.length_append, List.length_drop] at hlength
  have hpos := List.length_pos_iff.mpr hs
  rw [h.position]
  omega

end Cursor.Spans

namespace Formula

variable {σ : Type} [RandomSource σ]

/-! ### Parts in one pass -/

/-- What works out the inside of a group if `room` groups may be opened. -/
def rollInner : Nat → Option (Passage σ)
  | 0 => none
  | room + 1 => some (rollExpression room)

def rollPart (room : Nat) : Part → Passage σ
  | .expression => rollExpression room
  | .product => rollChain multiplicative? (rollFactor (rollInner room))
  | .factor => rollFactor (rollInner room)
  | .term => rollTerm

theorem rollPart_whole (room : Nat) (kind : Row) :
    (rollPart room kind.whole : Passage σ) = rollChain kind.symbol? (rollPart room kind.operand) := by
  cases kind with
  | product => rfl
  | sum => cases room <;> rfl

/-- The reading that goes with a part. -/
def partReading (room : Nat) (part : Part) (c : Cursor) : Reading Formula :=
  match part with
  | .expression => readPart room .expression c
  | .product => readPart room .product c
  | .factor => readPart room .factor c
  | .term => (term c).mapError (⟨[], ·⟩)

theorem rollPart_eq (room : Nat) (part : Part) (c : Cursor) :
    (rollPart room part c : Roller σ (Outcome × Cursor)) = settleReading (partReading room part c) := by
  have hfactor (c : Cursor) : (rollFactor (rollInner room) c : Roller σ (Outcome × Cursor)) =
      settleReading (factor (inner room) c) := by
    cases room with
    | zero => exact rollFactor_none_eq c
    | succ room => exact rollFactor_some_eq (rollExpression_eq room) c
  cases part with
  | term => exact rollTerm_eq c
  | factor => exact hfactor c
  | product => exact rollChain_eq hfactor c
  | expression =>
    show rollExpression room c = settleReading (readPart room .expression c)
    rw [← expression_eq_readPart]
    exact rollExpression_eq room c

theorem partReading_sound {room : Nat} {part : Part} {c c' : Cursor} {f : Formula}
    (h : partReading room part c = .ok (f, c')) : ∃ k s, Derives k s f ∧ c.Spans s c' := by
  cases part with
  | expression => exact ⟨_, readPart_sound room .expression h⟩
  | product => exact ⟨_, readPart_sound room .product h⟩
  | factor => exact ⟨_, readPart_sound room .factor h⟩
  | term =>
    change (term c).mapError _ = _ at h
    cases hterm : term c with
    | error fault =>
      rw [hterm] at h
      cases h
    | ok r =>
      rw [hterm] at h
      cases h
      exact ⟨_, term_sound hterm⟩

/-- What is worked out takes at least one character. -/
theorem rollPart_advances {room : Nat} {part : Part} {c c' : Cursor} {o : Outcome} {source source' : σ}
    (h : (rollPart room part c).run.run source = (.ok (o, c'), source')) : ∃ s, s ≠ [] ∧ c.Spans s c' := by
  rw [rollPart_eq] at h
  cases hread : partReading room part c with
  | error b =>
    rw [hread] at h
    obtain ⟨_, _, -, hthrow⟩ := Roller.bind_eq_ok.mp h
    exact absurd hthrow Roller.throw_ne_ok
  | ok r =>
    rw [hread] at h
    obtain ⟨_, _, -, hpure⟩ := Roller.bind_eq_ok.mp h
    obtain ⟨hsame, -⟩ := Roller.pure_eq_ok.mp hpure
    cases hsame
    obtain ⟨k, s, hderives, hspan⟩ := partReading_sound hread
    exact ⟨s, hderives.ne_nil, hspan⟩

theorem modifier?_of_nil {c : Cursor} (h : c.rest = []) : modifier? c = .ok (none, c) := by
  unfold modifier? Cursor.next?
  rw [h]
  rfl

theorem modifier?_takes {c c' : Cursor} {m : Modifier} (h : modifier? c = .ok (some m, c')) :
    c'.rest.length < c.rest.length := by
  obtain ⟨d, s, htext, -⟩ := modifierText_eq_cons m
  have hspan : c.Spans m.text c' := (modifier?_sound h).2
  exact hspan.length_lt (by rw [htext]; exact List.cons_ne_nil d s)

/-! ### Ends of calls -/

namespace Descent

/-- How what is under way ends: with an outcome for the given frames, at the given depth, or with a fault. -/
inductive Ends (frames : List Frame) (depth : Nat) (d : Descent σ) : Except Fault (Outcome × Cursor) × σ → Prop where
  | delivers {o : Outcome} {cursor : Cursor} {source : σ}
      (h : d.Reaches { control := .deliver o, frames, cursor, depth, source }) :
      d.Ends frames depth (.ok (o, cursor), source)
  | raises {last : Descent σ} {fault : Fault} (h : d.Reaches last) (hcontrol : last.control = .raise fault) :
      d.Ends frames depth (.error fault, last.source)

variable {frames frames' : List Frame} {depth depth' : Nat} {d d' : Descent σ}

theorem Ends.of_reaches {r : Except Fault (Outcome × Cursor) × σ} (hreaches : d.Reaches d') (h : d'.Ends frames depth r) :
    d.Ends frames depth r := by
  cases h with
  | delivers h => exact .delivers (hreaches.trans h)
  | raises h hcontrol => exact .raises (hreaches.trans h) hcontrol

theorem Ends.of_step {r : Except Fault (Outcome × Cursor) × σ} (hstep : d.step = some d') (h : d'.Ends frames depth r) :
    d.Ends frames depth r :=
  h.of_reaches (.single hstep)

theorem ends_fail (d : Descent σ) (fault : Fault) : (d.fail fault).Ends frames depth (.error fault, d.source) := by
  show (d.fail fault).Ends frames depth (.error fault, (d.fail fault).source)
  exact .raises .refl rfl

/-- What comes after a call has to do with the outcome of the call alone. -/
theorem Ends.bind {x : Roller σ (Outcome × Cursor)} {f : Outcome × Cursor → Roller σ (Outcome × Cursor)} {source : σ}
    (h : d.Ends frames' depth' (x.run.run source))
    (hnext : ∀ o cursor source', x.run.run source = (.ok (o, cursor), source') →
      Ends frames depth { control := .deliver o, frames := frames', cursor, depth := depth', source := source' }
        ((f (o, cursor)).run.run source')) :
    d.Ends frames depth ((x >>= f).run.run source) := by
  rw [ExceptT.run_bind, StateT.run_bind]
  generalize x.run.run source = r at h hnext ⊢
  cases h with
  | delivers h => exact (hnext _ _ _ rfl).of_reaches h
  | raises h hcontrol => exact .raises h hcontrol

end Descent

/-! ### Terms -/

/-- The term that a phase leads to with the text from the cursor on. -/
def Phase.finish : Phase → Cursor → Except Fault (Formula × Cursor)
  | complete f, c => .ok (f, c)
  | modifiers negative count sides row, c => do
    let (rest, c) ← Formula.modifiers c
    return (.dice ⟨negative, count, .sided sides (row ++ rest)⟩, c)

theorem kind_eq_finish (negative : Bool) (count : Option Numeral) (c : Cursor) :
    (do
      let (kind, c) ← kind c
      return (.dice { negative, count, kind }, c)) =
      Phase.ofKind negative count c >>= fun r => r.1.finish r.2 := by
  unfold kind Phase.ofKind
  split
  case h_1 hnext =>
    rw [if_pos hnext]
    rfl
  case h_2 hnext =>
    rw [if_neg (by rw [hnext]; decide), if_pos hnext]
    rfl
  case h_3 hpercentile hfudge =>
    rw [if_neg hpercentile, if_neg hfudge]
    split
    · simp only [bind_assoc]
      rfl
    · rfl

theorem term_eq_finish (c : Cursor) : term c = Phase.ofTerm c >>= fun r => r.1.finish r.2 := by
  unfold term Phase.ofTerm
  simp only [bind_assoc]
  congr 1
  funext r
  split
  · exact kind_eq_finish ..
  · cases r.1 <;> rfl

/-- What comes of a term that was read. -/
def settleTerm (r : Except Fault (Formula × Cursor)) : Roller σ (Outcome × Cursor) :=
  settleReading (r.mapError (⟨[], ·⟩))

namespace Descent

variable (frames : List Frame) (depth : Nat)

theorem ends_complete (f : Formula) (cursor : Cursor) (source : σ) :
    Ends frames depth { control := .read (.complete f), frames, cursor, depth, source }
      ((settleTerm (.ok (f, cursor))).run.run source) := by
  refine Ends.of_step rfl ?_
  show Ends frames depth (Descent.evaluate _ f) ((f.evaluate >>= fun o => pure (o, cursor)).run.run source)
  rw [ExceptT.run_bind, StateT.run_bind]
  unfold Descent.evaluate
  dsimp only
  rcases f.evaluate.run.run source with ⟨fault | o, source'⟩
  · exact .raises .refl rfl
  · exact .delivers .refl

/-- Each round of the loop takes a modifier from the text, so no more rounds are possible than there are characters. -/
theorem ends_modifiers (negative : Bool) (count : Option Numeral) (sides : Numeral) (row : List Modifier) {room : Nat}
    {cursor : Cursor} (hroom : cursor.rest.length ≤ room) (source : σ) :
    Ends frames depth { control := .read (.modifiers negative count sides row), frames, cursor, depth, source }
      ((settleTerm do
        let (rest, c) ← modifiersWithin room cursor
        return (.dice ⟨negative, count, .sided sides (row ++ rest)⟩, c)).run.run source) := by
  have hdone (row : List Modifier) (cursor : Cursor) :
      Ends frames depth
        { control := .read (.complete (.dice ⟨negative, count, .sided sides row⟩)), frames, cursor, depth, source }
        ((settleTerm (.ok (.dice ⟨negative, count, .sided sides (row ++ [])⟩, cursor))).run.run source) := by
    rw [List.append_nil]
    exact ends_complete ..
  induction room generalizing row cursor with
  | zero =>
    refine Ends.of_step rfl ?_
    show Ends frames depth (follow _ (Phase.ofModifier negative count sides row cursor)) _
    unfold Phase.ofModifier
    rw [modifier?_of_nil (List.length_eq_zero_iff.mp (Nat.le_zero.mp hroom))]
    exact hdone row cursor
  | succ room ih =>
    refine Ends.of_step rfl ?_
    show Ends frames depth (follow _ (Phase.ofModifier negative count sides row cursor)) _
    unfold Phase.ofModifier modifiersWithin
    cases hfound : modifier? cursor with
    | error fault => exact ends_fail _ fault
    | ok found =>
      obtain ⟨_ | m, c⟩ := found
      · exact hdone row c
      · have hlt := modifier?_takes hfound
        have hends := ih (row ++ [m]) (show c.rest.length ≤ room by omega)
        simp only [List.append_assoc] at hends
        simp only [show (Except.ok (some m, c) : Except Fault _) = pure (some m, c) from rfl, pure_bind, bind_assoc]
        exact hends

/-! ### Rows and groups -/

/-- A call for a part ends as the part is worked out in one pass, whatever waits for it. -/
def Lands (σ : Type) [RandomSource σ] (room : Nat) (part : Part) : Prop :=
  ∀ (frames : List Frame) (cursor : Cursor) (depth : Nat) (source : σ), depth + room = maxNesting →
    Ends frames depth { control := .enter part, frames, cursor, depth, source } ((rollPart room part cursor).run.run source)

theorem lands_term (room : Nat) : Lands σ room .term := by
  intro frames cursor depth source _
  refine Ends.of_step rfl ?_
  show Ends frames depth (follow _ (Phase.ofTerm cursor)) ((rollTerm cursor).run.run source)
  rw [rollTerm_eq, term_eq_finish]
  cases Phase.ofTerm cursor with
  | error fault => exact ends_fail _ fault
  | ok r =>
    obtain ⟨_ | f, c⟩ := r
    · exact ends_modifiers frames depth _ _ _ _ (Nat.le_refl _) source
    · exact ends_complete frames depth f c source

section

variable {room : Nat} {kind : Row}

theorem ends_goOnWith (hoperand : Lands σ room kind.operand) (d : Descent σ) (hdepth : d.depth + room = maxNesting)
    {fuel : Nat} (hfuel : d.cursor.rest.length ≤ fuel) (left : Outcome) :
    Ends d.frames d.depth (d.goOnWith kind left)
      ((rollJoined kind.symbol? (rollPart room kind.operand) fuel left d.cursor).run.run d.source) := by
  induction fuel generalizing d left with
  | zero =>
    have hnone : d.cursor.next?.bind kind.symbol? = none := by
      rw [Cursor.next?, List.length_eq_zero_iff.mp (Nat.le_zero.mp hfuel)]
      rfl
    unfold goOnWith
    rw [hnone]
    exact .delivers .refl
  | succ fuel ih =>
    unfold goOnWith rollJoined
    cases hsymbol : d.cursor.next?.bind kind.symbol? with
    | none => exact .delivers .refl
    | some symbol =>
      refine (hoperand _ d.cursor.skip d.depth d.source hdepth).bind fun right c source hright => ?_
      refine Ends.of_step rfl ?_
      have hskip : d.cursor.skip.rest.length = d.cursor.rest.length - 1 := List.length_tail
      obtain ⟨s, -, hspan⟩ := rollPart_advances hright
      have hle := hspan.length_le
      cases hjoin : left.combine symbol.operator right with
      | error fault =>
        simp only [resume, Frame.join, hjoin]
        exact ends_fail _ fault
      | ok joined =>
        simp only [resume, Frame.join, hjoin]
        exact ih { control := .deliver right, frames := d.frames, cursor := c, depth := d.depth, source } hdepth (by
          show c.rest.length ≤ fuel
          omega) joined

theorem lands_whole (kind : Row) (hoperand : Lands σ room kind.operand) : Lands σ room kind.whole := by
  intro frames cursor depth source hdepth
  rw [rollPart_whole]
  have hstep : step { control := .enter kind.whole, frames, cursor, depth, source } =
      some (await { control := .enter kind.whole, frames, cursor, depth, source } kind none) := by
    cases kind <;> rfl
  refine Ends.of_step hstep ?_
  refine (hoperand _ cursor depth source hdepth).bind fun first c source' _ => ?_
  refine Ends.of_step rfl ?_
  exact ends_goOnWith hoperand { control := .deliver first, frames, cursor := c, depth, source := source' } hdepth
    (Nat.le_refl _) first

end

/-- A group has to be let in by the counter, which is back at its value when the group has been left. -/
theorem lands_factor {room : Nat} (hinside : ∀ r, room = r + 1 → Lands σ r .expression) : Lands σ room .factor := by
  intro frames cursor depth source hdepth
  refine Ends.of_step rfl ?_
  show Ends frames depth (enterFactor _) ((rollFactor (rollInner room) cursor).run.run source)
  unfold enterFactor rollFactor
  dsimp only
  split
  · cases room with
    | zero =>
      rw [if_pos (by omega)]
      exact .raises .refl rfl
    | succ room =>
      rw [if_neg (by omega)]
      refine (hinside room rfl _ cursor.skip (depth + 1) source (by omega)).bind fun inner c source' _ => ?_
      refine Ends.of_step rfl ?_
      show Ends frames depth (leaveGroup _ cursor.position inner) _
      unfold leaveGroup
      dsimp only
      split
      · exact .delivers .refl
      · exact ends_fail _ _
  · exact lands_term room frames cursor depth source hdepth

/-- By induction on the groups that may still be opened, each part from the smaller ones. -/
theorem lands (room : Nat) (part : Part) : Lands σ room part := by
  have hparts : ∀ room, (∀ r, room = r + 1 → Lands σ r .expression) → ∀ part, Lands σ room part := by
    intro room hinside part
    have hfactor : Lands σ room .factor := lands_factor hinside
    have hproduct : Lands σ room .product := lands_whole .product hfactor
    cases part with
    | term => exact lands_term room
    | factor => exact hfactor
    | product => exact hproduct
    | expression => exact lands_whole .sum hproduct
  induction room generalizing part with
  | zero => exact hparts 0 (fun _ h => by cases h) part
  | succ room ih =>
    refine hparts (room + 1) ?_ part
    intro r hr
    cases hr
    exact ih .expression

/-! ### Runs of calls -/

/-- There is one run only, so all of it lies before its end. -/
theorem Reaches.of_halted {begun d last : Descent σ} (hlast : begun.Reaches last) (hhalted : last.step = none)
    (hd : begun.Reaches d) : d.Reaches last := by
  have hunique : Relator.RightUnique fun d d' : Descent σ => d.step = some d' :=
    fun _ _ _ h h' => Option.some.inj (h.symm.trans h')
  rcases Relation.ReflTransGen.total_of_right_unique hunique hd hlast with h | h
  · exact h
  · rcases h.cases_head with rfl | ⟨next, hnext, -⟩
    · exact .refl
    · rw [hhalted] at hnext
      cases hnext

/-- Where a call leads to: with an outcome to the frames and the depth that it was made at, further on in the text, or to a
fault. -/
inductive Landed (text : List Char) (d last : Descent σ) : Except Fault (Outcome × Cursor) × σ → Prop where
  | delivered {o : Outcome} (hcontrol : last.control = .deliver o) (hframes : last.frames = d.frames)
      (hdepth : last.depth = d.depth) (hforward : d.cursor.position < last.cursor.position)
      (hwithin : last.cursor.position ≤ text.length) : d.Landed text last (.ok (o, last.cursor), last.source)
  | raised {fault : Fault} (hcontrol : last.control = .raise fault) : d.Landed text last (.error fault, last.source)

/-- A call from outside ends the run. -/
theorem Landed.step_eq_none {text : List Char} {d last : Descent σ} {r : Except Fault (Outcome × Cursor) × σ}
    (h : d.Landed text last r) (hframes : d.frames = []) : last.step = none := by
  unfold step
  cases h with
  | delivered hcontrol hsame =>
    rw [hcontrol, hsame, hframes]
  | raised hcontrol => rw [hcontrol]

theorem exists_landed {text : List Char} {d : Descent σ} {part : Part} (hcontrol : d.control = .enter part)
    (hdepth : d.depth ≤ maxNesting) (hrest : d.cursor.rest = text.drop d.cursor.position) :
    ∃ last, d.Reaches last ∧ d.Landed text last ((rollPart (maxNesting - d.depth) part d.cursor).run.run d.source) := by
  obtain ⟨control, frames, cursor, depth, source⟩ := d
  obtain rfl : control = .enter part := hcontrol
  have hends := lands (maxNesting - depth) part frames cursor depth source (Nat.add_sub_cancel' hdepth)
  dsimp only at hrest ⊢
  generalize hresult : (rollPart (maxNesting - depth) part cursor).run.run source = result at hends ⊢
  cases hends with
  | @delivers o cursor' source' hlast =>
    obtain ⟨s, hs, hspan⟩ := rollPart_advances hresult
    obtain ⟨hforward, hwithin⟩ := hspan.lt_within hrest hs
    exact ⟨_, hlast, .delivered rfl rfl rfl hforward hwithin⟩
  | raises hlast hraise => exact ⟨_, hlast, .raised hraise⟩

/-- A call at any place of any text comes to an end.  So does every call on the way, as its part is worked out in one pass; if
it has an outcome, it has moved on within the text, and the groups that it has opened are closed.  No call is made inside of
too many groups, the cursor never goes back, and the expressions under way are at most one more than the groups allow. -/
theorem call_lands (text : List Char) (position : Nat) {depth : Nat} (hdepth : depth ≤ maxNesting) (part : Part)
    (source : σ) :
    let begun : Descent σ := call part ⟨position, text.drop position⟩ depth source
    (∃ last, begun.Reaches last ∧ last.step = none ∧ ∀ d, begun.Reaches d → d.Reaches last) ∧
      ∀ d, begun.Reaches d →
        position ≤ d.cursor.position ∧ d.cursor.rest = text.drop d.cursor.position ∧
          depth + d.expressions ≤ maxNesting + 1 ∧
          ∀ entered, d.control = .enter entered → d.depth ≤ maxNesting ∧ ∃ last, d.Reaches last ∧
            d.Landed text last ((rollPart (maxNesting - d.depth) entered d.cursor).run.run d.source) := by
  intro begun
  refine ⟨?_, fun d hd => ?_⟩
  · obtain ⟨last, hlast, hlanded⟩ : ∃ last, begun.Reaches last ∧ begun.Landed text last _ :=
      exists_landed rfl hdepth rfl
    have hhalted := hlanded.step_eq_none rfl
    exact ⟨last, hlast, hhalted, fun d hd => hlast.of_halted hhalted hd⟩
  · have hbalanced : Balanced depth d := (balanced_call hdepth part _ source).reaches hd
    obtain ⟨s, hspan⟩ := hd.spans
    obtain ⟨hforward, hrest⟩ : position ≤ d.cursor.position ∧ d.cursor.rest = text.drop d.cursor.position :=
      hspan.le_within rfl
    refine ⟨hforward, hrest, hbalanced.expressions_le, fun entered hcontrol => ?_⟩
    have hle := hbalanced.depth_le hcontrol
    exact ⟨hle, exists_landed hcontrol hle hrest⟩

/-- The inner group of a nest, called for where one more may be opened. -/
theorem call_lands_inner_group :
    let begun : Descent Script := call .factor ⟨1, "((1))".toList.drop 1⟩ 99 (Script.ofFaces [])
    99 ≤ maxNesting ∧ ∃ last, begun.Reaches last ∧ last.depth = 99 ∧ last.cursor = ⟨4, [')']⟩ := by
  intro begun
  have hcursor : ((rollPart 1 .factor begun.cursor).run.run begun.source).1.toOption.map Prod.snd = some ⟨4, [')']⟩ := by
    decide +kernel
  obtain ⟨-, hall⟩ := call_lands "((1))".toList 1 (by decide : 99 ≤ maxNesting) .factor (Script.ofFaces [])
  obtain ⟨-, -, -, hcalls⟩ := hall begun .refl
  obtain ⟨-, last, hlast, hlanded⟩ := hcalls .factor rfl
  have hroom : maxNesting - begun.depth = 1 := rfl
  rw [hroom] at hlanded
  generalize (rollPart 1 .factor begun.cursor).run.run begun.source = r at hcursor hlanded
  refine ⟨by decide, last, hlast, ?_⟩
  cases hlanded with
  | delivered _ _ hdepth => exact ⟨hdepth, Option.some.inj hcursor⟩
  | raised => cases hcursor

end Descent

end Formula

end Tabletop
