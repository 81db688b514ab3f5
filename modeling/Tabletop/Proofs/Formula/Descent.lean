import Mathlib.Logic.Relation
import Tabletop.Formula.Roll
import Tabletop.Proofs.Formula.Soundness

/-!
# The descent in single steps

A formula is worked out by calls within calls, down from expressions to terms.  A `Descent` does this in single steps: what
waits for the part at hand lies on a stack of frames, loops take one step for each round, and a counter that goes up and down
says how many groups are open.  Nothing bounds the number of steps beforehand.  `Moves` lists what a step comes to; each case
leaves the cursor where it is or moves it on (`Moves.spans`).

The stack has a shape (`Awaits`), by which there is at most one expression more on it than there are groups.  Every step keeps
the shape and the counter with it (`Balanced.step`), so no call is made inside of more groups than are allowed
(`Balanced.depth_le`, `Balanced.expressions_le`).
-/

namespace Tabletop.Formula

/-! ### What waits -/

/-- What may be called for. -/
inductive Part where
  | expression
  | product
  | factor
  | term
  deriving DecidableEq, Repr

/-- The parts that are rows of operands. -/
inductive Row where
  | sum
  | product
  deriving DecidableEq, Repr

namespace Row

def whole : Row → Part
  | sum => .expression
  | product => .product

def operand : Row → Part
  | sum => .product
  | product => .factor

def symbol? : Row → Char → Option Symbol
  | sum => additive?
  | product => multiplicative?

end Row

/-- A call that waits for another. -/
inductive Frame where
  /-- A row waits for its first operand, or for the operand behind a symbol. -/
  | row (kind : Row) (joined : Option (Outcome × Symbol))
  | group (openedAt : Nat)
  deriving Repr

namespace Frame

/-- A row of summands is an expression under way. -/
def isExpression : Frame → Bool
  | row .sum _ => true
  | _ => false

def isGroup : Frame → Bool
  | group _ => true
  | _ => false

/-- What a row has come to with one more operand. -/
def join : Option (Outcome × Symbol) → Outcome → Except Fault Outcome
  | none, o => .ok o
  | some (left, symbol), o => left.combine symbol.operator o

end Frame

/-! ### Terms -/

/-- What is to be done of a term whose beginning was read. -/
inductive Phase where
  | modifiers (negative : Bool) (count : Option Numeral) (sides : Numeral) (row : List Modifier)
  | complete (f : Formula)
  deriving Repr

namespace Phase

def ofKind (negative : Bool) (count : Option Numeral) (c : Cursor) : Except Fault (Phase × Cursor) :=
  if c.next? = some '%' then return (.complete (.dice ⟨negative, count, .percentile⟩), c.skip)
  else if c.next? = some 'f' then return (.complete (.dice ⟨negative, count, .fudge⟩), c.skip)
  else if c.atDigit then do
    let (sides, c) ← numeral c
    return (.modifiers negative count sides [], c)
  else throw (.missingDiceSides c.position)

/-- A term up to its modifiers. -/
def ofTerm (c : Cursor) : Except Fault (Phase × Cursor) := do
  let negative := c.next? == some '-'
  let (count, c₁) ← numeral? (if negative then c.skip else c)
  if c₁.next? == some 'd' then ofKind negative count c₁.skip
  else
    match count with
    | none => throw (.expectedNumberOrDice c.position)
    | some n => return (.complete (.literal negative n), c₁)

/-- One round of the loop over modifiers. -/
def ofModifier (negative : Bool) (count : Option Numeral) (sides : Numeral) (row : List Modifier) (c : Cursor) :
    Except Fault (Phase × Cursor) := do
  match ← modifier? c with
  | (none, c) => return (.complete (.dice ⟨negative, count, .sided sides row⟩), c)
  | (some m, c) => return (.modifiers negative count sides (row ++ [m]), c)

end Phase

theorem Phase.spans_ofKind {negative : Bool} {count : Option Numeral} {phase : Phase} {c c' : Cursor}
    (h : ofKind negative count c = .ok (phase, c')) : ∃ s, c.Spans s c' := by
  unfold ofKind at h
  split at h
  · rename_i hnext
    cases h
    exact ⟨_, Cursor.spans_skip hnext⟩
  · split at h
    · rename_i hnext
      cases h
      exact ⟨_, Cursor.spans_skip hnext⟩
    · split at h
      · obtain ⟨⟨sides, c₁⟩, hsides, h⟩ := exists_of_bind_eq_ok h
        cases h
        exact ⟨_, (numeral_sound hsides).2⟩
      · cases h

theorem Phase.spans_ofTerm {phase : Phase} {c c' : Cursor} (h : ofTerm c = .ok (phase, c')) : ∃ s, c.Spans s c' := by
  unfold ofTerm at h
  obtain ⟨⟨count, c₁⟩, hcount, h⟩ := exists_of_bind_eq_ok h
  have hbefore := (spans_sign c).trans (numeral?_sound hcount).2
  dsimp only at h
  split at h
  · rename_i hletter
    obtain ⟨s, hs⟩ := Phase.spans_ofKind h
    exact ⟨_, (hbefore.trans (Cursor.spans_skip (by simpa using hletter))).trans hs⟩
  · cases count with
    | none => cases h
    | some n =>
      cases h
      exact ⟨_, hbefore⟩

theorem Phase.spans_ofModifier {negative : Bool} {count : Option Numeral} {sides : Numeral} {row : List Modifier}
    {phase : Phase} {c c' : Cursor} (h : ofModifier negative count sides row c = .ok (phase, c')) :
    ∃ s, c.Spans s c' := by
  unfold ofModifier at h
  obtain ⟨⟨m, c₁⟩, hfound, h⟩ := exists_of_bind_eq_ok h
  have hspan := (modifier?_sound hfound).2
  cases m <;> cases h <;> exact ⟨_, hspan⟩

/-! ### Steps -/

inductive Control where
  | enter (part : Part)
  | read (phase : Phase)
  | deliver (o : Outcome)
  | raise (fault : Fault)
  deriving Repr

structure Descent (σ : Type) where
  control : Control
  frames : List Frame
  cursor : Cursor
  depth : Nat
  source : σ

namespace Descent

variable {σ : Type}

/-- A call from outside, where some groups may be open already. -/
def call (part : Part) (c : Cursor) (depth : Nat) (source : σ) : Descent σ :=
  { control := .enter part, frames := [], cursor := c, depth, source }

def fail (d : Descent σ) (fault : Fault) : Descent σ := { d with control := .raise fault }

def follow (d : Descent σ) : Except Fault (Phase × Cursor) → Descent σ
  | .ok (phase, cursor) => { d with control := .read phase, cursor }
  | .error fault => d.fail fault

/-- The counter goes up before it is looked at. -/
def enterFactor (d : Descent σ) : Descent σ :=
  if d.cursor.next? = some '(' then
    let opened := { d with depth := d.depth + 1 }
    if maxNesting < opened.depth then opened.fail (.nestingTooDeep d.cursor.position)
    else
      { opened with
        control := .enter .expression
        frames := .group d.cursor.position :: d.frames
        cursor := d.cursor.skip }
  else { d with control := .enter .term }

def evaluate [RandomSource σ] (d : Descent σ) (f : Formula) : Descent σ :=
  match f.evaluate.run.run d.source with
  | (.ok o, source) => { d with control := .deliver o, source }
  | (.error fault, source) => { d with control := .raise fault, source }

/-- A row calls for an operand. -/
def await (d : Descent σ) (kind : Row) (joined : Option (Outcome × Symbol)) : Descent σ :=
  { d with control := .enter kind.operand, frames := .row kind joined :: d.frames }

/-- The test of the loop of a row that has come to `left`. -/
def goOnWith (d : Descent σ) (kind : Row) (left : Outcome) : Descent σ :=
  match d.cursor.next?.bind kind.symbol? with
  | none => { d with control := .deliver left }
  | some symbol => { d with cursor := d.cursor.skip }.await kind (some (left, symbol))

def leaveGroup (d : Descent σ) (openedAt : Nat) (inner : Outcome) : Descent σ :=
  if d.cursor.next? = some ')' then
    { d with control := .deliver inner.group, cursor := d.cursor.skip, depth := d.depth - 1 }
  else d.fail (.missingClosingParenthesis openedAt d.cursor.position)

/-- A frame that was taken from the stack has the outcome it waited for. -/
def resume (d : Descent σ) (o : Outcome) : Frame → Descent σ
  | .row kind joined =>
    match Frame.join joined o with
    | .ok left => d.goOnWith kind left
    | .error fault => d.fail fault
  | .group openedAt => d.leaveGroup openedAt o

/-- The next state; none if the call from outside has returned or a fault was raised. -/
def step [RandomSource σ] (d : Descent σ) : Option (Descent σ) :=
  match d.control with
  | .enter .expression => some (d.await .sum none)
  | .enter .product => some (d.await .product none)
  | .enter .factor => some d.enterFactor
  | .enter .term => some (d.follow (Phase.ofTerm d.cursor))
  | .read (.modifiers negative count sides row) => some (d.follow (Phase.ofModifier negative count sides row d.cursor))
  | .read (.complete f) => some (d.evaluate f)
  | .deliver o =>
    match d.frames with
    | [] => none
    | frame :: frames => some ({ d with frames }.resume o frame)
  | .raise _ => none

/-- One state comes after another, at once or later. -/
abbrev Reaches [RandomSource σ] : Descent σ → Descent σ → Prop :=
  Relation.ReflTransGen fun d d' => d.step = some d'

/-! ### Cursors along a run -/

theorem spans_follow {d : Descent σ} {r : Except Fault (Phase × Cursor)}
    (hspan : ∀ phase c, r = .ok (phase, c) → ∃ s, d.cursor.Spans s c) : ∃ s, d.cursor.Spans s (d.follow r).cursor := by
  cases r with
  | error fault => exact ⟨[], .refl _⟩
  | ok r => exact hspan r.1 r.2 rfl

theorem spans_enterFactor (d : Descent σ) : ∃ s, d.cursor.Spans s d.enterFactor.cursor := by
  unfold enterFactor
  split
  · rename_i hopen
    dsimp only
    split
    · exact ⟨[], .refl _⟩
    · exact ⟨_, Cursor.spans_skip hopen⟩
  · exact ⟨[], .refl _⟩

theorem spans_goOnWith (d : Descent σ) (kind : Row) (left : Outcome) :
    ∃ s, d.cursor.Spans s (d.goOnWith kind left).cursor := by
  unfold goOnWith
  split
  · exact ⟨[], .refl _⟩
  · rename_i symbol hsymbol
    obtain ⟨c, hc, -⟩ := Option.bind_eq_some_iff.mp hsymbol
    exact ⟨_, Cursor.spans_skip hc⟩

theorem spans_resume (d : Descent σ) (o : Outcome) (frame : Frame) : ∃ s, d.cursor.Spans s (d.resume o frame).cursor := by
  cases frame with
  | row kind joined =>
    unfold resume
    dsimp only
    split
    · exact spans_goOnWith ..
    · exact ⟨[], .refl _⟩
  | group openedAt =>
    show ∃ s, d.cursor.Spans s (d.leaveGroup openedAt o).cursor
    unfold leaveGroup
    split
    · rename_i hclose
      exact ⟨_, Cursor.spans_skip hclose⟩
    · exact ⟨[], .refl _⟩

/-- What a step comes to: a row or a factor is begun, a term is read on or worked out, or a frame has its outcome. -/
inductive Moves [RandomSource σ] (d : Descent σ) : Descent σ → Prop where
  | call (kind : Row) (hcontrol : d.control = .enter kind.whole) : d.Moves (d.await kind none)
  | factor (hcontrol : d.control = .enter .factor) : d.Moves d.enterFactor
  | follow {r : Except Fault (Phase × Cursor)} (hspan : ∀ phase c, r = .ok (phase, c) → ∃ s, d.cursor.Spans s c) :
      d.Moves (d.follow r)
  | evaluate (f : Formula) : d.Moves (d.evaluate f)
  | resume {o : Outcome} {frame : Frame} {frames : List Frame} (hframes : d.frames = frame :: frames) :
      d.Moves ({ d with frames }.resume o frame)

section

variable [RandomSource σ] {d d' : Descent σ}

theorem moves_of_step (hstep : d.step = some d') : d.Moves d' := by
  unfold step at hstep
  split at hstep
  case h_1 hcontrol =>
    cases hstep
    exact .call .sum hcontrol
  case h_2 hcontrol =>
    cases hstep
    exact .call .product hcontrol
  case h_3 hcontrol =>
    cases hstep
    exact .factor hcontrol
  case h_4 =>
    cases hstep
    exact .follow fun _ _ => Phase.spans_ofTerm
  case h_5 =>
    cases hstep
    exact .follow fun _ _ => Phase.spans_ofModifier
  case h_6 =>
    cases hstep
    exact .evaluate _
  case h_7 =>
    split at hstep
    · cases hstep
    · rename_i hframes
      cases hstep
      exact .resume hframes
  case h_8 => cases hstep

/-- A step leaves the cursor where it is or moves it on. -/
theorem Moves.spans (h : d.Moves d') : ∃ s, d.cursor.Spans s d'.cursor := by
  cases h with
  | call kind => exact ⟨[], .refl _⟩
  | factor => exact d.spans_enterFactor
  | follow hspan => exact spans_follow hspan
  | evaluate f =>
    unfold Descent.evaluate
    split <;> exact ⟨[], .refl _⟩
  | @resume o frame frames hframes => exact spans_resume { d with frames } o frame

theorem Reaches.spans (h : d.Reaches d') : ∃ s, d.cursor.Spans s d'.cursor := by
  induction h with
  | refl => exact ⟨[], .refl _⟩
  | tail _ hstep ih =>
    obtain ⟨s, hs⟩ := ih
    obtain ⟨t, ht⟩ := (moves_of_step hstep).spans
    exact ⟨s ++ t, hs.trans ht⟩

end

/-! ### Shapes of the stack -/

def groups (frames : List Frame) : Nat := frames.countP Frame.isGroup

@[simp] theorem groups_row (kind : Row) (joined : Option (Outcome × Symbol)) (frames : List Frame) :
    groups (.row kind joined :: frames) = groups frames := rfl

@[simp] theorem groups_group (openedAt : Nat) (frames : List Frame) :
    groups (.group openedAt :: frames) = groups frames + 1 :=
  List.countP_cons_of_pos rfl

/-- The expressions that are under way, the one that is about to begin among them. -/
def expressions (d : Descent σ) : Nat :=
  d.frames.countP Frame.isExpression + match d.control with | .enter .expression => 1 | _ => 0

/-- The frames may wait for this part: a row for its operands, a group for an expression, and a factor for a term. -/
inductive Awaits : List Frame → Part → Prop where
  | outside (part : Part) : Awaits [] part
  | operand {frames : List Frame} {kind : Row} (joined : Option (Outcome × Symbol)) (h : Awaits frames kind.whole) :
      Awaits (.row kind joined :: frames) kind.operand
  | inside {frames : List Frame} (openedAt : Nat) (h : Awaits frames .factor) :
      Awaits (.group openedAt :: frames) .expression
  | term {frames : List Frame} (h : Awaits frames .factor) : Awaits frames .term

/-- There is at most one more expression than there are groups, and no more if another is about to begin. -/
theorem Awaits.expressions_le {frames : List Frame} {part : Part} (h : Awaits frames part) :
    frames.countP Frame.isExpression + (if part = .expression then 1 else 0) ≤ groups frames + 1 := by
  induction h with
  | outside part => cases part <;> decide
  | @operand frames kind joined h ih =>
    cases kind <;> simpa [List.countP_cons, Frame.isExpression, Row.whole, Row.operand] using ih
  | inside openedAt h ih => simpa [List.countP_cons, Frame.isExpression] using ih
  | term h ih => simpa using ih

theorem Awaits.of_cons {frame : Frame} {frames : List Frame} {part : Part} (h : Awaits (frame :: frames) part) :
    (∃ kind joined, frame = .row kind joined ∧ Awaits frames kind.whole) ∨
      ∃ openedAt, frame = .group openedAt ∧ Awaits frames .factor := by
  generalize hall : frame :: frames = all at h
  induction h with
  | outside => cases hall
  | operand joined h =>
    cases hall
    exact .inl ⟨_, _, rfl, h⟩
  | inside openedAt h =>
    cases hall
    exact .inr ⟨_, rfl, h⟩
  | term h ih => exact ih hall

/-- The counter says how many groups are open, and these are not too many. -/
structure Counts (base : Nat) (d : Descent σ) (part : Part) : Prop where
  awaits : Awaits d.frames part
  depth_eq : d.depth = base + groups d.frames
  groups_le : base + groups d.frames ≤ maxNesting

/-- What every state has in common that comes after a call at the depth `base`.  Where a fault is raised, nobody needs the
counter any more. -/
inductive Balanced (base : Nat) (d : Descent σ) : Prop where
  | counting (part : Part) (h : Counts base d part) (henter : ∀ entered, d.control = .enter entered → entered = part)
  | raised {part : Part} {fault : Fault} (hcontrol : d.control = .raise fault) (hawaits : Awaits d.frames part)
      (hgroups : base + groups d.frames ≤ maxNesting)

section

variable {base : Nat} {d : Descent σ} {part : Part}

theorem Counts.fail (h : Counts base d part) (fault : Fault) : Balanced base (d.fail fault) :=
  .raised rfl h.awaits h.groups_le

theorem Counts.deliver (h : Counts base d part) (o : Outcome) (cursor : Cursor) (source : σ) :
    Balanced base { d with control := .deliver o, cursor, source } :=
  .counting part ⟨h.awaits, h.depth_eq, h.groups_le⟩ fun _ henter => by cases henter

theorem Counts.follow (h : Counts base d part) (r : Except Fault (Phase × Cursor)) : Balanced base (d.follow r) := by
  cases r with
  | error fault => exact h.fail fault
  | ok r => exact .counting part ⟨h.awaits, h.depth_eq, h.groups_le⟩ fun _ henter => by cases henter

theorem Counts.enterFactor (h : Counts base d .factor) : Balanced base d.enterFactor := by
  obtain ⟨hawaits, hdepth, hgroups⟩ := h
  unfold Descent.enterFactor
  split
  · dsimp only
    split
    · exact .raised rfl hawaits hgroups
    · rename_i hdeep
      refine .counting .expression ⟨hawaits.inside _, ?_, ?_⟩ fun _ henter => by cases henter; rfl
      · show d.depth + 1 = base + groups (.group _ :: d.frames)
        rw [groups_group, hdepth, Nat.add_assoc]
      · rw [groups_group]
        omega
  · exact .counting .term ⟨hawaits.term, hdepth, hgroups⟩ fun _ henter => by cases henter; rfl

theorem Counts.evaluate [RandomSource σ] (h : Counts base d part) (f : Formula) : Balanced base (d.evaluate f) := by
  unfold Descent.evaluate
  split
  · exact h.deliver ..
  · exact .raised rfl h.awaits h.groups_le

theorem Counts.await (kind : Row) (h : Counts base d kind.whole) (joined : Option (Outcome × Symbol)) :
    Balanced base (d.await kind joined) := by
  refine .counting kind.operand ⟨h.awaits.operand joined, ?_, ?_⟩ fun _ henter => by cases henter; rfl
  · exact h.depth_eq
  · exact h.groups_le

theorem Counts.goOnWith {kind : Row} (h : Counts base d kind.whole) (left : Outcome) :
    Balanced base (d.goOnWith kind left) := by
  unfold Descent.goOnWith
  split
  · exact h.deliver left _ _
  · exact Counts.await (d := { d with cursor := d.cursor.skip }) kind ⟨h.awaits, h.depth_eq, h.groups_le⟩ _

/-- A frame is taken from the stack; if it is a group, the counter goes down with it. -/
theorem Counts.resume {frame : Frame} {frames : List Frame} (h : Counts base d part) (hframes : d.frames = frame :: frames)
    (o : Outcome) : Balanced base ({ d with frames }.resume o frame) := by
  obtain ⟨hawaits, hdepth, hgroups⟩ := h
  rw [hframes] at hawaits hdepth hgroups
  rcases hawaits.of_cons with ⟨kind, joined, rfl, hrest⟩ | ⟨openedAt, rfl, hrest⟩
  · have hrow : Counts base { d with frames } kind.whole := ⟨hrest, hdepth, hgroups⟩
    cases hjoin : Frame.join joined o with
    | error fault =>
      simp only [Descent.resume, hjoin]
      exact hrow.fail fault
    | ok left =>
      simp only [Descent.resume, hjoin]
      exact hrow.goOnWith left
  · rw [groups_group] at hdepth hgroups
    show Balanced base ({ d with frames }.leaveGroup openedAt o)
    unfold leaveGroup
    split
    · refine .counting .factor ⟨hrest, ?_, ?_⟩ fun _ henter => by cases henter
      · show d.depth - 1 = base + groups frames
        omega
      · show base + groups frames ≤ maxNesting
        omega
    · exact .raised rfl hrest (by show base + groups frames ≤ maxNesting; omega)

theorem balanced_call {depth : Nat} (hdepth : depth ≤ maxNesting) (part : Part) (c : Cursor) (source : σ) :
    Balanced depth (call part c depth source) :=
  .counting part ⟨.outside part, rfl, hdepth⟩ fun _ henter => by cases henter; rfl

/-- No call is made inside of too many groups. -/
theorem Balanced.depth_le (h : Balanced base d) (hcontrol : d.control = .enter part) : d.depth ≤ maxNesting := by
  cases h with
  | counting _ h => exact h.depth_eq ▸ h.groups_le
  | raised hraise =>
    rw [hcontrol] at hraise
    cases hraise

theorem Balanced.expressions_le (h : Balanced base d) : base + d.expressions ≤ maxNesting + 1 := by
  unfold expressions
  cases h with
  | counting part h henter =>
    have hle := h.awaits.expressions_le
    have hgroups := h.groups_le
    split
    · rename_i hcontrol
      rw [if_pos (henter _ hcontrol).symm] at hle
      omega
    · omega
  | raised hcontrol hawaits hgroups =>
    have hle := hawaits.expressions_le
    rw [hcontrol]
    dsimp only
    omega

variable [RandomSource σ] {d' : Descent σ}

theorem Counts.moves (h : Counts base d part) (henter : ∀ entered, d.control = .enter entered → entered = part)
    (hmoves : d.Moves d') : Balanced base d' := by
  cases hmoves with
  | call kind hcontrol =>
    obtain rfl := henter _ hcontrol
    exact h.await kind none
  | factor hcontrol =>
    obtain rfl := henter _ hcontrol
    exact h.enterFactor
  | follow => exact h.follow _
  | evaluate f => exact h.evaluate f
  | resume hframes => exact h.resume hframes _

theorem Balanced.step (h : Balanced base d) (hstep : d.step = some d') : Balanced base d' := by
  cases h with
  | counting part h henter => exact h.moves henter (moves_of_step hstep)
  | raised hcontrol =>
    unfold Descent.step at hstep
    rw [hcontrol] at hstep
    cases hstep

theorem Balanced.reaches (h : Balanced base d) (hreaches : d.Reaches d') : Balanced base d' := by
  induction hreaches with
  | refl => exact h
  | tail _ hstep ih => exact ih.step hstep

end

end Descent

end Tabletop.Formula
