import Tabletop.Proofs.Formula.Beginning
import Tabletop.Proofs.Formula.Rolling
import Tabletop.Proofs.Formula.Steps

/-!
# The plan of a roll

A text that is refused is worked out as far as it was complete.  `plan` lists the steps of all its complete parts, and to roll
the text is to take them on an empty stack (`rollNormal_eq_plan`).  So whatever outcome is built on the way lies on the stack
after some first steps of the plan, also if the roll comes to none.
-/

namespace Tabletop.Formula

open StackStep

/-- What can be worked out of a text: the formula that it is, or what was complete where reading broke off. -/
def completeParts (text : List Char) : List Formula :=
  match read text with
  | .ok f => [f]
  | .error b => b.completed

def plan (text : List Char) : List StackStep := (completeParts text).flatMap steps

/-! ### Numbers in complete parts -/

theorem Begins.inBounds {room : Nat} {k : Nonterminal} {s : List Char} {parts : List Formula} (h : Begins room k s parts) :
    ∀ f ∈ parts, ∀ n ∈ f.numerals, n.InBounds := by
  induction h with
  | sign | letter | mark => simp
  | unclosed h hf => exact List.forall_mem_singleton.mpr hf.numerals
  | opened h ih | factor h ih | product h ih => exact ih
  | times hl hf hc hr ih | plus hl hf hc hr ih => exact List.forall_mem_cons.mpr ⟨hf.numerals, ih⟩

theorem completeParts_inBounds (text : List Char) : ∀ f ∈ completeParts text, ∀ n ∈ f.numerals, n.InBounds := by
  unfold completeParts
  split
  · rename_i f hread
    exact List.forall_mem_singleton.mpr (read_eq_ok_iff.mp hread).2.2.numerals
  · rename_i b hread
    obtain ⟨s, -, hreached, -⟩ := reached_of_read_error hread
    generalize b.completed = parts at hreached
    cases hreached with
    | beginning h => exact h.inBounds
    | whole h hf => exact List.forall_mem_singleton.mpr hf.numerals

theorem exists_literal_of_mem_steps {f : Formula} {o : Outcome} (h : .push o ∈ f.steps) :
    ∃ negative n, n ∈ f.numerals ∧ o = .literal (literalValue negative n) := by
  induction f with
  | literal negative n => exact ⟨negative, n, by simp [numerals], by simpa [steps] using h⟩
  | dice d => simp [steps] at h
  | group inner ih => exact ih (by simpa [steps] using h)
  | binary symbol left right ihl ihr =>
    simp only [steps, List.mem_append, List.mem_singleton, reduceCtorEq, or_false] at h
    rcases h with h | h
    · obtain ⟨negative, n, hn, ho⟩ := ihl h
      exact ⟨negative, n, List.mem_append_left _ hn, ho⟩
    · obtain ⟨negative, n, hn, ho⟩ := ihr h
      exact ⟨negative, n, List.mem_append_right _ hn, ho⟩

private theorem natAbs_literalValue (negative : Bool) (n : Numeral) : (literalValue negative n).natAbs = n.value := by
  unfold literalValue
  split
  · rw [Int.natAbs_neg, Int.natAbs_natCast]
  · rw [Int.natAbs_natCast]

/-- Only numbers that may be written are pushed. -/
theorem exists_literal_of_push {text : List Char} {o : Outcome} (h : .push o ∈ plan text) :
    ∃ value : Int, o = .literal value ∧ value.natAbs ≤ maxNumber := by
  obtain ⟨f, hf, h⟩ := List.mem_flatMap.mp h
  obtain ⟨negative, n, hn, rfl⟩ := exists_literal_of_mem_steps h
  refine ⟨literalValue negative n, rfl, ?_⟩
  rw [natAbs_literalValue]
  exact completeParts_inBounds text f hf n hn

/-! ### Taking the steps -/

variable {σ : Type} [RandomSource σ]

/-- Parts are worked out by taking their steps, one part after the other. -/
theorem evaluateAll_eq (parts : List Formula) (stack : List Outcome) :
    (evaluateAll parts : Roller σ Unit) = runAll (parts.flatMap steps) stack >>= fun _ => pure () := by
  induction parts generalizing stack with
  | nil => rfl
  | cons f rest ih =>
    rw [List.flatMap_cons, runAll_steps, bind_assoc]
    unfold evaluateAll
    refine congrArg (f.evaluate >>= ·) (funext fun o => ?_)
    exact ih (o :: stack)

/-- What a text comes to when all steps of its plan are taken. -/
def conclude (text : List Char) (stack : List Outcome) : Roller σ (List Outcome) :=
  match read text with
  | .ok _ => pure stack
  | .error b => throw b.fault

/-- In the end the outcome of the text lies on the stack and nothing else. -/
theorem rollNormal_eq_plan (text : List Char) :
    (List.singleton <$> rollNormal text : Roller σ (List Outcome)) = runAll (plan text) [] >>= conclude text := by
  rw [rollNormal_eq_settle]
  unfold plan completeParts conclude
  cases read text with
  | ok f =>
    simp only [settle]
    rw [List.flatMap_singleton, ← List.append_nil f.steps, runAll_steps, bind_assoc]
    rfl
  | error b =>
    simp only [settle, abandon]
    rw [evaluateAll_eq b.completed [], bind_assoc, map_bind]
    rfl

end Tabletop.Formula
