import Tabletop.Proofs.Formula.Evaluation

/-!
# Traces of draws

Everything that is thrown draws from whatever source it is given and looks at nothing but the faces.  So a row of faces
stands for the source: recording them changes nothing, and a tape of them, played back, leads to the same value and is
wound on by just these faces (`Trace`).  `Traces x p` says that every run of `x` has such a row, in the relation `p` to
the value of the run; it is proved along the steps of a computation, by `Traces.pure`, `traces_drawFace` and `Traces.bind`.
-/

namespace Tabletop

/-! ### Tapes -/

/-- Faces that are given as they stand, whatever the bounds; an empty tape gives the lower bound. -/
structure Tape where
  faces : List Int
  deriving DecidableEq, Repr

instance : RandomSource Tape where
  draw low _ tape :=
    match tape.faces with
    | [] => (low, tape)
    | f :: rest => (f, ⟨rest⟩)

/-! ### Traces -/

/-- A computation that draws from whatever source it is given. -/
abbrev Throw (α : Type) := (σ : Type) → [RandomSource σ] → StateM σ α

section Traces

variable {α β : Type}

/-- The run of `x` from the source draws just these faces. -/
structure Trace {σ : Type} [RandomSource σ] (x : Throw α) (source : σ) (faces : List Int) : Prop where
  recorded : ∀ drawn, (x (Recorded σ)).run ⟨source, drawn⟩ =
    (((x σ).run source).1, ⟨((x σ).run source).2, faces.reverse ++ drawn⟩)
  replayed : ∀ rest, (x Tape).run ⟨faces ++ rest⟩ = (((x σ).run source).1, ⟨rest⟩)

def Traces (x : Throw α) (p : List Int → α → Prop) : Prop :=
  ∀ (σ : Type) [RandomSource σ] (source : σ), ∃ faces, Trace x source faces ∧ p faces ((x σ).run source).1

variable {p : List Int → α → Prop} {q : List Int → β → Prop}

theorem Traces.pure {a : α} (h : p [] a) : Traces (fun _ _ => pure a) p :=
  fun _ _ _ => ⟨[], ⟨fun _ => rfl, fun _ => rfl⟩, h⟩

theorem traces_drawFace (low high : Int) : Traces (fun _ _ => drawFace low high) fun faces n => faces = [n] :=
  fun _ _ source => ⟨[(RandomSource.draw low high source).1], ⟨fun _ => rfl, fun _ => rfl⟩, rfl⟩

theorem Traces.mono {p' : List Int → α → Prop} {x : Throw α} (hx : Traces x p) (h : ∀ faces a, p faces a → p' faces a) :
    Traces x p' := by
  intro σ _ source
  obtain ⟨faces, htrace, hp⟩ := hx σ source
  exact ⟨faces, htrace, h _ _ hp⟩

/-- The faces of two steps are those of the first and then those of the second. -/
theorem Traces.bind {x : Throw α} {k : α → Throw β} (hx : Traces x p)
    (hk : ∀ faces a, p faces a → Traces (k a) fun more b => q (faces ++ more) b) :
    Traces (fun σ _ => x σ >>= fun a => k a σ) q := by
  intro σ _ source
  obtain ⟨faces, hfirst, hp⟩ := hx σ source
  obtain ⟨more, hsecond, hq⟩ := hk faces _ hp σ ((x σ).run source).2
  refine ⟨faces ++ more, ⟨fun drawn => ?_, fun rest => ?_⟩, hq⟩
  · have hrun := hsecond.recorded (faces.reverse ++ drawn)
    rw [StateT.run_bind, hfirst.recorded, List.reverse_append, List.append_assoc]
    exact hrun
  · have hrun := hsecond.replayed rest
    rw [StateT.run_bind, List.append_assoc, hfirst.replayed]
    exact hrun

theorem Traces.map {x : Throw α} {f : α → β} (hx : Traces x p) (hf : ∀ faces a, p faces a → q faces (f a)) :
    Traces (fun σ _ => f <$> x σ) q :=
  Traces.bind (k := fun a _ _ => Pure.pure (f a)) hx fun faces a ha =>
    .pure (by rw [List.append_nil]; exact hf faces a ha)

/-- A row of throws draws the faces of its values one after the other. -/
theorem Traces.throwMany {throw : Throw α} {faces : α → List Int} {good : α → Prop}
    (h : Traces throw fun drawn a => drawn = faces a ∧ good a) (n : Nat) :
    Traces (fun σ _ => throwMany (throw σ) n) fun drawn values =>
      drawn = values.flatMap faces ∧ values.length = n ∧ ∀ a ∈ values, good a := by
  induction n with
  | zero => exact .pure ⟨rfl, rfl, by simp⟩
  | succ n ih =>
    refine .bind h fun drawn first hfirst => .bind ih fun more rest hrest => .pure ⟨?_, ?_, ?_⟩
    · rw [List.append_nil, hfirst.1, hrest.1, List.flatMap_cons]
    · rw [List.length_cons, hrest.2.1]
    · exact List.forall_mem_cons.mpr ⟨hfirst.2, hrest.2.2⟩

/-- A recorded run is the run of the source that is recorded; its new faces, played back, lead to the same value. -/
theorem Traces.run_recorded {σ : Type} [RandomSource σ] {x : Throw α} (hx : Traces x p) {r r' : Recorded σ} {a : α}
    (h : (x (Recorded σ)).run r = (a, r')) :
    ∃ faces, p faces a ∧ (x σ).run r.source = (a, r'.source) ∧ r'.drawn = faces.reverse ++ r.drawn ∧
      ∀ rest, (x Tape).run ⟨faces ++ rest⟩ = (a, ⟨rest⟩) := by
  obtain ⟨faces, htrace, hp⟩ := hx σ r.source
  obtain ⟨rfl, rfl⟩ := Prod.mk.inj (h.symm.trans (htrace.recorded r.drawn))
  exact ⟨faces, hp, rfl, rfl, htrace.replayed⟩

end Traces

/-! ### Traces of computations that may fail -/

section Rollers

variable {α β : Type} {p : List Int → Except Fault α → Prop} {q : List Int → Except Fault β → Prop}

/-- What faults draws nothing more. -/
theorem Traces.roller {x : (σ : Type) → [RandomSource σ] → Roller σ α}
    {k : α → (σ : Type) → [RandomSource σ] → Roller σ β} (hx : Traces (fun σ _ => (x σ).run) p)
    (hfault : ∀ faces fault, p faces (.error fault) → q faces (.error fault))
    (hk : ∀ faces a, p faces (.ok a) → Traces (fun σ _ => (k a σ).run) fun more r => q (faces ++ more) r) :
    Traces (fun σ _ => (x σ >>= fun a => k a σ).run) q := by
  refine Traces.bind (k := fun r σ _ => ExceptT.bindCont (fun a => k a σ) r) hx fun faces r hr => ?_
  cases r with
  | error fault => exact .pure (by rw [List.append_nil]; exact hfault faces fault hr)
  | ok a => exact hk faces a hr

/-- What is decided without the source draws nothing. -/
theorem Traces.liftM {x : Except Fault α} (h : p [] x) :
    Traces (fun σ _ => (MonadLiftT.monadLift x : Roller σ α).run) p := by
  cases x with
  | error fault => exact .pure h
  | ok a => exact .pure h

theorem Traces.lift {x : Throw α} {p' : List Int → α → Prop} (hx : Traces x p') (h : ∀ faces a, p' faces a → p faces (.ok a)) :
    Traces (fun σ _ => (ExceptT.lift (x σ) : Roller σ α).run) p :=
  .map hx h

end Rollers

end Tabletop
