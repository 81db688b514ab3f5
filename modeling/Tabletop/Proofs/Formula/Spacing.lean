import Tabletop.Proofs.Formula.Strays
import Mathlib.Logic.Relation

/-!
# White space and the case of letters

Blanks may be put in or left out anywhere and ASCII letters may change their case (`Respacing`).  Normal forms then differ at
most where the form of a sigma was chosen by what stands around it (`normalize_map_of_plain`), and the reader cannot tell
one stray character from another, so texts that are spaced differently come to the same (`roll_respaced`).
-/

namespace Tabletop

/-! ### Texts that are spaced differently -/

/-- One blank more or less, or one ASCII letter in the other case. -/
inductive Respacing : List Char → List Char → Prop
  | insert (before after : List Char) {c : Char} (h : Text.isBlank c) : Respacing (before ++ after) (before ++ c :: after)
  | delete (before after : List Char) {c : Char} (h : Text.isBlank c) : Respacing (before ++ c :: after) (before ++ after)
  | recase (before after : List Char) {c d : Char} (h : c.toLower = d.toLower) :
      Respacing (before ++ c :: after) (before ++ d :: after)

namespace Text

/-- A text without blanks and without ASCII capitals. -/
def plain (text : List Char) : List Char := (text.filter fun c => !isBlank c).map Char.toLower

theorem plain_append (s t : List Char) : plain (s ++ t) = plain s ++ plain t := by
  unfold plain
  rw [List.filter_append, List.map_append]

theorem plain_cons_of_isBlank {c : Char} (h : isBlank c) (s : List Char) : plain (c :: s) = plain s := by
  unfold plain
  rw [List.filter_cons_of_neg (by simp [h])]

/-- Only ASCII capitals have another lower case. -/
theorem toLower_cases (c : Char) : c.toLower = c ∨ 65 ≤ c.toNat ∧ c.toNat ≤ 90 := by
  unfold Char.toLower
  split
  · rename_i hcapital
    simp only [ge_iff_le, UInt32.le_iff_toNat_le] at hcapital
    exact .inr hcapital
  · exact .inl rfl

/-- What holds of all ASCII capitals one by one. -/
theorem forall_capital {p : Char → Prop} (h : ∀ n ∈ List.range' 65 26, p (Char.ofNat n)) {c : Char}
    (hc : 65 ≤ c.toNat ∧ c.toNat ≤ 90) : p c := by
  rw [← Char.ofNat_toNat c]
  exact h c.toNat (List.mem_range'_1.mpr (by omega))

@[simp] theorem isBlank_toLower (c : Char) : isBlank c.toLower = isBlank c := by
  rcases toLower_cases c with h | h
  · rw [h]
  · exact forall_capital (p := fun c => isBlank c.toLower = isBlank c) (by decide) h

theorem toLower_toLower (c : Char) : c.toLower.toLower = c.toLower := by
  rcases toLower_cases c with h | h
  · rw [h, h]
  · exact forall_capital (p := fun c => c.toLower.toLower = c.toLower) (by decide) h

theorem plain_cons_of_toLower {c d : Char} (h : c.toLower = d.toLower) (s : List Char) : plain (c :: s) = plain (d :: s) := by
  have hblank : isBlank c = isBlank d := by rw [← isBlank_toLower c, h, isBlank_toLower]
  unfold plain
  cases hd : isBlank d with
  | false => simp [hblank, hd, h]
  | true => simp [hblank, hd]

end Text

open Text (plain)

namespace Respacing

theorem plain_eq {s t : List Char} (h : Respacing s t) : plain s = plain t := by
  cases h with
  | insert before after hc => rw [Text.plain_append, Text.plain_append, Text.plain_cons_of_isBlank hc]
  | delete before after hc => rw [Text.plain_append, Text.plain_append, Text.plain_cons_of_isBlank hc]
  | recase before after hc => rw [Text.plain_append, Text.plain_append, Text.plain_cons_of_toLower hc]

instance : Std.Symm Respacing where
  symm s t h := by
    cases h with
    | insert before after hc => exact .delete before after hc
    | delete before after hc => exact .insert before after hc
    | recase before after hc => exact .recase before after hc.symm

theorem cons {s t : List Char} (h : Respacing s t) (c : Char) : Respacing (c :: s) (c :: t) := by
  cases h with
  | insert before after hc => exact .insert (c :: before) after hc
  | delete before after hc => exact .delete (c :: before) after hc
  | recase before after hc => exact .recase (c :: before) after hc

end Respacing

open Relation (ReflTransGen)

theorem respaced_plain (s : List Char) : ReflTransGen Respacing s (plain s) := by
  induction s with
  | nil => exact .refl
  | cons c s ih =>
    have hcons : ∀ s t, Respacing s t → Respacing (c :: s) (c :: t) := fun _ _ h => h.cons c
    have hrest : ReflTransGen Respacing (c :: s) (c :: plain s) := ReflTransGen.lift (c :: ·) hcons _ _ ih
    cases hc : Text.isBlank c with
    | true =>
      rw [Text.plain_cons_of_isBlank hc]
      exact hrest.tail (.delete [] _ hc)
    | false =>
      have hplain : plain (c :: s) = c.toLower :: plain s := by simp [plain, hc]
      rw [hplain]
      exact hrest.tail (.recase [] _ (Text.toLower_toLower c).symm)

/-- Nothing but blanks and the case of ASCII letters tells such texts apart. -/
theorem respaced_iff {s t : List Char} : ReflTransGen Respacing s t ↔ plain s = plain t := by
  constructor
  · intro h
    induction h with
    | refl => rfl
    | tail _ hstep ih => exact ih.trans hstep.plain_eq
  · intro h
    have hback : ReflTransGen Respacing (plain t) t := ReflTransGen.stdSymm.symm _ _ (respaced_plain t)
    rw [← h] at hback
    exact (respaced_plain s).trans hback

/-! ### Their normal forms -/

/-- The two small sigmas are made one. -/
def oneSigma : Exchange where
  map c := if c = 'ς' then 'σ' else c
  fixed c hc := by
    have hne : c ≠ 'ς' := ne_of_mem_of_not_mem hc (by decide)
    exact if_neg hne
  strays c hc := by
    by_cases hfinal : c = 'ς'
    · rw [if_pos hfinal] at hc
      exact absurd hc (by decide)
    · rwa [if_neg hfinal] at hc

namespace Text

/-- What the normal form has in the place of a character. -/
def core (c : Char) : List Char := ((lowerBetween [] c []).map oneSigma.map).filter fun c => !isBlank c

/-- But for the form of a sigma it does not matter what stands around a character. -/
theorem map_lowerBetween (before : List Char) (c : Char) (after : List Char) :
    (lowerBetween before c after).map oneSigma.map = (lowerBetween [] c []).map oneSigma.map := by
  unfold lowerBetween
  split
  · rfl
  · split
    · split
      · rfl
      · rfl
    · rfl

theorem isBlank_oneSigma (c : Char) : isBlank (oneSigma.map c) = isBlank c := by
  by_cases hc : c = 'ς'
  · rw [hc]
    decide
  · exact congrArg isBlank (if_neg hc)

theorem filter_lowercaseAfter_map (before s : List Char) :
    ((lowercaseAfter before s).filter fun c => !isBlank c).map oneSigma.map = s.flatMap core := by
  induction s generalizing before with
  | nil => rfl
  | cons c s ih =>
    have hfilter : ∀ t : List Char,
        (t.filter fun c => !isBlank c).map oneSigma.map = (t.map oneSigma.map).filter fun c => !isBlank c := by
      intro t
      rw [List.filter_map]
      refine congrArg (List.map oneSigma.map) (List.filter_congr fun d _ => ?_)
      simp [isBlank_oneSigma]
    unfold lowercaseAfter
    rw [List.filter_append, List.map_append, ih, hfilter, map_lowerBetween]
    rfl

/-- The code points of the blanks. -/
private def blankCodes : List Nat :=
  List.range' 0x09 5 ++ List.range' 0x1C 5 ++ [0x85, 0xA0, 0x1680] ++ List.range' 0x2000 11 ++
    [0x2028, 0x2029, 0x202F, 0x205F, 0x3000]

theorem core_of_isBlank {c : Char} (h : isBlank c) : core c = [] := by
  have hcode : c.toNat ∈ blankCodes := by
    simp only [isBlank, isWhiteSpace, isSeparator, Bool.or_eq_true, decide_eq_true_eq, beq_iff_eq] at h
    simp only [blankCodes, List.mem_append, List.mem_range'_1, List.mem_cons, List.not_mem_nil, or_false]
    omega
  have hall : ∀ n ∈ blankCodes, core (Char.ofNat n) = [] := by decide +kernel
  rw [← Char.ofNat_toNat c]
  exact hall c.toNat hcode

theorem core_toLower (c : Char) : core c.toLower = core c := by
  rcases toLower_cases c with h | h
  · rw [h]
  · exact forall_capital (p := fun c => core c.toLower = core c) (by decide +kernel) h

theorem flatMap_core (s : List Char) : s.flatMap core = (plain s).flatMap core := by
  induction s with
  | nil => rfl
  | cons c s ih =>
    cases hc : isBlank c with
    | true => rw [plain_cons_of_isBlank hc, List.flatMap_cons, core_of_isBlank hc, List.nil_append, ih]
    | false =>
      have hplain : plain (c :: s) = c.toLower :: plain s := by simp [plain, hc]
      rw [hplain, List.flatMap_cons, List.flatMap_cons, core_toLower, ih]

end Text

namespace Formula

theorem normalize_map_of_plain {s t : String} (h : plain s.toList = plain t.toList) :
    (normalize s).map oneSigma.map = (normalize t).map oneSigma.map := by
  have hcore : ∀ s : String, (normalize s).map oneSigma.map = (plain s.toList).flatMap Text.core := by
    intro s
    rw [← Text.flatMap_core]
    exact Text.filter_lowercaseAfter_map [] s.toList
  rw [hcore, hcore, h]

/-! ### What they come to -/

/-- The faults are the same, or both quote a small sigma at the same place. -/
structure SameButSigma (fault other : Fault) : Prop where
  code : other.code = fault.code
  position : other.position = fault.position
  quoted : other = fault ∨ ∃ p, ∃ c ∈ ['σ', 'ς'], ∃ d ∈ ['σ', 'ς'],
    fault = .unexpectedCharacter c p ∧ other = .unexpectedCharacter d p

theorem SameButSigma.refl (fault : Fault) : SameButSigma fault fault := ⟨rfl, rfl, .inl rfl⟩

private theorem mem_sigmas_of_map_eq {c d : Char} (h : oneSigma.map c = oneSigma.map d) :
    c = d ∨ c ∈ ['σ', 'ς'] ∧ d ∈ ['σ', 'ς'] := by
  change (if c = 'ς' then 'σ' else c) = if d = 'ς' then 'σ' else d at h
  by_cases hc : c = 'ς'
  · by_cases hd : d = 'ς'
    · exact .inl (hc.trans hd.symm)
    · rw [if_pos hc, if_neg hd] at h
      simp [hc, ← h]
  · by_cases hd : d = 'ς'
    · rw [if_neg hc, if_pos hd] at h
      simp [hd, h]
    · rw [if_neg hc, if_neg hd] at h
      exact .inl h

theorem SameButSigma.of_exchange {fault other : Fault} (h : fault.exchange oneSigma = other.exchange oneSigma) :
    SameButSigma fault other := by
  have hself : ∀ f : Fault, (∀ c p, f ≠ .unexpectedCharacter c p) → f.exchange oneSigma = f := by
    intro f hf
    cases f with
    | unexpectedCharacter c p => exact absurd rfl (hf c p)
    | _ => rfl
  by_cases hfault : ∃ c p, fault = .unexpectedCharacter c p
  · obtain ⟨c, p, rfl⟩ := hfault
    by_cases hother : ∃ d q, other = .unexpectedCharacter d q
    · obtain ⟨d, q, rfl⟩ := hother
      obtain ⟨hmap, rfl⟩ := Fault.unexpectedCharacter.inj h
      rcases mem_sigmas_of_map_eq hmap with rfl | ⟨hc, hd⟩
      · exact .refl _
      · exact ⟨rfl, rfl, .inr ⟨p, c, hc, d, hd, rfl, rfl⟩⟩
    · rw [hself other (by simpa using hother)] at h
      exact absurd ⟨_, _, h.symm⟩ hother
  · rw [hself fault (by simpa using hfault)] at h
    by_cases hother : ∃ d q, other = .unexpectedCharacter d q
    · obtain ⟨d, q, rfl⟩ := hother
      exact absurd ⟨_, _, h⟩ hfault
    · rw [hself other (by simpa using hother)] at h
      rw [h]
      exact .refl _

/-- Two rolls that leave the source in the same state, with the same outcome or for the same reason. -/
inductive SameRun {σ : Type} : Except Fault Outcome × σ → Except Fault Outcome × σ → Prop
  | ok (o : Outcome) (source : σ) : SameRun (.ok o, source) (.ok o, source)
  | error {fault other : Fault} (source : σ) (h : SameButSigma fault other) :
      SameRun (.error fault, source) (.error other, source)

variable {σ : Type} [RandomSource σ]

theorem settle_sameRun {r r' : Except Break Formula}
    (h : r.mapError (Break.exchange oneSigma) = r'.mapError (Break.exchange oneSigma)) (source : σ) :
    SameRun ((settle r).run.run source) ((settle r').run.run source) := by
  have hrefl : ∀ run : Except Fault Outcome × σ, SameRun run run := by
    rintro ⟨result, s⟩
    cases result with
    | ok o => exact .ok o s
    | error fault => exact .error s (.refl fault)
  cases r with
  | ok f =>
    cases r' with
    | ok f' =>
      obtain rfl : f = f' := Except.ok.inj h
      exact hrefl _
    | error b' => cases h
  | error b =>
    cases r' with
    | ok f' => cases h
    | error b' =>
      obtain ⟨parts, fault⟩ := b
      obtain ⟨parts', fault'⟩ := b'
      obtain ⟨rfl, hfault⟩ := Break.mk.inj (Except.error.inj h)
      -- The parts that were complete are rolled before either fault is reported.
      show SameRun ((evaluateAll parts >>= fun _ => throw fault : Roller σ Outcome).run.run source)
        ((evaluateAll parts >>= fun _ => throw fault' : Roller σ Outcome).run.run source)
      rw [ExceptT.run_bind, ExceptT.run_bind, StateT.run_bind, StateT.run_bind]
      cases (evaluateAll parts : Roller σ Unit).run.run source with
      | mk result s =>
        cases result with
        | ok u => exact .error s (.of_exchange hfault)
        | error earlier => exact hrefl _

/-- White space and the case of ASCII letters do not matter: from any source the same faces are drawn, and both texts have
the same outcome or are refused for the same reason, with the same code and position. -/
theorem roll_respaced {s t : String} (h : ReflTransGen Respacing s.toList t.toList) (source : σ) :
    SameRun ((roll s).run.run source) ((roll t).run.run source) := by
  unfold roll
  rw [rollNormal_eq_settle, rollNormal_eq_settle]
  apply settle_sameRun
  rw [← read_exchange, ← read_exchange, normalize_map_of_plain (respaced_iff.mp h)]

/-- The first sigma ends a word and the second one does not, so they are lowered differently. -/
theorem roll_respaced_sigma :
    ReflTransGen Respacing "dfΣ".toList "D F\u00A0Σ".toList ∧
      normalize "dfΣ" = ['d', 'f', 'ς'] ∧ normalize "D F\u00A0Σ" = ['d', 'f', 'σ'] ∧
      SameRun ((roll "dfΣ").run.run (Script.ofFaces [1])) ((roll "D F\u00A0Σ").run.run (Script.ofFaces [1])) := by
  have h : ReflTransGen Respacing "dfΣ".toList "D F\u00A0Σ".toList := respaced_iff.mpr (by decide +kernel)
  exact ⟨h, by decide +kernel, by decide +kernel, roll_respaced h (Script.ofFaces [1])⟩

end Formula

end Tabletop
