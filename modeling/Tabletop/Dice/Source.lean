/-!
# Sources of random faces

A source is a state that answers the draw of a whole number between two bounds.  `Script` plays back a given
list of faces, `Congruential` computes them from a seed, and `Recorded` remembers every face that another source
has given.
-/

namespace Tabletop

class RandomSource (σ : Type) where
  /-- One number between the two bounds, and the source after it. -/
  draw : Int → Int → σ → Int × σ

namespace RandomSource

/-- Brings any number into the range from `low` to `high` by whole turns of its length. -/
def intoRange (low high n : Int) : Int :=
  low + (n - low) % (high - low + 1)

end RandomSource

/-- A list of faces that is played in order and again from its start when it is used up. -/
structure Script where
  faces : List Int
  rest : List Int
  deriving DecidableEq, Repr

namespace Script

def ofFaces (faces : List Int) : Script := ⟨faces, faces⟩

def next (s : Script) : Int × Script :=
  match s.rest with
  | f :: rest => (f, { s with rest })
  | [] =>
    match s.faces with
    | f :: rest => (f, { s with rest })
    | [] => (0, s)

instance : RandomSource Script where
  draw low high s :=
    let (f, s) := s.next
    (RandomSource.intoRange low high f, s)

end Script

/-- A linear congruential generator on words of 64 bits. -/
structure Congruential where
  word : UInt64
  deriving DecidableEq, Repr

namespace Congruential

/-- The number of words. -/
def modulus : Nat := 18446744073709551616

def ofSeed (seed : Int) : Congruential :=
  ⟨UInt64.ofNat (seed % modulus).toNat⟩

def step (g : Congruential) : Congruential :=
  ⟨g.word * 6364136223846793005 + 1442695040888963407⟩

/-- The upper 31 bits of the word. -/
def high (g : Congruential) : Nat :=
  (g.word >>> 33).toNat

instance : RandomSource Congruential where
  draw low high g :=
    let g := g.step
    (low + (g.high : Int) % (high - low + 1), g)

end Congruential

/-- Either of the two kinds of source. -/
inductive Dealer where
  | script (faces : Script)
  | congruential (generator : Congruential)
  deriving DecidableEq, Repr

instance : RandomSource Dealer where
  draw low high
    | .script s => let (f, s) := RandomSource.draw low high s; (f, .script s)
    | .congruential g => let (f, g) := RandomSource.draw low high g; (f, .congruential g)

/-- A source together with the faces that it has given, the newest first. -/
structure Recorded (σ : Type) where
  source : σ
  drawn : List Int

namespace Recorded

def start {σ : Type} (source : σ) : Recorded σ := ⟨source, []⟩

def draws {σ : Type} (r : Recorded σ) : Nat := r.drawn.length

instance {σ : Type} [RandomSource σ] : RandomSource (Recorded σ) where
  draw low high r :=
    let (f, source) := RandomSource.draw low high r.source
    (f, ⟨source, f :: r.drawn⟩)

end Recorded

end Tabletop
