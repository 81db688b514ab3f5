import Tabletop.Binary64

/-!
# Clock readings

A limiter only compares readings, subtracts them and adds whole seconds to them.  Readings are binary floating
point numbers when a session runs and whole seconds when it is reasoned about.
-/

namespace Tabletop

class ClockTime (τ : Type) where
  seconds : Nat → τ
  /-- The least whole number of seconds that is not below the reading; none if it has no bound. -/
  ceiling : τ → Option Int

instance : ClockTime Int where
  seconds n := n
  ceiling := some

instance : ClockTime Float where
  seconds := Float.ofNat
  ceiling t := (Binary64.ofFloat? t).map Binary64.ceiling

end Tabletop
