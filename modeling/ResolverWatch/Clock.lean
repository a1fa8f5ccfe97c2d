/-!
# Clocks

A clock tells a time whenever it is asked and is then about to tell the next one. A history can be
given any `TimeSource`; `Clock` is the one that moves on by a fixed step, and a step of zero is a
frozen clock.
-/

namespace ResolverWatch

/-- Anything that can be asked for the time: the time told, and the source after telling it. -/
class TimeSource (γ : Type) where
  tick : γ → Float × γ

/-- A clock about to tell the time `now`. -/
structure Clock where
  now : Float
  step : Float := 0.0

/-- The time told, and the clock after telling it. -/
def Clock.tick (c : Clock) : Float × Clock :=
  (c.now, { c with now := c.now + c.step })

instance : TimeSource Clock :=
  ⟨Clock.tick⟩

end ResolverWatch
