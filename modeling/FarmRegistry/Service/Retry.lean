import FarmRegistry.Number.Power
import FarmRegistry.Time.Delay
import FarmRegistry.Time.Timestamp

namespace FarmRegistry

structure RetryPolicy where
  maxAttempts : Nat
  initialBackoff : Delay
  maxBackoff : Delay
deriving DecidableEq

def delayLimit : Nat :=
  18446744073709551615

abbrev Jitter := Delay → Nat → Timestamp → Delay

namespace RetryPolicy

def standard : RetryPolicy :=
  ⟨3, .ofMilliseconds 25, .ofMilliseconds 500⟩

def attempts (p : RetryPolicy) : Nat :=
  max p.maxAttempts 1

def growth (attempt : Nat) : Nat :=
  if 32 < attempt then 4294967295 else twoTo (attempt - 1)

/-- The delay after an attempt doubles with each until it reaches the limit of the policy. -/
def delayAfter (p : RetryPolicy) (attempt : Nat) : Delay :=
  let first := min p.initialBackoff.milliseconds delayLimit
  let last := min p.maxBackoff.milliseconds delayLimit
  .ofMilliseconds (min (min (first * growth attempt) delayLimit) last)

end RetryPolicy

namespace Jitter

def none : Jitter :=
  fun base _ _ => base

/-- Adds up to a quarter, at least a millisecond, picked by the attempt and the fraction of the second. -/
def byAttempt : Jitter := fun base attempt now =>
  let ms := min base.milliseconds delayLimit
  let most := max (ms / 4) 1
  let extra := (now.nanos ^^^ attempt) % (most + 1)
  .ofMilliseconds (min (ms + extra) delayLimit)

end Jitter

end FarmRegistry
