namespace FarmRegistry

structure Delay where
  nanoseconds : Nat
deriving DecidableEq

namespace Delay

def ofMilliseconds (n : Nat) : Delay :=
  ⟨n * 1000000⟩

def ofParts (seconds nanos : Nat) : Delay :=
  ⟨seconds * 1000000000 + nanos⟩

def milliseconds (d : Delay) : Nat :=
  d.nanoseconds / 1000000

theorem milliseconds_ofMilliseconds (n : Nat) : (ofMilliseconds n).milliseconds = n := by
  simp [ofMilliseconds, milliseconds]

end Delay

end FarmRegistry
