import FarmRegistry.Number.Power

namespace FarmRegistry

def roundHalfEven (num den : Nat) : Nat :=
  let q := num / den
  let r := num % den
  if 2 * r < den then q
  else if den < 2 * r then q + 1
  else if q % 2 = 0 then q else q + 1

def rounded (n : Int) (k : Nat) : Int :=
  let dropped := max (Nat.log2 n.natAbs + 1 - 53) k
  let magnitude := roundHalfEven n.natAbs (twoTo dropped) * twoTo (dropped - k)
  if n < 0 then -magnitude else magnitude

end FarmRegistry
