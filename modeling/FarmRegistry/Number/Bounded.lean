namespace FarmRegistry

structure Bounded (lo hi : Int) where
  val : Int
  lo_le : lo ≤ val
  le_hi : val ≤ hi
deriving DecidableEq

namespace Bounded

variable {lo hi : Int}

def ofInt? (n : Int) : Option (Bounded lo hi) :=
  if h : lo ≤ n ∧ n ≤ hi then some ⟨n, h.1, h.2⟩ else none

theorem ofInt?_eq_some_iff {n : Int} {b : Bounded lo hi} : ofInt? n = some b ↔ b.val = n := by
  obtain ⟨v, hl, hh⟩ := b
  simp only [ofInt?]
  split <;> simp_all
  · exact eq_comm
  · rintro rfl
    omega

theorem ofInt?_eq_none_iff {n : Int} : (ofInt? n : Option (Bounded lo hi)) = none ↔ ¬(lo ≤ n ∧ n ≤ hi) := by
  simp [ofInt?]

theorem ext {a b : Bounded lo hi} (h : a.val = b.val) : a = b := by
  obtain ⟨v, _, _⟩ := a
  obtain ⟨w, _, _⟩ := b
  simp_all

end Bounded

abbrev Signed64 := Bounded (-9223372036854775808) 9223372036854775807
abbrev Signed32 := Bounded (-2147483648) 2147483647
abbrev Unsigned32 := Bounded 0 4294967295

inductive Overflow where
  | add
  | subtract
deriving DecidableEq

def Overflow.message : Overflow → String
  | .add => "attempt to add with overflow"
  | .subtract => "attempt to subtract with overflow"

end FarmRegistry
