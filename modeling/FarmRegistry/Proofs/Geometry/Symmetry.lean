import FarmRegistry.Geometry.Segment
import Mathlib.Tactic.Ring

namespace FarmRegistry

theorem rounded_neg (n : Int) (k : Nat) : rounded (-n) k = -rounded n k := by
  unfold rounded
  rw [Int.natAbs_neg]
  rcases Int.lt_trichotomy n 0 with h | rfl | h
  · simp [h, h.le.not_gt]
  · simp [roundHalfEven]
  · simp [h, h.le.not_gt]

namespace Point

theorem turn_swap (a b c : Point) : turn b a c = -turn a b c := by
  unfold turn
  ring

theorem apparentTurn_swap (a b c : Point) : apparentTurn b a c = -apparentTurn a b c := by
  unfold apparentTurn
  rw [Bool.and_comm b.isCoarse, turn_swap a b c]
  simp only [Int.mul_comm (rounded (b.x - c.x) 0), Int.mul_comm (rounded (b.y - c.y) 0)]
  generalize rounded (rounded (a.x - c.x) 0 * rounded (b.y - c.y) 0) 1074 = left
  generalize rounded (rounded (a.y - c.y) 0 * rounded (b.x - c.x) 0) 1074 = right
  rw [← Int.neg_sub left right, rounded_neg, Int.natAbs_neg, Int.add_comm right left]
  split
  · rfl
  · split <;> rfl

end Point

namespace Segment

def reversed (s : Segment) : Segment :=
  ⟨s.finish, s.start⟩

variable (s t : Segment)

theorem boxesMeet_comm : s.boxesMeet t = t.boxesMeet s := by
  rw [Bool.eq_iff_iff]
  simp only [boxesMeet, Bool.and_eq_true]
  tauto

theorem onOneLine_comm : s.onOneLine t = t.onOneLine s := by
  rw [Bool.eq_iff_iff]
  simp only [onOneLine, Bool.and_eq_true]
  tauto

theorem meetingInLine_comm : meetingInLine s t = meetingInLine t s := by
  unfold meetingInLine
  generalize heldEnds s t = l
  generalize heldEnds t s = l'
  rcases l with _ | ⟨p, _ | ⟨p', _ | _⟩⟩ <;> rcases l' with _ | ⟨q, _ | ⟨q', _ | _⟩⟩ <;> try rfl
  simp only [eq_comm]

theorem meeting_comm : s.meeting t = t.meeting s := by
  unfold meeting
  rw [boxesMeet_comm, Bool.or_assoc, Bool.or_comm (s.onOneSide t), ← Bool.or_assoc, onOneLine_comm, meetingInLine_comm]

theorem minX_reversed : s.reversed.minX = s.minX := Int.min_comm _ _

theorem maxX_reversed : s.reversed.maxX = s.maxX := Int.max_comm _ _

theorem minY_reversed : s.reversed.minY = s.minY := Int.min_comm _ _

theorem maxY_reversed : s.reversed.maxY = s.maxY := Int.max_comm _ _

theorem boxesMeet_reversed : s.reversed.boxesMeet t = s.boxesMeet t := by
  rw [boxesMeet, minX_reversed, maxX_reversed, minY_reversed, maxY_reversed, boxesMeet]

theorem boxHolds_reversed : s.reversed.boxHolds = s.boxHolds := by
  funext p
  rw [boxHolds, minX_reversed, maxX_reversed, minY_reversed, maxY_reversed, boxHolds]

theorem onOneSide_reversed : s.reversed.onOneSide t = s.onOneSide t := by
  rw [Bool.eq_iff_iff]
  unfold onOneSide reversed
  rw [Point.apparentTurn_swap s.start s.finish, Point.apparentTurn_swap s.start s.finish]
  simp only [Bool.or_eq_true, Bool.and_eq_true, decide_eq_true_eq]
  omega

theorem onOneSide_of_reversed : t.onOneSide s.reversed = t.onOneSide s := by
  rw [Bool.eq_iff_iff]
  unfold onOneSide reversed
  simp only [Bool.or_eq_true, Bool.and_eq_true, decide_eq_true_eq]
  omega

theorem onOneLine_reversed : s.reversed.onOneLine t = s.onOneLine t := by
  rw [Bool.eq_iff_iff]
  unfold onOneLine reversed
  rw [Point.apparentTurn_swap s.start s.finish, Point.apparentTurn_swap s.start s.finish]
  simp only [Bool.and_eq_true, decide_eq_true_eq]
  omega

theorem heldEnds_reversed : heldEnds s.reversed t = heldEnds s t := by
  rw [heldEnds, boxHolds_reversed, heldEnds]

theorem heldEnds_of_reversed : heldEnds t s.reversed = (heldEnds t s).reverse := by
  rw [heldEnds, heldEnds, ← List.filter_reverse]
  rfl

theorem meetingInLine_reversed : meetingInLine s.reversed t = meetingInLine s t := by
  have hshort : (heldEnds t s).length ≤ 2 := List.length_filter_le _ _
  unfold meetingInLine
  rw [heldEnds_reversed, heldEnds_of_reversed]
  generalize heldEnds s t = l
  generalize heldEnds t s = l' at hshort
  rcases l' with _ | ⟨q, _ | ⟨q', _ | ⟨_, _⟩⟩⟩
  · rfl
  · rfl
  · rcases l with _ | ⟨p, _ | ⟨p', _ | _⟩⟩ <;> rfl
  · simp only [List.length_cons] at hshort
    omega

theorem meeting_reversed : s.reversed.meeting t = s.meeting t := by
  unfold meeting
  rw [boxesMeet_reversed, onOneSide_reversed, onOneSide_of_reversed, onOneLine_reversed, meetingInLine_reversed]

end Segment

end FarmRegistry
