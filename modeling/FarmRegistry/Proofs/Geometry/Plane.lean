import FarmRegistry.Geometry.Segment
import Mathlib.Analysis.Convex.Segment
import Mathlib.Data.Real.Basic
import Mathlib.Tactic.Linarith
import Mathlib.Tactic.LinearCombination

namespace FarmRegistry

namespace Plane

/-- On which side of the line from `a` to `b` a place lies, with its distance times that of `a` and `b`. -/
def side (a b p : ℝ × ℝ) : ℝ :=
  (b.1 - a.1) * (p.2 - a.2) - (b.2 - a.2) * (p.1 - a.1)

def progress (a b p : ℝ × ℝ) : ℝ :=
  (b.1 - a.1) * (p.1 - a.1) + (b.2 - a.2) * (p.2 - a.2)

variable {a b c d p q : ℝ × ℝ}

theorem mem_segment_iff : p ∈ segment ℝ a b ↔ ∃ t : ℝ, 0 ≤ t ∧ t ≤ 1 ∧
    p.1 = a.1 + t * (b.1 - a.1) ∧ p.2 = a.2 + t * (b.2 - a.2) := by
  rw [segment_eq_image']
  constructor
  · rintro ⟨t, ⟨h0, h1⟩, rfl⟩
    exact ⟨t, h0, h1, rfl, rfl⟩
  · rintro ⟨t, h0, h1, hx, hy⟩
    exact ⟨t, ⟨h0, h1⟩, Prod.ext hx.symm hy.symm⟩

theorem side_start : side a b a = 0 := by
  unfold side
  ring

theorem side_finish : side a b b = 0 := by
  unfold side
  ring

theorem progress_start : progress a b a = 0 := by
  unfold progress
  ring

theorem progress_pos (h : a ≠ b) : 0 < progress a b b := by
  have hsquares : progress a b b = (b.1 - a.1) ^ 2 + (b.2 - a.2) ^ 2 := by
    unfold progress
    ring
  rw [hsquares]
  by_contra hneg
  have hx : (b.1 - a.1) ^ 2 = 0 := by linarith [sq_nonneg (b.1 - a.1), sq_nonneg (b.2 - a.2)]
  have hy : (b.2 - a.2) ^ 2 = 0 := by linarith [sq_nonneg (b.1 - a.1), sq_nonneg (b.2 - a.2)]
  exact h (Prod.ext (sub_eq_zero.mp (pow_eq_zero_iff two_ne_zero |>.mp hx)).symm
    (sub_eq_zero.mp (pow_eq_zero_iff two_ne_zero |>.mp hy)).symm)

theorem eq_of_side_progress (h : a ≠ b) (hside : side a b p = side a b q)
    (hprogress : progress a b p = progress a b q) : p = q := by
  have hpos := progress_pos h
  unfold side at hside
  unfold progress at hprogress hpos
  have hx : ((b.1 - a.1) * (b.1 - a.1) + (b.2 - a.2) * (b.2 - a.2)) * (p.1 - q.1) = 0 := by
    linear_combination (b.1 - a.1) * hprogress - (b.2 - a.2) * hside
  have hy : ((b.1 - a.1) * (b.1 - a.1) + (b.2 - a.2) * (b.2 - a.2)) * (p.2 - q.2) = 0 := by
    linear_combination (b.2 - a.2) * hprogress + (b.1 - a.1) * hside
  refine Prod.ext (sub_eq_zero.mp ?_) (sub_eq_zero.mp ?_)
  · exact (mul_eq_zero.mp hx).resolve_left hpos.ne'
  · exact (mul_eq_zero.mp hy).resolve_left hpos.ne'

theorem exists_share (hp : p ∈ segment ℝ c d) : ∃ t : ℝ, 0 ≤ t ∧ t ≤ 1 ∧
    side a b p = side a b c + t * (side a b d - side a b c) ∧
      progress a b p = progress a b c + t * (progress a b d - progress a b c) := by
  obtain ⟨t, h0, h1, hx, hy⟩ := mem_segment_iff.mp hp
  refine ⟨t, h0, h1, ?_, ?_⟩
  · unfold side
    rw [hx, hy]
    ring
  · unfold progress
    rw [hx, hy]
    ring

theorem side_eq_zero (hp : p ∈ segment ℝ a b) : side a b p = 0 := by
  obtain ⟨t, _, _, hside, _⟩ := exists_share (a := a) (b := b) hp
  rw [hside, side_start, side_finish]
  ring

theorem share_between {x y t : ℝ} (h0 : 0 ≤ t) (h1 : t ≤ 1) :
    x ≤ x + t * (y - x) ∧ x + t * (y - x) ≤ y ∨ y ≤ x + t * (y - x) ∧ x + t * (y - x) ≤ x := by
  rcases le_total x y with hle | hle
  · exact .inl ⟨by nlinarith, by nlinarith⟩
  · exact .inr ⟨by nlinarith, by nlinarith⟩

theorem not_mem_of_one_side (h : 0 < side a b c ∧ 0 < side a b d ∨ side a b c < 0 ∧ side a b d < 0)
    (hp : p ∈ segment ℝ c d) : p ∉ segment ℝ a b := by
  intro hab
  obtain ⟨t, h0, h1, hside, _⟩ := exists_share (a := a) (b := b) hp
  rw [side_eq_zero hab] at hside
  have hbetween := share_between (x := side a b c) (y := side a b d) h0 h1
  rw [← hside] at hbetween
  grind

theorem mem_segment_line (h : a ≠ b) (hc : side a b c = 0) (hd : side a b d = 0) (hne : c ≠ d) :
    p ∈ segment ℝ c d ↔ side a b p = 0 ∧
      (progress a b c ≤ progress a b p ∧ progress a b p ≤ progress a b d ∨
        progress a b d ≤ progress a b p ∧ progress a b p ≤ progress a b c) := by
  constructor
  · intro hp
    obtain ⟨t, h0, h1, hside, hprogress⟩ := exists_share (a := a) (b := b) hp
    refine ⟨by rw [hside, hc, hd]; ring, ?_⟩
    rw [hprogress]
    exact share_between h0 h1
  · rintro ⟨hside, hbetween⟩
    have hdiffer : progress a b d - progress a b c ≠ 0 := by
      intro heq
      exact hne (eq_of_side_progress h (hc.trans hd.symm) (by linarith))
    let t := (progress a b p - progress a b c) / (progress a b d - progress a b c)
    have ht : t * (progress a b d - progress a b c) = progress a b p - progress a b c := div_mul_cancel₀ _ hdiffer
    have hunit : 0 ≤ t ∧ t ≤ 1 := by
      rcases hbetween with ⟨hlo, hhi⟩ | ⟨hlo, hhi⟩
      · exact ⟨div_nonneg (by linarith) (by linarith), div_le_one_of_le₀ (by linarith) (by linarith)⟩
      · exact ⟨div_nonneg_of_nonpos (by linarith) (by linarith), div_le_one_of_ge (by linarith) (by linarith)⟩
    let r : ℝ × ℝ := (c.1 + t * (d.1 - c.1), c.2 + t * (d.2 - c.2))
    have hr : r ∈ segment ℝ c d := mem_segment_iff.mpr ⟨t, hunit.1, hunit.2, rfl, rfl⟩
    have hrside : side a b r = side a b c + t * (side a b d - side a b c) := by
      simp only [side, r]
      ring
    have hrprogress : progress a b r = progress a b c + t * (progress a b d - progress a b c) := by
      simp only [progress, r]
      ring
    have heq : p = r := by
      apply eq_of_side_progress h
      · rw [hrside, hside, hc, hd]
        ring
      · rw [hrprogress, ht]
        ring
    rw [heq]
    exact hr

theorem share_of_opposite {x y : ℝ} (h : ¬(0 < x ∧ 0 < y ∨ x < 0 ∧ y < 0)) (hne : x - y ≠ 0) :
    0 ≤ x / (x - y) ∧ x / (x - y) ≤ 1 := by
  rcases hne.lt_or_gt with hneg | hpos
  · have hx : x ≤ 0 := by grind
    have hy : 0 ≤ y := by grind
    exact ⟨div_nonneg_of_nonpos hx hneg.le, div_le_one_of_ge (by linarith) hneg.le⟩
  · have hx : 0 ≤ x := by grind
    have hy : y ≤ 0 := by grind
    exact ⟨div_nonneg hx hpos.le, div_le_one_of_le₀ (by linarith) hpos.le⟩

theorem exists_crossing (hcd : ¬(0 < side a b c ∧ 0 < side a b d ∨ side a b c < 0 ∧ side a b d < 0))
    (hab : ¬(0 < side c d a ∧ 0 < side c d b ∨ side c d a < 0 ∧ side c d b < 0))
    (hline : ¬(side a b c = 0 ∧ side a b d = 0 ∧ side c d a = 0 ∧ side c d b = 0)) :
    ∃ p, segment ℝ a b ∩ segment ℝ c d = {p} := by
  have hslant : side a b c - side a b d = -(side c d a - side c d b) := by
    unfold side
    ring
  have hne : side a b c - side a b d ≠ 0 := by grind
  have hne' : side c d a - side c d b ≠ 0 := by grind
  let t := side a b c / (side a b c - side a b d)
  let u := side c d a / (side c d a - side c d b)
  have ht : t * (side a b c - side a b d) = side a b c := div_mul_cancel₀ _ hne
  have hu : u * (side c d a - side c d b) = side c d a := div_mul_cancel₀ _ hne'
  obtain ⟨ht0, ht1⟩ : 0 ≤ t ∧ t ≤ 1 := share_of_opposite hcd hne
  obtain ⟨hu0, hu1⟩ : 0 ≤ u ∧ u ≤ 1 := share_of_opposite hab hne'
  let r : ℝ × ℝ := (c.1 + t * (d.1 - c.1), c.2 + t * (d.2 - c.2))
  have hrcd : r ∈ segment ℝ c d := mem_segment_iff.mpr ⟨t, ht0, ht1, rfl, rfl⟩
  have hrab : r ∈ segment ℝ a b := by
    refine mem_segment_iff.mpr ⟨u, hu0, hu1, ?_, ?_⟩
    · apply mul_left_cancel₀ hne
      simp only [r]
      unfold side at ht hu hslant ⊢
      linear_combination (d.1 - c.1) * ht - (b.1 - a.1) * hslant * u + (b.1 - a.1) * hu
    · apply mul_left_cancel₀ hne
      simp only [r]
      unfold side at ht hu hslant ⊢
      linear_combination (d.2 - c.2) * ht - (b.2 - a.2) * hslant * u + (b.2 - a.2) * hu
  refine ⟨r, Set.eq_singleton_iff_unique_mem.mpr ⟨⟨hrab, hrcd⟩, ?_⟩⟩
  rintro p ⟨hpab, hpcd⟩
  obtain ⟨v, _, _, hx, hy⟩ := mem_segment_iff.mp hpcd
  have hv : v * (side a b c - side a b d) = side a b c := by
    have hside := side_eq_zero hpab
    unfold side at hside ⊢
    rw [hx, hy] at hside
    linear_combination -hside
  have hvt : v = t := mul_right_cancel₀ hne (hv.trans ht.symm)
  rw [hvt] at hx hy
  exact Prod.ext hx hy

section Line

variable (h : a ≠ b) (hc : side a b c = 0) (hd : side a b d = 0) (hne : c ≠ d)
include h

theorem mem_segment_self_line :
    p ∈ segment ℝ a b ↔ side a b p = 0 ∧ 0 ≤ progress a b p ∧ progress a b p ≤ progress a b b := by
  have hpos := progress_pos h
  rw [mem_segment_line h side_start side_finish h, progress_start]
  grind

include hc hd hne

theorem ends_of_common (hab : p ∈ segment ℝ a b) (hcd : p ∈ segment ℝ c d)
    (hends : ¬(c ∈ segment ℝ a b ∧ d ∈ segment ℝ a b)) (hends' : ¬(a ∈ segment ℝ c d ∧ b ∈ segment ℝ c d)) :
    (c ∈ segment ℝ a b ∨ d ∈ segment ℝ a b) ∧ (a ∈ segment ℝ c d ∨ b ∈ segment ℝ c d) := by
  have hpos := progress_pos h
  simp only [mem_segment_line h hc hd hne, mem_segment_self_line h, hc, hd, side_start, side_finish,
    progress_start, true_and] at *
  grind

theorem eq_of_common_end (hab : p ∈ segment ℝ a b) (hcd : p ∈ segment ℝ c d)
    (hends : ¬(c ∈ segment ℝ a b ∧ d ∈ segment ℝ a b)) (hends' : ¬(a ∈ segment ℝ c d ∧ b ∈ segment ℝ c d))
    (hq : q = c ∨ q = d) (hq' : q = a ∨ q = b) : p = q := by
  have hpos := progress_pos h
  have hside : side a b q = 0 := by rcases hq with rfl | rfl <;> assumption
  simp only [mem_segment_line h hc hd hne, mem_segment_self_line h, hc, hd, side_start, side_finish,
    progress_start, true_and] at *
  apply eq_of_side_progress h (hab.1.trans hside.symm)
  have hq : progress a b q = progress a b c ∨ progress a b q = progress a b d :=
    hq.imp (congrArg _) (congrArg _)
  have hq' : progress a b q = 0 ∨ progress a b q = progress a b b := by
    rcases hq' with rfl | rfl
    · exact .inl progress_start
    · exact .inr rfl
  grind

end Line

end Plane

end FarmRegistry
