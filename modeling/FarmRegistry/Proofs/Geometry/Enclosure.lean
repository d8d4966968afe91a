import FarmRegistry.Proofs.Decimal.Comparison
import FarmRegistry.Proofs.Farm.Overlaps
import FarmRegistry.Proofs.Geometry.BoundingBox
import FarmRegistry.Proofs.Geometry.Validity
import Mathlib.Analysis.Convex.Basic

namespace FarmRegistry

namespace Decimal

variable {x y z w : Float}

theorem not_isNaN_of_isFinite (h : isFinite x) : ¬isNaN x := by
  simp only [isFinite, Binary.isFinite, bne_iff_ne] at h
  simp [isNaN, Binary.isNaN, h]

theorem units_lt_infinity (h : isFinite x) : units x < units (1 / 0) ∧ units (-1 / 0) < units x := by
  simp only [isFinite, Binary.isFinite, bne_iff_ne] at h
  have hfield := Binary.ofFloat_exponentField_lt x
  have hmagnitude {y : Float} (hy : (Binary.ofFloat y).exponentField = 2047) :
      (Binary.ofFloat x).magnitude < (Binary.ofFloat y).magnitude :=
    Binary.magnitude_lt_of_exponentField_lt (Binary.ofFloat_fraction_lt x) (by omega)
  have hlast := hmagnitude (y := 1 / 0) (by decide +kernel)
  have hfirst := hmagnitude (y := -1 / 0) (by decide +kernel)
  have hplus : (Binary.ofFloat (1 / 0)).sign = .positive := if_neg (by decide +kernel)
  have hminus : (Binary.ofFloat (-1 / 0)).sign = .negative := if_pos (by decide +kernel)
  unfold units
  rw [Binary.units_eq_signed, Binary.units_eq_signed, Binary.units_eq_signed, hplus, hminus]
  generalize (Binary.ofFloat (1 / 0)).magnitude = last at hlast
  generalize (Binary.ofFloat (-1 / 0)).magnitude = first at hfirst
  cases (Binary.ofFloat x).sign <;> simp only [Binary.signed] <;> omega

end Decimal

namespace BoundingBox

structure Finite (b : BoundingBox) : Prop where
  minLng : Decimal.isFinite b.minLng
  minLat : Decimal.isFinite b.minLat
  maxLng : Decimal.isFinite b.maxLng
  maxLat : Decimal.isFinite b.maxLat

theorem Finite.extend {b : BoundingBox} (h : b.Finite) {v : Vertex} (hlng : Decimal.isFinite v.lng)
    (hlat : Decimal.isFinite v.lat) : (b.extend v).Finite := by
  have hlesser : ∀ x y : Float, Decimal.isFinite x → Decimal.isFinite y → Decimal.isFinite (lesser x y) := by
    intro x y hx hy
    unfold lesser
    split
    · exact hy
    · exact hx
  have hgreater : ∀ x y : Float, Decimal.isFinite x → Decimal.isFinite y → Decimal.isFinite (greater x y) := by
    intro x y hx hy
    unfold greater
    split
    · exact hy
    · exact hx
  exact ⟨hlesser _ _ h.minLng hlng, hlesser _ _ h.minLat hlat, hgreater _ _ h.maxLng hlng, hgreater _ _ h.maxLat hlat⟩

theorem Finite.foldl {b : BoundingBox} (h : b.Finite) {vertices : List Vertex}
    (hin : ∀ v ∈ vertices, v.InRange) : (vertices.foldl BoundingBox.extend b).Finite := by
  induction vertices generalizing b with
  | nil => exact h
  | cons v rest ih =>
    obtain ⟨hv, hrest⟩ := List.forall_mem_cons.mp hin
    exact ih (h.extend hv.1.1 hv.2.1) hrest

end BoundingBox

theorem Polygon.boundingBox_finite (p : Polygon) : p.boundingBox.Finite := by
  have hin : ∀ v ∈ p.ring, v.InRange := (Ring.defect_eq_none.mp p.sound).1.inRange
  have hhead := hin _ (List.head_mem p.ring_ne_nil)
  have hfirst : (BoundingBox.ofVertex (p.ring.head p.ring_ne_nil)).Finite :=
    ⟨hhead.1.1, hhead.2.1, hhead.1.1, hhead.2.1⟩
  exact hfirst.foldl fun v hv => hin v (List.mem_of_mem_tail hv)

namespace BoundingBox

open Decimal

variable {a b c : BoundingBox} {s : Set Vertex} {v : Vertex}

structure Holds (b : BoundingBox) (v : Vertex) : Prop where
  west : b.minLng ≤ v.lng
  east : v.lng ≤ b.maxLng
  south : b.minLat ≤ v.lat
  north : v.lat ≤ b.maxLat

structure Proper (b : BoundingBox) : Prop where
  lng : b.minLng ≤ b.maxLng
  lat : b.minLat ≤ b.maxLat

def region (b : BoundingBox) : Set (ℝ × ℝ) :=
  Set.Icc (Vertex.point ⟨b.minLng, b.minLat⟩).position (Vertex.point ⟨b.maxLng, b.maxLat⟩).position

theorem convex_region (b : BoundingBox) : Convex ℝ b.region := by
  rw [region, Set.Icc_prod_eq]
  exact (convex_Icc _ _).prod (convex_Icc _ _)

def inverted : BoundingBox :=
  ⟨1 / 0, 1 / 0, -1 / 0, -1 / 0⟩

theorem extend_inverted (hlng : isFinite v.lng) (hlat : isFinite v.lat) : inverted.extend v = ofVertex v := by
  obtain ⟨heast, hwest⟩ := units_lt_infinity hlng
  obtain ⟨hnorth, hsouth⟩ := units_lt_infinity hlat
  unfold extend inverted ofVertex lesser greater
  rw [if_pos heast, if_pos hnorth, if_pos hwest, if_pos hsouth]

theorem Holds.proper (h : b.Holds v) : b.Proper :=
  ⟨le_trans h.west h.east, le_trans h.south h.north⟩

theorem Bounds.holds (h : b.Bounds s) (hb : b.Finite) (hv : v ∈ s) (hlng : isFinite v.lng) (hlat : isFinite v.lat) :
    b.Holds v := by
  have hlng := not_isNaN_of_isFinite hlng
  have hlat := not_isNaN_of_isFinite hlat
  constructor
  all_goals rw [le_iff]
  · exact ⟨⟨not_isNaN_of_isFinite hb.minLng, hlng⟩, h.minLng.2 ⟨v, hv, rfl⟩⟩
  · exact ⟨⟨hlng, not_isNaN_of_isFinite hb.maxLng⟩, h.maxLng.2 ⟨v, hv, rfl⟩⟩
  · exact ⟨⟨not_isNaN_of_isFinite hb.minLat, hlat⟩, h.minLat.2 ⟨v, hv, rfl⟩⟩
  · exact ⟨⟨hlat, not_isNaN_of_isFinite hb.maxLat⟩, h.maxLat.2 ⟨v, hv, rfl⟩⟩

theorem Bounds.least (h : b.Bounds s) (hc : ∀ u ∈ s, c.Holds u) (hv : b.Holds v) : c.Holds v := by
  obtain ⟨west, hwest, hminLng⟩ := h.minLng.1
  obtain ⟨south, hsouth, hminLat⟩ := h.minLat.1
  obtain ⟨east, heast, hmaxLng⟩ := h.maxLng.1
  obtain ⟨north, hnorth, hmaxLat⟩ := h.maxLat.1
  have hfirst := (hc west hwest).west
  have hlast := (hc east heast).east
  have hlow := (hc south hsouth).south
  have hhigh := (hc north hnorth).north
  obtain ⟨hw, he, hs, hn⟩ := hv
  simp only [le_iff] at *
  constructor
  all_goals rw [le_iff]
  · exact ⟨⟨hfirst.1.1, hw.1.2⟩, by omega⟩
  · exact ⟨⟨he.1.1, hlast.1.2⟩, by omega⟩
  · exact ⟨⟨hlow.1.1, hs.1.2⟩, by omega⟩
  · exact ⟨⟨hn.1.1, hhigh.1.2⟩, by omega⟩

theorem exists_between_iff {x y z w : Float} (hxy : x ≤ y) (hzw : z ≤ w) :
    x ≤ w ∧ z ≤ y ↔ ∃ m, (x ≤ m ∧ m ≤ y) ∧ z ≤ m ∧ m ≤ w := by
  constructor
  · rintro ⟨hxw, hzy⟩
    have hboth := units_greater x z
    have heither : greater x z = x ∨ greater x z = z := by
      unfold greater
      split <;> simp
    refine ⟨greater x z, ?_⟩
    simp only [le_iff] at *
    rcases heither with h | h
    · rw [h] at hboth ⊢
      exact ⟨⟨⟨⟨hxy.1.1, hxy.1.1⟩, le_rfl⟩, hxy⟩, ⟨⟨hzw.1.1, hxy.1.1⟩, by omega⟩, hxw⟩
    · rw [h] at hboth ⊢
      exact ⟨⟨⟨⟨hxy.1.1, hzw.1.1⟩, by omega⟩, hzy⟩, ⟨⟨hzw.1.1, hzw.1.1⟩, le_rfl⟩, hzw⟩
  · rintro ⟨m, ⟨hxm, hmy⟩, hzm, hmw⟩
    exact ⟨le_trans hxm hmw, le_trans hzm hmy⟩

theorem intersects_iff_le (ha : a.Proper) (hb : b.Proper) :
    a.intersects b ↔ (a.minLng ≤ b.maxLng ∧ b.minLng ≤ a.maxLng) ∧ a.minLat ≤ b.maxLat ∧ b.minLat ≤ a.maxLat := by
  obtain ⟨⟨halng, halng'⟩, halat, halat'⟩ := And.intro (le_iff.mp ha.lng).1 (le_iff.mp ha.lat).1
  obtain ⟨⟨hblng, hblng'⟩, hblat, hblat'⟩ := And.intro (le_iff.mp hb.lng).1 (le_iff.mp hb.lat).1
  simp only [intersects, le_iff, *, Bool.and_eq_true, decide_eq_true_eq]
  simp [and_assoc]

theorem intersects_iff_holds (ha : a.Proper) (hb : b.Proper) : a.intersects b ↔ ∃ v, a.Holds v ∧ b.Holds v := by
  rw [intersects_iff_le ha hb, exists_between_iff ha.lng hb.lng, exists_between_iff ha.lat hb.lat]
  constructor
  · rintro ⟨⟨x, ⟨hwest, heast⟩, hwest', heast'⟩, y, ⟨hsouth, hnorth⟩, hsouth', hnorth'⟩
    exact ⟨⟨x, y⟩, ⟨hwest, heast, hsouth, hnorth⟩, hwest', heast', hsouth', hnorth'⟩
  · rintro ⟨v, hav, hbv⟩
    exact ⟨⟨v.lng, ⟨hav.west, hav.east⟩, hbv.west, hbv.east⟩, v.lat, ⟨hav.south, hav.north⟩, hbv.south, hbv.north⟩

theorem intersects_of_region (h : (a.region ∩ b.region).Nonempty) : a.intersects b := by
  obtain ⟨r, ⟨halow, hahigh⟩, hblow, hbhigh⟩ := h
  have hwest := halow.1.trans hbhigh.1
  have heast := hblow.1.trans hahigh.1
  have hsouth := halow.2.trans hbhigh.2
  have hnorth := hblow.2.trans hahigh.2
  simp only [Point.position, Vertex.point, Int.cast_le] at hwest heast hsouth hnorth
  simp [intersects, hwest, heast, hsouth, hnorth]

theorem Holds.mem_region (h : b.Holds v) : v.point.position ∈ b.region := by
  simp only [region, Set.mem_Icc, Prod.le_def, Point.position, Vertex.point, Int.cast_le]
  exact ⟨⟨(le_iff.mp h.west).2, (le_iff.mp h.south).2⟩, (le_iff.mp h.east).2, (le_iff.mp h.north).2⟩

theorem intersects_iff_region (ha : a.Proper) (hb : b.Proper) : a.intersects b ↔ (a.region ∩ b.region).Nonempty := by
  refine ⟨?_, intersects_of_region⟩
  intro h
  obtain ⟨v, hav, hbv⟩ := (intersects_iff_holds ha hb).mp h
  exact ⟨v.point.position, hav.mem_region, hbv.mem_region⟩

end BoundingBox

namespace Polygon

variable {p q : Polygon}

def outline (p : Polygon) : Set (ℝ × ℝ) :=
  {r | (∃ v ∈ p.ring, r = v.point.position) ∨ ∃ s ∈ Ring.edges p.points, r ∈ s.carrier}

theorem boundingBox_holds (p : Polygon) {v : Vertex} (hv : v ∈ p.ring) : p.boundingBox.Holds v := by
  have hin := (Ring.defect_eq_none.mp p.sound).1.inRange v hv
  exact p.boundingBox_bounds.holds p.boundingBox_finite hv hin.1.1 hin.2.1

theorem foldl_inverted (p : Polygon) : p.ring.foldl BoundingBox.extend .inverted = p.boundingBox := by
  have hin := (Ring.defect_eq_none.mp p.sound).1.inRange _ (List.head_mem p.ring_ne_nil)
  rw [boundingBox, ← BoundingBox.extend_inverted hin.1.1 hin.2.1, ← List.foldl_cons, List.cons_head_tail]

theorem outline_subset_region (p : Polygon) : p.outline ⊆ p.boundingBox.region := by
  have hvertex {v : Vertex} (hv : v ∈ p.ring) : v.point.position ∈ p.boundingBox.region :=
    (p.boundingBox_holds hv).mem_region
  rintro r (⟨v, hv, rfl⟩ | ⟨s, hs, hr⟩)
  · exact hvertex hv
  · obtain ⟨hstart, hfinish⟩ := Ring.mem_of_mem_edges hs
    obtain ⟨u, hu, hstart⟩ := List.mem_map.mp hstart
    obtain ⟨v, hv, hfinish⟩ := List.mem_map.mp hfinish
    rw [Segment.carrier, ← hstart, ← hfinish] at hr
    exact p.boundingBox.convex_region.segment_subset (hvertex hu) (hvertex hv) hr

theorem outlines_apart (h : ¬p.boundingBox.intersects q.boundingBox) : p.outline ∩ q.outline = ∅ := by
  rw [← Set.not_nonempty_iff_eq_empty]
  rintro ⟨r, hp, hq⟩
  exact h (BoundingBox.intersects_of_region ⟨r, p.outline_subset_region hp, q.outline_subset_region hq⟩)

/-- The box of a polygon is the least that holds all of its vertices. Two boxes intersect if there is a place in both,
be it on their borders; where those of two polygons do not, their outlines share nothing. -/
theorem boundingBox_least_and_apart :
    (∀ p : Polygon, p.ring.foldl BoundingBox.extend .inverted = p.boundingBox ∧
        (p.boundingBox.Finite ∧ p.boundingBox.Proper) ∧ (∀ v ∈ p.ring, p.boundingBox.Holds v) ∧
        p.boundingBox.Bounds {v | v ∈ p.ring} ∧
        ∀ b : BoundingBox, (∀ v ∈ p.ring, b.Holds v) → ∀ v, p.boundingBox.Holds v → b.Holds v) ∧
      (∀ a b : BoundingBox, a.Proper → b.Proper →
        (a.intersects b ↔ ∃ v, a.Holds v ∧ b.Holds v) ∧ (a.intersects b ↔ (a.region ∩ b.region).Nonempty) ∧
          a.intersects b = b.intersects a ∧ a.intersects a) ∧
      ∀ p q : Polygon, ¬p.boundingBox.intersects q.boundingBox → p.outline ∩ q.outline = ∅ := by
  refine ⟨?_, ?_, fun p q => outlines_apart⟩
  · intro p
    have hbounds := p.boundingBox_bounds
    have hheld {v : Vertex} (hv : v ∈ p.ring) : p.boundingBox.Holds v := p.boundingBox_holds hv
    refine ⟨p.foldl_inverted, ⟨p.boundingBox_finite, ?_⟩, fun v => hheld, hbounds, ?_⟩
    · exact (hheld (List.head_mem p.ring_ne_nil)).proper
    · exact fun b hb v => hbounds.least hb
  · intro a b ha hb
    refine ⟨BoundingBox.intersects_iff_holds ha hb, BoundingBox.intersects_iff_region ha hb, ?_, ?_⟩
    · exact BoundingBox.intersects_comm a b
    · exact (BoundingBox.intersects_iff_le ha ha).mpr ⟨⟨ha.lng, ha.lng⟩, ha.lat, ha.lat⟩

theorem squares_side_by_side :
    let west : Polygon := ⟨[⟨-0, 0⟩, ⟨1, 0⟩, ⟨1, 1⟩, ⟨0, 1⟩, ⟨0, 0⟩], by decide +kernel⟩
    let east : Polygon := ⟨[⟨1, 1⟩, ⟨1, 0⟩, ⟨2, 0⟩, ⟨2, 1⟩, ⟨1, 1⟩], by decide +kernel⟩
    let far : Polygon := ⟨[⟨5, 5⟩, ⟨6, 5⟩, ⟨6, 6⟩, ⟨5, 6⟩, ⟨5, 5⟩], by decide +kernel⟩
    (west.boundingBox.Holds ⟨1, 0⟩ ∧ east.boundingBox.Holds ⟨1, 0⟩) ∧
      west.boundingBox.intersects east.boundingBox ∧ west.outline ∩ far.outline = ∅ := by
  intro west east far
  obtain ⟨hleast, hmeet, hapart⟩ := boundingBox_least_and_apart
  obtain ⟨_, ⟨_, hwest⟩, hheld, _⟩ := hleast west
  obtain ⟨_, ⟨_, heast⟩, hheld', _⟩ := hleast east
  have hcorner := hheld ⟨1, 0⟩ (by simp [west])
  have hcorner' := hheld' ⟨1, 0⟩ (by simp [east])
  have hmeeting := (hmeet _ _ hwest heast).1.mpr ⟨_, hcorner, hcorner'⟩
  exact ⟨⟨hcorner, hcorner'⟩, hmeeting, hapart west far (by decide +kernel)⟩

end Polygon

end FarmRegistry
