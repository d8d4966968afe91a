import FarmRegistry.Farm.Overlaps

namespace FarmRegistry

theorem BoundingBox.intersects_comm (a b : BoundingBox) : a.intersects b = b.intersects a := by
  rw [Bool.eq_iff_iff]
  simp only [intersects, Bool.and_eq_true, decide_eq_true_eq]
  constructor
  · rintro ⟨⟨⟨hlng, hlng'⟩, hlat⟩, hlat'⟩
    exact ⟨⟨⟨hlng', hlng⟩, hlat'⟩, hlat⟩
  · rintro ⟨⟨⟨hlng, hlng'⟩, hlat⟩, hlat'⟩
    exact ⟨⟨⟨hlng', hlng⟩, hlat'⟩, hlat⟩

theorem Polygon.interiorsOverlap_comm (p q : Polygon) : p.interiorsOverlap q = q.interiorsOverlap p := by
  rw [interiorsOverlap, interiorsOverlap, BoundingBox.intersects_comm, sharesGround_comm]

namespace Farm

theorem sharesGround_eq_interiorsOverlap (f : Farm) (p : Polygon) :
    f.sharesGround p = f.polygon.interiorsOverlap p := by
  rw [sharesGround, Polygon.interiorsOverlap, Polygon.sharesGround_comm, boundingBox]

theorem mem_overlapping {p : Polygon} {exclude : Option FarmId} {farms : List Farm} {i : FarmId} :
    i ∈ overlapping p exclude farms ↔
      ∃ f ∈ farms, f.id = i ∧ f.isActive ∧ some f.id ≠ exclude ∧ f.polygon.interiorsOverlap p := by
  rw [overlapping, mem_sortDistinct, List.mem_map]
  simp only [List.mem_filter, Bool.and_eq_true, bne_iff_ne, sharesGround_eq_interiorsOverlap]
  constructor
  · rintro ⟨f, ⟨hf, ⟨hactive, hother⟩, hground⟩, hi⟩
    exact ⟨f, hf, hi, hactive, hother, hground⟩
  · rintro ⟨f, hf, hi, hactive, hother, hground⟩
    exact ⟨f, ⟨hf, ⟨hactive, hother⟩, hground⟩, hi⟩

end Farm

end FarmRegistry
