import FarmRegistry.Geometry.BoundingBox
import Mathlib.Order.Bounds.Basic

namespace FarmRegistry

namespace BoundingBox

variable {b b' : BoundingBox} {s : Set Vertex}

theorem units_lesser (x y : Float) : Decimal.units (lesser x y) = min (Decimal.units y) (Decimal.units x) := by
  unfold lesser
  split
  · rename_i h
    exact (min_eq_left h.le).symm
  · rename_i h
    exact (min_eq_right (Int.not_lt.mp h)).symm

theorem units_greater (x y : Float) : Decimal.units (greater x y) = max (Decimal.units y) (Decimal.units x) := by
  unfold greater
  split
  · rename_i h
    exact (max_eq_left h.le).symm
  · rename_i h
    exact (max_eq_right (Int.not_lt.mp h)).symm

structure Bounds (b : BoundingBox) (s : Set Vertex) : Prop where
  minLng : IsLeast ((fun v => Decimal.units v.lng) '' s) (Decimal.units b.minLng)
  minLat : IsLeast ((fun v => Decimal.units v.lat) '' s) (Decimal.units b.minLat)
  maxLng : IsGreatest ((fun v => Decimal.units v.lng) '' s) (Decimal.units b.maxLng)
  maxLat : IsGreatest ((fun v => Decimal.units v.lat) '' s) (Decimal.units b.maxLat)

theorem bounds_ofVertex (v : Vertex) : (ofVertex v).Bounds {v} := by
  constructor
  all_goals rw [Set.image_singleton]
  · exact isLeast_singleton
  · exact isLeast_singleton
  · exact isGreatest_singleton
  · exact isGreatest_singleton

theorem Bounds.extend (h : b.Bounds s) (v : Vertex) : (b.extend v).Bounds (insert v s) := by
  constructor
  all_goals rw [Set.image_insert_eq]
  · exact units_lesser b.minLng v.lng ▸ h.minLng.insert _
  · exact units_lesser b.minLat v.lat ▸ h.minLat.insert _
  · exact units_greater b.maxLng v.lng ▸ h.maxLng.insert _
  · exact units_greater b.maxLat v.lat ▸ h.maxLat.insert _

theorem Bounds.foldl (h : b.Bounds s) (vertices : List Vertex) :
    (vertices.foldl BoundingBox.extend b).Bounds (s ∪ {v | v ∈ vertices}) := by
  induction vertices generalizing b s with
  | nil => simpa using h
  | cons v rest ih =>
    have hset : s ∪ {u | u ∈ v :: rest} = insert v s ∪ {u | u ∈ rest} := by
      ext u
      simp only [Set.mem_union, Set.mem_insert_iff, Set.mem_ofPred_eq, List.mem_cons]
      tauto
    rw [hset]
    exact ih (h.extend v)

theorem Bounds.intersects_eq (h : b.Bounds s) (h' : b'.Bounds s) (a : BoundingBox) :
    b'.intersects a = b.intersects a ∧ a.intersects b' = a.intersects b := by
  unfold intersects
  rw [h'.minLng.unique h.minLng, h'.minLat.unique h.minLat, h'.maxLng.unique h.maxLng, h'.maxLat.unique h.maxLat]
  exact ⟨rfl, rfl⟩

end BoundingBox

theorem Polygon.boundingBox_bounds (p : Polygon) : p.boundingBox.Bounds {v | v ∈ p.ring} := by
  have hset : {v | v ∈ p.ring.head p.ring_ne_nil :: p.ring.tail} =
      {p.ring.head p.ring_ne_nil} ∪ {v | v ∈ p.ring.tail} := by
    ext v
    exact List.mem_cons
  rw [List.cons_head_tail] at hset
  rw [hset]
  exact (BoundingBox.bounds_ofVertex _).foldl _

end FarmRegistry
