import FarmRegistry.Proofs.Geometry.Validity

namespace FarmRegistry

namespace Ring

open Segment

variable {ring : Ring} {es : List Segment} {s t : Segment} {i j : ℕ} {neighbours : Bool}

def startedAt (ring : Ring) (k : ℕ) : Ring :=
  closedUp (ring.dropLast.rotate k)

def repeated (ring : Ring) (times : ℕ → ℕ) : Ring :=
  (ring.mapIdx fun k v => List.replicate (times k + 1) v).flatten

theorem conflict_comm : conflict neighbours s t = conflict neighbours t s := by
  rw [conflict, meeting_comm, conflict]

theorem conflict_reversed : conflict neighbours s.reversed t.reversed = conflict neighbours s t := by
  rw [conflict, meeting_reversed, meeting_comm, meeting_reversed, meeting_comm, conflict]

theorem areNeighbours_eq {count count' i j i' j' : ℕ}
    (h : j = i + 1 ∨ i = 0 ∧ j + 1 = count ↔ j' = i' + 1 ∨ i' = 0 ∧ j' + 1 = count') :
    areNeighbours count i j = areNeighbours count' i' j' := by
  rw [Bool.eq_iff_iff]
  simpa only [areNeighbours, Bool.or_eq_true, Bool.and_eq_true, decide_eq_true_eq] using h

theorem Untangled.rotate_one (h : Untangled (s :: es)) : Untangled (es ++ [s]) := by
  rintro i j ⟨hij, u, v, hu, hv, hconflict⟩
  have hj := (List.getElem?_eq_some_iff.mp hv).1
  rw [List.length_append, List.length_singleton] at hj hconflict
  rcases Nat.lt_succ_iff_lt_or_eq.mp hj with hlt | rfl
  · rw [List.getElem?_append_left hlt] at hv
    rw [List.getElem?_append_left (hij.trans hlt)] at hu
    have hneighbours : areNeighbours (es.length + 1) (i + 1) (j + 1) = areNeighbours (es.length + 1) i j :=
      areNeighbours_eq (by omega)
    exact h (i + 1) (j + 1) ⟨Nat.succ_lt_succ hij, u, v, hu, hv, hneighbours ▸ hconflict⟩
  · -- The first edge has become the last, and so the pair is met the other way round.
    rw [List.getElem?_concat_length, Option.some.injEq] at hv
    rw [List.getElem?_append_left hij] at hu
    subst hv
    have hneighbours : areNeighbours (es.length + 1) 0 (i + 1) = areNeighbours (es.length + 1) i es.length :=
      areNeighbours_eq (by omega)
    rw [conflict_comm, ← hneighbours] at hconflict
    exact h 0 (i + 1) ⟨Nat.succ_pos i, s, u, rfl, hu, hconflict⟩

theorem Untangled.isRotated {es' : List Segment} (h : Untangled es) (hrotated : es.IsRotated es') : Untangled es' := by
  obtain ⟨n, rfl⟩ := hrotated
  induction n with
  | zero => rwa [List.rotate_zero]
  | succ n ih =>
    rw [← List.rotate_rotate]
    cases hes : es.rotate n with
    | nil =>
      rw [hes] at ih
      exact ih
    | cons s rest =>
      rw [hes] at ih
      rw [List.rotate_cons_succ, List.rotate_zero]
      exact ih.rotate_one

theorem Untangled.reverse (h : Untangled es) : Untangled (es.map reversed).reverse := by
  rintro i j ⟨hij, u, v, hu, hv, hconflict⟩
  have hj := (List.getElem?_eq_some_iff.mp hv).1
  rw [List.length_reverse, List.length_map] at hj hconflict
  rw [List.getElem?_reverse (by rw [List.length_map]; omega), List.length_map, List.getElem?_map,
    Option.map_eq_some_iff] at hu hv
  obtain ⟨u, hu, rfl⟩ := hu
  obtain ⟨v, hv, rfl⟩ := hv
  have hneighbours :
      areNeighbours es.length (es.length - 1 - j) (es.length - 1 - i) = areNeighbours es.length i j :=
    areNeighbours_eq (by omega)
  rw [conflict_reversed, conflict_comm, ← hneighbours] at hconflict
  exact h _ _ ⟨by omega, v, u, hv, hu, hconflict⟩

theorem corners_reverse (ring : Ring) : corners ring.reverse = ring.corners.reverse := by
  rw [corners, List.map_reverse, collapse_reverse, corners]

theorem repeated_cons (v : Vertex) (rest : Ring) (times : ℕ → ℕ) :
    repeated (v :: rest) times = List.replicate (times 0 + 1) v ++ repeated rest fun k => times (k + 1) := by
  rw [repeated, List.mapIdx_cons, List.flatten_cons]
  rfl

theorem corners_repeated (ring : Ring) (times : ℕ → ℕ) : (ring.repeated times).corners = ring.corners := by
  induction ring generalizing times with
  | nil => rfl
  | cons v rest ih =>
    rw [repeated_cons, corners, List.map_append, List.map_replicate, collapse_replicate_append]
    exact collapse_cons_congr (ih _) v.point

theorem mem_repeated {times : ℕ → ℕ} {v : Vertex} : v ∈ ring.repeated times ↔ v ∈ ring := by
  induction ring generalizing times with
  | nil => rfl
  | cons u rest ih =>
    rw [repeated_cons, List.mem_append, ih, List.mem_cons, List.mem_replicate]
    exact or_congr_left (and_iff_right (Nat.succ_ne_zero _))

def round (ring : Ring) : List Point :=
  (ring.map Vertex.point).dropLast

theorem IsOutline.closedUp_round (h : ring.IsOutline) : closedUp ring.round = ring.map Vertex.point := by
  apply closedUp_dropLast h.closed
  rw [List.length_map]
  exact le_trans (by decide) h.enough

theorem IsOutline.isRotated_edges {round' : List Point} (h : ring.IsOutline) (hrotated : ring.round.IsRotated round') :
    (edges ring.corners).IsRotated (edges (collapse (closedUp round'))) := by
  rw [corners, ← h.closedUp_round]
  exact Ring.isRotated_edges hrotated

theorem points_startedAt (ring : Ring) (k : ℕ) :
    (ring.startedAt k).map Vertex.point = closedUp (ring.round.rotate k) := by
  rw [startedAt, map_closedUp, List.map_rotate, List.map_dropLast, round]

theorem mem_of_mem_startedAt {v : Vertex} {k : ℕ} (h : v ∈ ring.startedAt k) : v ∈ ring :=
  List.mem_of_mem_dropLast (List.mem_rotate.mp (mem_closedUp.mp h))

theorem defect_startedAt (h : ring.defect = none) (k : ℕ) : (ring.startedAt k).defect = none := by
  obtain ⟨houtline, hfree⟩ := defect_eq_none.mp h
  obtain ⟨hin, hclosed, hcornered⟩ := isOutline_iff.mp houtline
  have hedges : (edges ring.corners).IsRotated (edges (ring.startedAt k).corners) := by
    have hcorners : (ring.startedAt k).corners = collapse (closedUp (ring.round.rotate k)) :=
      congrArg collapse (points_startedAt ring k)
    rw [hcorners]
    exact houtline.isRotated_edges (List.IsRotated.forall _ k).symm
  have hcount := hedges.perm.length_eq
  rw [length_edges, length_edges] at hcount
  refine defect_eq_none.mpr ⟨isOutline_iff.mpr ⟨?_, ?_, by omega⟩, hfree.isRotated hedges⟩
  · intro v hv
    exact hin v (mem_of_mem_startedAt hv)
  · rw [EndsWhereBegun, points_startedAt]
    exact closedUp_ends _

theorem defect_reverse (h : ring.defect = none) : defect ring.reverse = none := by
  obtain ⟨houtline, hfree⟩ := defect_eq_none.mp h
  obtain ⟨hin, hclosed, hcornered⟩ := isOutline_iff.mp houtline
  refine defect_eq_none.mpr ⟨isOutline_iff.mpr ⟨?_, ?_, ?_⟩, ?_⟩
  · intro v hv
    exact hin v (List.mem_reverse.mp hv)
  · rw [EndsWhereBegun, List.map_reverse, List.head?_reverse, List.getLast?_reverse]
    exact hclosed.symm
  · rwa [corners_reverse, List.length_reverse]
  · rw [corners_reverse, edges_reverse]
    exact hfree.reverse

theorem defect_repeated (times : ℕ → ℕ) : (ring.repeated times).defect = none ↔ ring.defect = none := by
  rw [defect_eq_none, defect_eq_none, isOutline_iff, isOutline_iff, endsWhereBegun_iff, endsWhereBegun_iff,
    corners_repeated]
  simp only [mem_repeated]

theorem isOk_ofRing : (Polygon.ofRing ring).isOk ↔ ring.defect = none := by
  cases h : Polygon.ofRing ring with
  | ok p =>
    rw [← Polygon.ofRing_eq_ok_iff.mp h]
    exact ⟨fun _ => p.sound, fun _ => rfl⟩
  | error e =>
    rw [Polygon.ofRing_eq_error_iff.mp h]
    constructor <;> intro h <;> cases h

/-- A boundary is accepted or not however it is written down: either way round, from any of its vertices on,
and with its vertices repeated. -/
theorem acceptance_of_variants (ring : Ring) :
    (Polygon.ofRing ring.reverse).isOk = (Polygon.ofRing ring).isOk ∧
      (∀ times, (Polygon.ofRing (ring.repeated times)).isOk = (Polygon.ofRing ring).isOk) ∧
      ((Polygon.ofRing ring).isOk → ∀ k, (Polygon.ofRing (ring.startedAt k)).isOk) := by
  refine ⟨?_, ?_, ?_⟩
  · rw [Bool.eq_iff_iff, isOk_ofRing, isOk_ofRing]
    refine ⟨?_, defect_reverse⟩
    intro h
    rw [← List.reverse_reverse ring]
    exact defect_reverse h
  · intro times
    rw [Bool.eq_iff_iff, isOk_ofRing, isOk_ofRing, defect_repeated]
  · intro h k
    rw [isOk_ofRing] at h ⊢
    exact defect_startedAt h k

theorem acceptance_of_clockwise :
    let ring : Ring := [⟨0, 0⟩, ⟨0, 2⟩, ⟨0, 2⟩, ⟨1, 2⟩, ⟨2, 2⟩, ⟨2, 0⟩, ⟨-0, 0⟩, ⟨0, 0⟩]
    (Polygon.ofRing ring).isOk ∧ (Polygon.ofRing (ring.startedAt 3)).isOk := by
  intro ring
  have hring : (Polygon.ofRing ring).isOk := by decide +kernel
  exact ⟨hring, (acceptance_of_variants ring).2.2 hring 3⟩

end Ring

end FarmRegistry
