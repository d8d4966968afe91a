import FarmRegistry.Farm.Area
import FarmRegistry.Geometry.Overlap
import FarmRegistry.Proofs.Geometry.BoundingBox
import FarmRegistry.Proofs.Geometry.LeastCorner
import FarmRegistry.Proofs.Geometry.Variants

namespace FarmRegistry

namespace Ring

variable {ring : Ring} {cycle others : List Point} {a b m : Point}

theorem dropWhile_append_takeWhile (hrotated : cycle.IsRotated (m :: others)) (hm : m ∉ others) :
    cycle.dropWhile (· ≠ m) ++ cycle.takeWhile (· ≠ m) = m :: others := by
  obtain ⟨n, hn, rfl⟩ := List.isRotated_iff_mod.mp hrotated.symm
  cases n with
  | zero => simp
  | succ n =>
    have hbefore : ∀ q ∈ others.drop n, decide (q ≠ m) = true := by
      intro q hq
      rw [decide_eq_true_eq]
      rintro rfl
      exact hm (List.mem_of_mem_drop hq)
    rw [List.rotate_eq_drop_append_take hn, List.drop_succ_cons, List.take_succ_cons,
      List.dropWhile_append_of_pos hbefore, List.takeWhile_append_of_pos hbefore]
    simp

theorem turnAtLeast_eq (hrotated : cycle.IsRotated (m :: others)) (hm : m ∉ others)
    (hleast : ∀ q ∈ cycle, ¬q.isBefore m) (hb : others.head? = some b) (ha : others.getLast? = some a) :
    turnAtLeast cycle = Point.apparentTurn a m b := by
  have hturned := dropWhile_append_takeWhile hrotated hm
  have hmem : m ∈ cycle := hrotated.mem_iff.mpr List.mem_cons_self
  obtain ⟨p, rest, rfl⟩ := List.exists_cons_of_ne_nil (List.ne_nil_of_mem hmem)
  obtain ⟨hfound, hbefore⟩ := least_spec p rest
  rw [turnAtLeast, Point.eq_of_not_isBefore (hleast _ hfound) (hbefore m hmem)]
  obtain ⟨rest', rfl⟩ := List.head?_eq_some_iff.mp hb
  simp only [hturned]
  rw [List.getLast?_eq_some_getLast (List.cons_ne_nil _ _), Option.some.injEq] at ha
  rw [ha]

theorem TurnsTold.reverse (h : ring.TurnsTold) : TurnsTold ring.reverse := by
  unfold TurnsTold at *
  simpa only [List.map_reverse, List.mem_reverse] using h

namespace IsOutline

variable (h : ring.IsOutline)
include h

theorem mem_round {p : Point} : p ∈ ring.round ↔ p ∈ ring.map Vertex.point := by
  rw [← h.closedUp_round]
  exact mem_closedUp.symm

theorem round_reverse : ring.round.reverse.IsRotated (round ring.reverse) := by
  have hreversed : round ring.reverse = (closedUp ring.round).tail.reverse := by
    rw [round, List.map_reverse, List.dropLast_reverse, h.closedUp_round]
  rw [hreversed]
  apply List.IsRotated.reverse
  cases ring.round with
  | nil => exact .refl _
  | cons p rest => exact List.isRotated_append (l := [p])

theorem exists_leastCorner : ∃ a m b, LeastCorner ring.round a m b := by
  have hcornered := (isOutline_iff.mp h).2.2
  have hedges : 0 < (edges ring.corners).length := by
    rw [length_edges]
    omega
  have hmem := List.getElem_mem hedges
  obtain ⟨hstart, hfinish⟩ := mem_of_mem_edges hmem
  exact Ring.exists_leastCorner (h.mem_round.mpr (mem_collapse.mp hstart)) (h.mem_round.mpr (mem_collapse.mp hfinish))
    (ne_of_mem_edges hmem)

theorem simple_of_isRotated (hfree : Untangled (edges ring.corners)) (htold : ring.TurnsTold) {round' : List Point}
    (hrotated : ring.round.IsRotated round') (i j : ℕ) : ¬Offend (collapse (closedUp round')) i j := by
  have hcornered := (isOutline_iff.mp h).2.2
  have hedges := h.isRotated_edges hrotated
  have hcount := hedges.perm.length_eq
  rw [length_edges, length_edges] at hcount
  have hpoints : ∀ p ∈ closedUp round', p ∈ ring.map Vertex.point := by
    intro p hp
    exact h.mem_round.mp (hrotated.mem_iff.mpr (mem_closedUp.mp hp))
  have hends : (collapse (closedUp round')).head? = (collapse (closedUp round')).getLast? := by
    rw [head?_collapse, getLast?_collapse, closedUp_ends]
  rw [← tangled_iff_offend hends (by omega) (htold.meeting_describes hpoints)]
  exact hfree.isRotated hedges i j

end IsOutline

section Sound

variable (hsound : ring.defect = none) (htold : ring.TurnsTold)
include hsound htold

theorem turn_at_leastCorner (h : LeastCorner ring.round a m b) :
    Point.turn a m b ≠ 0 ∧ (ring.isClockwise ↔ Point.turn a m b < 0) := by
  obtain ⟨houtline, hfree⟩ := defect_eq_none.mp hsound
  have hcornered := (isOutline_iff.mp houtline).2.2
  obtain ⟨hma, hm, hmb⟩ := h.mem
  obtain ⟨n, others, hrotated, hb, ha⟩ := h.around
  have hsimple := houtline.simple_of_isRotated hfree htold hrotated
  have hedges := houtline.isRotated_edges hrotated
  rw [collapse_around hb ha h.after h.before] at hsimple hedges
  rw [← head?_collapse] at hb
  rw [← getLast?_collapse] at ha
  have hcycle : ring.corners.dropLast.IsRotated (m :: collapse others) := by
    have hstarts := hedges.map Segment.start
    rwa [map_start_edges, map_start_edges, List.dropLast_concat] at hstarts
  have hlength : 2 ≤ (collapse others).length := by
    have hcount := hcycle.perm.length_eq
    rw [List.length_dropLast, List.length_cons] at hcount
    omega
  have hturn : Point.turn a m b ≠ 0 := by
    apply turn_ne_zero_of_simple hsimple hlength hb ha
    · exact Point.isBefore_of_ne (h.least a hma) h.before
    · exact Point.isBefore_of_ne (h.least b hmb) h.after
  have hleast : ∀ q ∈ ring.corners.dropLast, ¬q.isBefore m := by
    intro q hq
    have hmem := List.mem_of_mem_dropLast hq
    exact h.least q (houtline.mem_round.mpr (mem_collapse.mp hmem))
  refine ⟨hturn, ?_⟩
  rw [isClockwise, decide_eq_true_eq, turnAtLeast_eq hcycle (not_mem_of_simple hsimple hb h.after) hleast hb ha]
  rw [houtline.mem_round] at hma hm hmb
  exact (htold a hma m hm b hmb).neg_iff

theorem isClockwise_reverse : isClockwise ring.reverse ↔ ¬ring.isClockwise := by
  have houtline := (defect_eq_none.mp hsound).1
  obtain ⟨a, m, b, hcorner⟩ := houtline.exists_leastCorner
  obtain ⟨hne, hclockwise⟩ := turn_at_leastCorner hsound htold hcorner
  have hreverse : LeastCorner (round ring.reverse) b m a := hcorner.reverse.isRotated houtline.round_reverse
  rw [(turn_at_leastCorner (defect_reverse hsound) htold.reverse hreverse).2, hclockwise, Point.turn_reverse]
  omega

end Sound

end Ring

namespace Polygon

variable {p : Polygon}

theorem exterior_eq (p : Polygon) : p.exterior = p.ring ∨ p.exterior = p.ring.reverse := by
  unfold exterior
  split
  · exact .inr rfl
  · exact .inl rfl

theorem exterior_sound (p : Polygon) : p.exterior.defect = none := by
  rcases p.exterior_eq with h | h
  · exact h ▸ p.sound
  · exact h ▸ Ring.defect_reverse p.sound

theorem exterior_not_clockwise (htold : p.ring.TurnsTold) : ¬p.exterior.isClockwise := by
  unfold exterior
  split
  · rename_i h
    exact fun hreverse => (Ring.isClockwise_reverse p.sound htold).mp hreverse h
  · assumption

theorem exterior_turnsTold (htold : p.ring.TurnsTold) : p.exterior.TurnsTold := by
  rcases p.exterior_eq with h | h
  · exact h ▸ htold
  · exact h ▸ htold.reverse

theorem exterior_of_reversed {q : Polygon} (htold : p.ring.TurnsTold) (h : q.ring = p.ring.reverse) :
    q.exterior = p.exterior := by
  have hreverse := Ring.isClockwise_reverse p.sound htold
  unfold exterior
  rw [h]
  by_cases hp : p.ring.isClockwise
  · simp [hp, mt hreverse.mp (not_not.mpr hp)]
  · simp [hp, hreverse.mpr hp]

theorem interiorsOverlap_congr {q : Polygon} (hexterior : q.exterior = p.exterior)
    (hring : ∀ v, v ∈ q.ring ↔ v ∈ p.ring) (r : Polygon) :
    q.interiorsOverlap r = p.interiorsOverlap r ∧ r.interiorsOverlap q = r.interiorsOverlap p := by
  have hbounds := q.boundingBox_bounds
  simp only [hring] at hbounds
  have hboxes := p.boundingBox_bounds.intersects_eq hbounds r.boundingBox
  have hedges : q.edges = p.edges := congrArg (fun ring => Ring.edges (Ring.corners ring)) hexterior
  unfold interiorsOverlap sharesGround
  rw [hboxes.1, hboxes.2, hedges]
  exact ⟨rfl, rfl⟩

/-- Which way round a boundary is written down does not matter: its exterior turns to the left at its least
corner, and that of the reversed boundary is the same. -/
theorem winding_irrelevant (p : Polygon) (htold : p.ring.TurnsTold) :
    (p.exterior = p.ring ∨ p.exterior = p.ring.reverse) ∧
      (∃ a m b, Ring.LeastCorner p.exterior.round a m b) ∧
      (∀ a m b, Ring.LeastCorner p.exterior.round a m b → 0 < Point.turn a m b) ∧
      ∃ q, ofRing p.ring.reverse = .ok q ∧ q.exterior = p.exterior ∧ Area.ofPolygon q = Area.ofPolygon p ∧
        ∀ r, q.interiorsOverlap r = p.interiorsOverlap r ∧ r.interiorsOverlap q = r.interiorsOverlap p := by
  refine ⟨p.exterior_eq, (Ring.defect_eq_none.mp p.exterior_sound).1.exists_leastCorner, ?_, ?_⟩
  · intro a m b hcorner
    -- At its least corner a ring does turn, and an exterior does not turn to the right there.
    obtain ⟨hne, hclockwise⟩ := Ring.turn_at_leastCorner p.exterior_sound (exterior_turnsTold htold) hcorner
    have hleft := mt hclockwise.mpr (exterior_not_clockwise htold)
    omega
  · let q : Polygon := ⟨p.ring.reverse, Ring.defect_reverse p.sound⟩
    have hexterior : q.exterior = p.exterior := exterior_of_reversed htold rfl
    refine ⟨q, ofRing_eq_ok_iff.mpr rfl, hexterior, ?_, ?_⟩
    · unfold Area.ofPolygon geodesicArea
      rw [hexterior]
    · exact interiorsOverlap_congr hexterior fun v => List.mem_reverse

theorem winding_of_clockwise :
    let p : Polygon := ⟨[⟨0, 0⟩, ⟨0, 0⟩, ⟨0, 2⟩, ⟨1, 2⟩, ⟨2, 2⟩, ⟨2, 0⟩, ⟨-0, 0⟩, ⟨0, 0⟩], by decide +kernel⟩
    p.ring.TurnsTold ∧ p.ring.isClockwise ∧
      (∀ a m b, Ring.LeastCorner p.exterior.round a m b → 0 < Point.turn a m b) ∧
      ∃ q, ofRing p.ring.reverse = .ok q ∧ q.exterior = p.exterior ∧ Area.ofPolygon q = Area.ofPolygon p := by
  intro p
  have htold : p.ring.TurnsTold := Ring.turnsTold_of_isCoarse (by decide +kernel)
  obtain ⟨_, _, hleft, q, hq, hexterior, harea, _⟩ := winding_irrelevant p htold
  exact ⟨htold, by decide +kernel, hleft, q, hq, hexterior, harea⟩

end Polygon

end FarmRegistry
