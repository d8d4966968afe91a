import FarmRegistry.Proofs.Geometry.Validity

namespace FarmRegistry

theorem getElem?_filter {α : Type} {keep : α → Bool} {l : List α} {k : ℕ} {a : α} (h : (l.filter keep)[k]? = some a) :
    ∃ n, l[n]? = some a ∧ (l.take n).countP keep = k := by
  induction l generalizing k with
  | nil => cases h
  | cons b rest ih =>
    by_cases hb : keep b
    · rw [List.filter_cons_of_pos hb] at h
      cases k with
      | zero => exact ⟨0, h, rfl⟩
      | succ k =>
        obtain ⟨n, hn, hcount⟩ := ih h
        refine ⟨n + 1, hn, ?_⟩
        rw [List.take_succ_cons, List.countP_cons_of_pos hb, hcount]
    · rw [List.filter_cons_of_neg hb] at h
      obtain ⟨n, hn, hcount⟩ := ih h
      refine ⟨n + 1, hn, ?_⟩
      rw [List.take_succ_cons, List.countP_cons_of_neg hb, hcount]

theorem take_collapse {α : Type} [DecidableEq α] {l : List α} {n : ℕ} (h : (l.take n).IsChain (· ≠ ·)) :
    (collapse l).take n = l.take n := by
  induction l generalizing n with
  | nil => rfl
  | cons a rest ih =>
    rcases n with _ | _ | n
    · rfl
    · obtain ⟨rest', hrest⟩ := List.head?_eq_some_iff.mp (head?_collapse (a :: rest))
      rw [hrest]
      rfl
    · cases rest with
      | nil => rfl
      | cons b rest =>
        rw [List.take_succ_cons, List.take_succ_cons, List.isChain_cons_cons, ← List.take_succ_cons] at h
        rw [collapse, if_neg h.1, List.take_succ_cons, ih h.2, ← List.take_succ_cons]

namespace Ring

open Segment

variable {ring : Ring} {path : List Point} {i j k : ℕ}

def rank (path : List Point) (k : ℕ) : ℕ :=
  ((edges path).take k).countP fun s => s.start ≠ s.finish

theorem rank_mono : Monotone (rank path) := by
  intro k l hkl
  exact ((List.take_prefix_take_left hkl).sublist).countP_le

theorem exists_rank {s : Segment} (h : (edges (collapse path))[k]? = some s) :
    ∃ n, rank path n = k ∧ (edges path)[n]? = some s := by
  rw [edges_collapse] at h
  obtain ⟨n, hn, hrank⟩ := getElem?_filter h
  exact ⟨n, hrank, hn⟩

theorem lt_length_of_offend (h : Offend path i j) : j + 1 < path.length := by
  obtain ⟨p, ⟨_, _, b, _, hb, _⟩, _⟩ := Set.not_subset.mp h.2
  exact (List.getElem?_eq_some_iff.mp hb).1

theorem offend_congr {path' : List Point} (htake : path.take (j + 2) = path'.take (j + 2))
    (hlength : path.length ≤ path'.length) (h : Offend path i j) : Offend path' i j := by
  have hend := lt_length_of_offend h
  have hget (k : ℕ) (hk : k ≤ j + 1) : path[k]? = path'[k]? := by
    rw [← List.getElem?_take_of_lt (Nat.lt_succ_of_le hk), htake, List.getElem?_take_of_lt (Nat.lt_succ_of_le hk)]
  have hedge (k : ℕ) (hk : k ≤ j) : edge path k = edge path' k := by
    unfold edge
    rw [hget k (by omega), hget (k + 1) (by omega)]
  have hcorner (k : ℕ) (hk : k ≤ j) : corner path k = corner path' k := by
    unfold corner
    rw [hget k (by omega)]
  obtain ⟨hij, hshared⟩ := h
  refine ⟨hij, ?_⟩
  rw [← hedge i hij.le, ← hedge j le_rfl]
  refine mt (fun hsubset => hsubset.trans ?_) hshared
  rintro p (⟨hnext, hp⟩ | ⟨⟨hi, hlast⟩, hp⟩)
  · rw [← hcorner j le_rfl] at hp
    exact .inl ⟨hnext, hp⟩
  · rw [← hcorner 0 j.zero_le] at hp
    exact .inr ⟨⟨hi, by omega⟩, hp⟩

theorem ofRing_of_conflict (h : firstOffGlobe 0 ring = none ∧ ring.isClosed ∧ 4 ≤ ring.corners.length ∧
    firstConflict (edges ring.corners).length 0 (edges ring.corners) = some (i, j)) :
    Polygon.ofRing ring = .error (.selfIntersecting i j) := by
  obtain ⟨hin, hclosed, hcornered, hfirst⟩ := h
  have houtline := isOutline_iff.mpr ⟨firstOffGlobe_eq_none_iff.mp hin, isClosed_iff.mp hclosed, hcornered⟩
  rw [Polygon.ofRing_eq_error_iff, houtline.defect_eq, hfirst, Option.map_some]

/-- A ring refused for a crossing does cross itself. The edges are named by their numbers among those that have
a length, and so by their numbers in the ring as long as no vertex is repeated before them. -/
theorem crossing_numbered (ring : Ring) (i j : ℕ)
    (hbacked : (edges ring.corners).Pairwise fun s t => (s.meeting t).IsBacked (s.carrier ∩ t.carrier))
    (h : Polygon.ofRing ring = .error (.selfIntersecting i j)) :
    i < j ∧ j + 1 < ring.length ∧ Offend ring.distinct i j ∧
      (∃ i' j', i' < j' ∧ rank (ring.map Vertex.point) i' = i ∧ rank (ring.map Vertex.point) j' = j ∧
        edge (ring.map Vertex.point) i' = edge ring.distinct i ∧
        edge (ring.map Vertex.point) j' = edge ring.distinct j) ∧
      (((ring.map Vertex.point).take (j + 2)).IsChain (· ≠ ·) → Offend (ring.map Vertex.point) i j) := by
  obtain ⟨houtline, htangled, _⟩ := defect_eq_selfIntersecting.mp (Polygon.ofRing_eq_error_iff.mp h)
  have hcornered := (isOutline_iff.mp houtline).2.2
  have hoffend := offend_of_tangled hcornered hbacked htangled
  have hlength := length_corners_le ring
  have hend := lt_length_of_offend hoffend
  obtain ⟨hij, s, t, hs, ht, _⟩ := htangled
  -- Collapsing keeps the edges that have a length, in their order.
  obtain ⟨i', hi', hs'⟩ := exists_rank hs
  obtain ⟨j', hj', ht'⟩ := exists_rank ht
  have hlt : i' < j' := rank_mono.reflect_lt (hi'.trans_lt (hij.trans_eq hj'.symm))
  rw [← corners_eq]
  refine ⟨hij, by omega, hoffend, ⟨i', j', hlt, hi', hj', ?_, ?_⟩, ?_⟩
  · rw [edge_eq hs, edge_eq hs']
  · rw [edge_eq ht, edge_eq ht']
  · intro hchain
    refine offend_congr (take_collapse hchain) ?_ hoffend
    rwa [List.length_map]

theorem crossing_of_bowtie :
    let ring : Ring := [⟨0, 0⟩, ⟨2, 2⟩, ⟨2, 0⟩, ⟨0, 2⟩, ⟨0, 2⟩, ⟨0, 0⟩]
    Polygon.ofRing ring = .error (.selfIntersecting 0 2) ∧ Offend (ring.map Vertex.point) 0 2 := by
  intro ring
  have hdefect : Polygon.ofRing ring = .error (.selfIntersecting 0 2) := ofRing_of_conflict (by decide +kernel)
  have htold : ring.TurnsTold := turnsTold_of_isCoarse (by decide +kernel)
  have hbacked := htold.corners_described.imp Meeting.Describes.isBacked
  obtain ⟨_, _, _, _, hoffend⟩ := crossing_numbered ring 0 2 hbacked hdefect
  exact ⟨hdefect, hoffend (by decide +kernel)⟩

theorem crossing_misnumbered :
    let ring : Ring := [⟨0, 0⟩, ⟨0, 0⟩, ⟨1, 1⟩, ⟨1, 0⟩, ⟨0, 1⟩, ⟨0, 0⟩]
    ((edges ring.corners).Pairwise fun s t => (s.meeting t).IsBacked (s.carrier ∩ t.carrier)) ∧
      Polygon.ofRing ring = .error (.selfIntersecting 0 2) ∧
      edge (ring.map Vertex.point) 0 ∩ edge (ring.map Vertex.point) 2 = ∅ := by
  intro ring
  let origin : Vertex := ⟨0, 0⟩
  have htold : ring.TurnsTold := turnsTold_of_isCoarse (by decide +kernel)
  have hbacked := htold.corners_described.imp Meeting.Describes.isBacked
  have hfirst : (edges (ring.map Vertex.point))[0]? = some ⟨origin.point, origin.point⟩ := rfl
  have hthird : (edges (ring.map Vertex.point))[2]? = some ⟨Vertex.point ⟨1, 1⟩, Vertex.point ⟨1, 0⟩⟩ := rfl
  refine ⟨hbacked, ofRing_of_conflict (by decide +kernel), ?_⟩
  rw [edge_eq hfirst, edge_eq hthird]
  exact inter_of_boxes_apart (by decide +kernel)

end Ring

end FarmRegistry
