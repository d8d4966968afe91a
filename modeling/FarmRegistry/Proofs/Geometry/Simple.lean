import FarmRegistry.Proofs.Geometry.Conflicts
import FarmRegistry.Proofs.Geometry.Meeting

namespace FarmRegistry

def Meeting.IsBacked : Meeting → Set (ℝ × ℝ) → Prop
  | .apart, _ => True
  | .point, common => common.Nonempty
  | .stretch, common => common.Nontrivial

theorem Meeting.Describes.isBacked {m : Meeting} {common : Set (ℝ × ℝ)} (h : m.Describes common) :
    m.IsBacked common := by
  cases m with
  | apart => trivial
  | point =>
    obtain ⟨p, rfl⟩ := h
    exact Set.singleton_nonempty p
  | stretch => exact h

namespace Ring

open Segment

variable {path : List Point} {s t : Segment} {i j k : ℕ} {p : ℝ × ℝ}

def edge (path : List Point) (k : ℕ) : Set (ℝ × ℝ) :=
  {p | ∃ a b, path[k]? = some a ∧ path[k + 1]? = some b ∧ p ∈ segment ℝ a.position b.position}

def corner (path : List Point) (k : ℕ) : Set (ℝ × ℝ) :=
  {p | ∃ a, path[k]? = some a ∧ p = a.position}

def sharedCorner (path : List Point) (i j : ℕ) : Set (ℝ × ℝ) :=
  {p | j = i + 1 ∧ p ∈ corner path j ∨ (i = 0 ∧ j + 2 = path.length) ∧ p ∈ corner path 0}

/-- Two edges that have a place in common besides the corner between them. -/
def Offend (path : List Point) (i j : ℕ) : Prop :=
  i < j ∧ ¬edge path i ∩ edge path j ⊆ sharedCorner path i j

theorem edge_eq (h : (edges path)[k]? = some s) : edge path k = s.carrier := by
  obtain ⟨hstart, hfinish⟩ := edges_getElem?.mp h
  ext p
  constructor
  · rintro ⟨a, b, ha, hb, hp⟩
    rw [hstart] at ha
    rw [hfinish] at hb
    cases ha
    cases hb
    exact hp
  · intro hp
    exact ⟨_, _, hstart, hfinish, hp⟩

theorem exists_edge (h : p ∈ edge path k) : ∃ s, (edges path)[k]? = some s ∧ p ∈ s.carrier := by
  obtain ⟨a, b, ha, hb, hp⟩ := h
  exact ⟨⟨a, b⟩, edges_getElem?.mpr ⟨ha, hb⟩, hp⟩

theorem sharedCorner_subsingleton (hlength : 4 ≤ path.length) : (sharedCorner path i j).Subsingleton := by
  rintro p (⟨hj, a, ha, rfl⟩ | ⟨⟨hi, hj⟩, a, ha, rfl⟩) q (⟨hj', b, hb, rfl⟩ | ⟨⟨hi', hj'⟩, b, hb, rfl⟩)
  · rw [ha] at hb
    cases hb
    rfl
  · omega
  · omega
  · rw [ha] at hb
    cases hb
    rfl

theorem areNeighbours_iff : areNeighbours (edges path).length i j ↔ j = i + 1 ∨ i = 0 ∧ j + 2 = path.length := by
  simp only [areNeighbours, Bool.or_eq_true, Bool.and_eq_true, decide_eq_true_eq, length_edges]
  omega

theorem sharedCorner_eq_empty (h : ¬areNeighbours (edges path).length i j) : sharedCorner path i j = ∅ := by
  rw [areNeighbours_iff, not_or] at h
  refine Set.eq_empty_iff_forall_notMem.mpr ?_
  rintro p (⟨hj, _⟩ | ⟨hends, _⟩)
  · exact h.1 hj
  · exact h.2 hends

theorem exists_sharedCorner (hclosed : path.head? = path.getLast?) (hs : (edges path)[i]? = some s)
    (ht : (edges path)[j]? = some t) (h : areNeighbours (edges path).length i j) :
    ∃ p ∈ s.carrier ∩ t.carrier, p ∈ sharedCorner path i j := by
  obtain ⟨hstart, hfinish⟩ := edges_getElem?.mp hs
  obtain ⟨hstart', hfinish'⟩ := edges_getElem?.mp ht
  rcases areNeighbours_iff.mp h with rfl | ⟨rfl, hj⟩
  · rw [hfinish, Option.some.injEq] at hstart'
    have hmem := s.finish_mem_carrier
    refine ⟨s.finish.position, ⟨hmem, ?_⟩, .inl ⟨rfl, _, hfinish, rfl⟩⟩
    rw [hstart']
    exact t.start_mem_carrier
  · have hlast : path.getLast? = path[j + 1]? := by
      rw [List.getLast?_eq_getElem?]
      congr 1
      omega
    rw [← hlast, ← hclosed, List.head?_eq_getElem?, hstart, Option.some.injEq] at hfinish'
    refine ⟨s.start.position, ⟨s.start_mem_carrier, ?_⟩, .inr ⟨⟨rfl, hj⟩, _, hstart, rfl⟩⟩
    rw [hfinish']
    exact t.finish_mem_carrier

theorem conflict_iff {neighbours : Bool} :
    conflict neighbours s t ↔ s.meeting t = .stretch ∨ s.meeting t = .point ∧ ¬neighbours := by
  unfold conflict
  cases s.meeting t <;> simp

theorem pairwise_getElem? {R : Segment → Segment → Prop} {es : List Segment} (h : es.Pairwise R) (hij : i < j)
    (hs : es[i]? = some s) (ht : es[j]? = some t) : R s t := by
  obtain ⟨hi, rfl⟩ := List.getElem?_eq_some_iff.mp hs
  obtain ⟨hj, rfl⟩ := List.getElem?_eq_some_iff.mp ht
  exact List.pairwise_iff_getElem.mp h i j hi hj hij

theorem offend_of_tangled (hlength : 4 ≤ path.length)
    (hbacked : (edges path).Pairwise fun s t => (s.meeting t).IsBacked (s.carrier ∩ t.carrier))
    (h : Tangled (edges path) i j) : Offend path i j := by
  obtain ⟨hij, s, t, hs, ht, hconflict⟩ := h
  have hback := pairwise_getElem? hbacked hij hs ht
  refine ⟨hij, ?_⟩
  rw [edge_eq hs, edge_eq ht]
  intro hshared
  rcases conflict_iff.mp hconflict with hstretch | ⟨hpoint, hapart⟩
  · rw [hstretch] at hback
    exact hback.not_subsingleton ((sharedCorner_subsingleton hlength).anti hshared)
  · rw [hpoint] at hback
    rw [sharedCorner_eq_empty hapart] at hshared
    exact (hback.mono hshared).ne_empty rfl

theorem tangled_of_offend (hclosed : path.head? = path.getLast?)
    (hdescribed : (edges path).Pairwise fun s t => (s.meeting t).Describes (s.carrier ∩ t.carrier))
    (h : Offend path i j) : Tangled (edges path) i j := by
  obtain ⟨hij, hshared⟩ := h
  obtain ⟨p, ⟨hpi, hpj⟩, hp⟩ := Set.not_subset.mp hshared
  obtain ⟨s, hs, hps⟩ := exists_edge hpi
  obtain ⟨t, ht, hpt⟩ := exists_edge hpj
  have hmeet := pairwise_getElem? hdescribed hij hs ht
  refine ⟨hij, s, t, hs, ht, conflict_iff.mpr ?_⟩
  cases hm : s.meeting t with
  | apart =>
    rw [hm] at hmeet
    exact absurd ⟨p, hps, hpt⟩ (Set.not_nonempty_iff_eq_empty.mpr hmeet)
  | stretch => exact .inl rfl
  | point =>
    rw [hm] at hmeet
    refine .inr ⟨rfl, ?_⟩
    intro hneighbours
    -- Neighbours have their corner in common, so the one place they share is that.
    obtain ⟨c, hc, hcorner⟩ := exists_sharedCorner hclosed hs ht hneighbours
    obtain ⟨q, hq⟩ := hmeet
    have hpq : p = q := by
      rw [← Set.mem_singleton_iff, ← hq]
      exact ⟨hps, hpt⟩
    have hcq : c = q := by
      rw [← Set.mem_singleton_iff, ← hq]
      exact hc
    exact hp (hpq.trans hcq.symm ▸ hcorner)

theorem tangled_iff_offend (hclosed : path.head? = path.getLast?) (hlength : 4 ≤ path.length)
    (hdescribed : (edges path).Pairwise fun s t => (s.meeting t).Describes (s.carrier ∩ t.carrier)) :
    Tangled (edges path) i j ↔ Offend path i j :=
  ⟨offend_of_tangled hlength (hdescribed.imp Meeting.Describes.isBacked), tangled_of_offend hclosed hdescribed⟩

def TurnsTold (ring : Ring) : Prop :=
  ∀ a ∈ ring.map Vertex.point, ∀ b ∈ ring.map Vertex.point, ∀ c ∈ ring.map Vertex.point, Point.IsTold a b c

theorem turnsTold_of_isCoarse {ring : Ring} (h : ∀ v ∈ ring, v.point.isCoarse) : ring.TurnsTold := by
  have hcoarse : ∀ p ∈ ring.map Vertex.point, p.isCoarse := List.forall_mem_map.mpr h
  exact fun a ha b hb c hc => Point.isTold_of_isCoarse (hcoarse a ha) (hcoarse b hb) (hcoarse c hc)

theorem TurnsTold.meeting_describes {ring : Ring} (h : ring.TurnsTold) (hpath : ∀ p ∈ path, p ∈ ring.map Vertex.point) :
    (edges (collapse path)).Pairwise fun s t => (s.meeting t).Describes (s.carrier ∩ t.carrier) := by
  apply List.pairwise_of_forall_mem_list
  intro s hs t ht
  have hmem {u : Segment} (hu : u ∈ edges (collapse path)) :
      u.start ∈ ring.map Vertex.point ∧ u.finish ∈ ring.map Vertex.point := by
    obtain ⟨hstart, hfinish⟩ := mem_of_mem_edges hu
    exact ⟨hpath _ (mem_collapse.mp hstart), hpath _ (mem_collapse.mp hfinish)⟩
  obtain ⟨ha, hb⟩ := hmem hs
  obtain ⟨hc, hd⟩ := hmem ht
  exact Segment.meeting_describes (ne_of_mem_edges hs) (ne_of_mem_edges ht)
    ⟨h _ ha _ hb _ hc, h _ ha _ hb _ hd, h _ hc _ hd _ ha, h _ hc _ hd _ hb⟩

theorem TurnsTold.corners_described {ring : Ring} (h : ring.TurnsTold) :
    (edges ring.corners).Pairwise fun s t => (s.meeting t).Describes (s.carrier ∩ t.carrier) :=
  h.meeting_describes fun _ hp => hp

end Ring

end FarmRegistry
