import FarmRegistry.Proofs.Decimal.Order
import FarmRegistry.Proofs.Farm.Overlaps
import FarmRegistry.Proofs.Order.Sorting

namespace FarmRegistry

namespace OverlapPair

theorem isAtMost_iff {p q : OverlapPair} :
    p.isAtMost q ↔ p.first.rank < q.first.rank ∨ p.first.rank = q.first.rank ∧
      (p.second.rank < q.second.rank ∨ p.second.rank = q.second.rank ∧ (p.intersects → q.intersects)) := by
  simp only [isAtMost, ← Identifier.rank_inj]
  by_cases hfirst : p.first.rank = q.first.rank
  · by_cases hsecond : p.second.rank = q.second.rank
    · cases p.intersects <;> simp [hfirst, hsecond]
    · simp [hfirst, hsecond]
  · simp [hfirst]

theorem isAtMost_trans (p q r : OverlapPair) (hpq : p.isAtMost q) (hqr : q.isAtMost r) : p.isAtMost r := by
  rw [isAtMost_iff] at hpq hqr ⊢
  grind

theorem isAtMost_total (p q : OverlapPair) : p.isAtMost q || q.isAtMost p := by
  rw [Bool.or_eq_true, isAtMost_iff, isAtMost_iff]
  grind

theorem isAtMost_antisymm (p q : OverlapPair) (hpq : p.isAtMost q) (hqp : q.isAtMost p) : p = q := by
  rw [isAtMost_iff] at hpq hqp
  obtain ⟨a, b, x⟩ := p
  obtain ⟨c, d, y⟩ := q
  rw [mk.injEq, ← Identifier.rank_inj, ← Identifier.rank_inj, Bool.eq_iff_iff]
  grind

theorem isAtMost_of_lt {p q : OverlapPair}
    (h : p.first.rank < q.first.rank ∨ p.first.rank = q.first.rank ∧ p.second.rank < q.second.rank) :
    p.isAtMost q ∧ p ≠ q := by
  rw [isAtMost_iff]
  refine ⟨by omega, ?_⟩
  rintro rfl
  omega

theorem between_comm (a b : FarmId) : between a b = between b a := by
  unfold between
  rcases Nat.lt_trichotomy a.rank b.rank with h | h | h
  · rw [if_pos h.le, if_neg h.not_ge]
  · rw [Identifier.rank_inj.mp h]
  · rw [if_neg h.not_ge, if_pos h.le]

end OverlapPair

namespace Farm

variable {f g : Farm} {p : OverlapPair}

theorem pairWith?_eq_some_iff :
    f.pairWith? g = some p ↔ f.id ≠ g.id ∧ f.polygon.interiorsOverlap g.polygon ∧ p = .between f.id g.id := by
  have hbox : f.boundingBox.intersects g.boundingBox = f.polygon.boundingBox.intersects g.polygon.boundingBox := rfl
  unfold pairWith? Polygon.interiorsOverlap
  rw [hbox, Option.ite_none_right_eq_some, Option.some.injEq]
  simp only [Bool.and_eq_true, bne_iff_ne]
  constructor
  · rintro ⟨⟨⟨hne, hbox⟩, hground⟩, rfl⟩
    exact ⟨hne, ⟨hbox, hground⟩, rfl⟩
  · rintro ⟨hne, ⟨hbox, hground⟩, rfl⟩
    exact ⟨⟨⟨hne, hbox⟩, hground⟩, rfl⟩

theorem pairWith?_comm (h : f.pairWith? g = some p) : g.pairWith? f = some p := by
  obtain ⟨hne, hmeet, rfl⟩ := pairWith?_eq_some_iff.mp h
  rw [Polygon.interiorsOverlap_comm] at hmeet
  exact pairWith?_eq_some_iff.mpr ⟨hne.symm, hmeet, OverlapPair.between_comm _ _⟩

theorem pairWith?_self : f.pairWith? f = none := by
  simp [pairWith?]

theorem pairWith?_beyond (h : f.eastEdge < g.westEdge) : f.pairWith? g = none := by
  have hapart : f.boundingBox.intersects g.boundingBox = false := by
    simp only [BoundingBox.intersects, Bool.and_eq_false_iff, decide_eq_false_iff_not, Int.not_le]
    exact .inl (.inl (.inr h))
  simp [pairWith?, hapart]

theorem filterMap_takeWhile {rest : List Farm} (h : rest.Pairwise fun a b => a.westEdge ≤ b.westEdge) :
    (rest.takeWhile fun g => g.westEdge ≤ f.eastEdge).filterMap f.pairWith? = rest.filterMap f.pairWith? := by
  induction rest with
  | nil => rfl
  | cons g rest ih =>
    obtain ⟨hfirst, hrest⟩ := List.pairwise_cons.mp h
    by_cases hg : g.westEdge ≤ f.eastEdge
    · rw [List.takeWhile_cons_of_pos (by simpa using hg), List.filterMap_cons, List.filterMap_cons, ih hrest]
    · -- All that follow begin at least as far east, so where the sweep stops it loses no pair.
      rw [List.takeWhile_cons_of_neg (by simpa using hg), List.filterMap_nil]
      symm
      rw [List.filterMap_eq_nil_iff]
      intro b hb
      apply pairWith?_beyond
      rcases List.mem_cons.mp hb with rfl | hb
      · exact Int.not_le.mp hg
      · exact Int.lt_of_lt_of_le (Int.not_le.mp hg) (hfirst b hb)

theorem mem_sweep {farms : List Farm} (h : farms.Pairwise fun a b => a.westEdge ≤ b.westEdge) :
    p ∈ sweep farms ↔ ∃ f ∈ farms, ∃ g ∈ farms, f.pairWith? g = some p := by
  induction farms with
  | nil => simp [sweep]
  | cons a rest ih =>
    obtain ⟨_, hrest⟩ := List.pairwise_cons.mp h
    rw [sweep, filterMap_takeWhile hrest, List.mem_append, List.mem_filterMap, ih hrest]
    constructor
    · rintro (⟨g, hg, hp⟩ | ⟨f, hf, g, hg, hp⟩)
      · exact ⟨a, List.mem_cons_self, g, List.mem_cons_of_mem a hg, hp⟩
      · exact ⟨f, List.mem_cons_of_mem a hf, g, List.mem_cons_of_mem a hg, hp⟩
    · rintro ⟨f, hf, g, hg, hp⟩
      rcases List.mem_cons.mp hf with rfl | hfrest
      · rcases List.mem_cons.mp hg with rfl | hgrest
        · rw [pairWith?_self] at hp
          cases hp
        · exact .inl ⟨g, hgrest, hp⟩
      · rcases List.mem_cons.mp hg with rfl | hgrest
        · exact .inl ⟨f, hfrest, pairWith?_comm hp⟩
        · exact .inr ⟨f, hfrest, g, hgrest, hp⟩

theorem mem_allOverlaps {farms : List Farm} :
    p ∈ allOverlaps farms ↔ ∃ f ∈ farms, ∃ g ∈ farms, f.isActive ∧ g.isActive ∧ f.id ≠ g.id ∧
      f.polygon.interiorsOverlap g.polygon ∧ p = .between f.id g.id := by
  have hsorted : ((farms.filter isActive).mergeSort fun f g => f.westRank ≤ g.westRank).Pairwise
      fun f g => f.westEdge ≤ g.westEdge := by
    refine (List.pairwise_mergeSort ?_ ?_ _).imp fun h => Decimal.units_le_of_rank_le (of_decide_eq_true h)
    · intro a b c hab hbc
      simp only [decide_eq_true_eq] at hab hbc ⊢
      exact hab.trans hbc
    · intro a b
      simp only [Bool.or_eq_true, decide_eq_true_eq]
      exact Int.le_total _ _
  rw [allOverlaps, mem_sortDistinct, mem_sweep hsorted]
  simp only [List.mem_mergeSort, List.mem_filter, pairWith?_eq_some_iff]
  constructor
  · rintro ⟨f, ⟨hf, hfactive⟩, g, ⟨hg, hgactive⟩, hp⟩
    exact ⟨f, hf, g, hg, hfactive, hgactive, hp⟩
  · rintro ⟨f, hf, g, hg, hfactive, hgactive, hp⟩
    exact ⟨f, ⟨hf, hfactive⟩, g, ⟨hg, hgactive⟩, hp⟩

theorem allOverlaps_eq_nil {farms : List Farm}
    (h : ∀ f ∈ farms, ∀ g ∈ farms, f.isActive → g.isActive → f.id ≠ g.id →
      f.polygon.interiorsOverlap g.polygon = false) : allOverlaps farms = [] := by
  rw [List.eq_nil_iff_forall_not_mem]
  intro p hp
  obtain ⟨f, hf, g, hg, hfactive, hgactive, hne, hmeet, _⟩ := mem_allOverlaps.mp hp
  exact absurd (hmeet.symm.trans (h f hf g hg hfactive hgactive hne)) (by decide)

end Farm

end FarmRegistry
