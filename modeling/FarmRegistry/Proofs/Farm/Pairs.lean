import FarmRegistry.Proofs.Farm.Sweep
import FarmRegistry.Proofs.Order.Sorting

namespace FarmRegistry

namespace OverlapPair

variable {p q : OverlapPair} {a b c d : FarmId}

def Joins (p : OverlapPair) (a b : FarmId) : Prop :=
  (p.first = a ∧ p.second = b) ∨ (p.first = b ∧ p.second = a)

def IsBefore (p q : OverlapPair) : Prop :=
  p.first.rank < q.first.rank ∨ (p.first = q.first ∧ p.second.rank < q.second.rank)

theorem joins_between : (between a b).Joins c d ↔ (a = c ∧ b = d) ∨ (a = d ∧ b = c) := by
  unfold between Joins
  split
  · rfl
  · simp only [and_comm, or_comm]

theorem between_first_lt (h : a ≠ b) : (between a b).first.rank < (between a b).second.rank := by
  have hranks : a.rank ≠ b.rank := mt Identifier.rank_inj.mp h
  unfold between
  split
  · change a.rank < b.rank
    omega
  · change b.rank < a.rank
    omega

theorem between_intersects : (between a b).intersects := by
  unfold between
  split <;> rfl

theorem isBefore_of_isAtMost (h : p.isAtMost q) (hne : p ≠ q) (hmeet : p.intersects = q.intersects) : p.IsBefore q := by
  rcases isAtMost_iff.mp h with hfirst | ⟨hfirst, hsecond | ⟨hsecond, _⟩⟩
  · exact .inl hfirst
  · exact .inr ⟨Identifier.rank_inj.mp hfirst, hsecond⟩
  · refine absurd ?_ hne
    obtain ⟨i, j, x⟩ := p
    obtain ⟨k, l, y⟩ := q
    rw [mk.injEq]
    exact ⟨Identifier.rank_inj.mp hfirst, Identifier.rank_inj.mp hsecond, hmeet⟩

end OverlapPair

namespace Farm

variable {farms others : List Farm} {p : OverlapPair} {a b : FarmId}

theorem first_lt_second (h : p ∈ allOverlaps farms) : p.first.rank < p.second.rank ∧ p.intersects := by
  obtain ⟨f, _, g, _, _, _, hne, _, rfl⟩ := mem_allOverlaps.mp h
  exact ⟨OverlapPair.between_first_lt hne, OverlapPair.between_intersects⟩

theorem pairwise_allOverlaps (farms : List Farm) :
    (allOverlaps farms).Pairwise fun p q => p.isAtMost q ∧ p ≠ q :=
  pairwise_sortDistinct OverlapPair.isAtMost_trans OverlapPair.isAtMost_total OverlapPair.isAtMost_antisymm _

theorem isBefore_allOverlaps (farms : List Farm) : (allOverlaps farms).Pairwise OverlapPair.IsBefore := by
  apply (pairwise_allOverlaps farms).imp_of_mem
  rintro p q hp hq ⟨hle, hne⟩
  exact OverlapPair.isBefore_of_isAtMost hle hne ((first_lt_second hp).2.trans (first_lt_second hq).2.symm)

theorem exists_joins_iff :
    (∃ p ∈ allOverlaps farms, p.Joins a b) ↔
      a ≠ b ∧ ∃ f ∈ farms, ∃ g ∈ farms, (f.isActive ∧ f.id = a) ∧ (g.isActive ∧ g.id = b) ∧
        f.polygon.interiorsOverlap g.polygon := by
  constructor
  · rintro ⟨p, hp, hjoins⟩
    obtain ⟨f, hf, g, hg, hfactive, hgactive, hne, hmeet, rfl⟩ := mem_allOverlaps.mp hp
    rcases OverlapPair.joins_between.mp hjoins with ⟨rfl, rfl⟩ | ⟨rfl, rfl⟩
    · exact ⟨hne, f, hf, g, hg, ⟨hfactive, rfl⟩, ⟨hgactive, rfl⟩, hmeet⟩
    · rw [Polygon.interiorsOverlap_comm] at hmeet
      exact ⟨hne.symm, g, hg, f, hf, ⟨hgactive, rfl⟩, ⟨hfactive, rfl⟩, hmeet⟩
  · rintro ⟨hne, f, hf, g, hg, ⟨hfactive, rfl⟩, ⟨hgactive, rfl⟩, hmeet⟩
    exact ⟨_, mem_allOverlaps.mpr ⟨f, hf, g, hg, hfactive, hgactive, hne, hmeet, rfl⟩,
      OverlapPair.joins_between.mpr (.inl ⟨rfl, rfl⟩)⟩

theorem allOverlaps_congr (h : ∀ f, f ∈ others ↔ f ∈ farms) : allOverlaps others = allOverlaps farms := by
  apply sortDistinct_eq OverlapPair.isAtMost_trans OverlapPair.isAtMost_total OverlapPair.isAtMost_antisymm
    (pairwise_allOverlaps farms)
  intro p
  refine Iff.trans mem_allOverlaps (Iff.trans ?_ mem_allOverlaps.symm)
  simp only [h]

theorem exists_joins_iff_overlapping :
    (∃ p ∈ allOverlaps farms, p.Joins a b) ↔
      ∃ f ∈ farms, f.isActive ∧ f.id = a ∧ b ∈ overlapping f.polygon (some a) farms := by
  rw [exists_joins_iff]
  simp only [mem_overlapping]
  constructor
  · rintro ⟨hne, f, hf, g, hg, ⟨hfactive, rfl⟩, ⟨hgactive, rfl⟩, hmeet⟩
    rw [Polygon.interiorsOverlap_comm] at hmeet
    exact ⟨f, hf, hfactive, rfl, g, hg, rfl, hgactive, fun he => hne (Option.some.inj he).symm, hmeet⟩
  · rintro ⟨f, hf, hfactive, rfl, g, hg, rfl, hgactive, hne, hmeet⟩
    rw [Polygon.interiorsOverlap_comm] at hmeet
    exact ⟨fun he => hne (congrArg some he.symm), f, hf, g, hg, ⟨hfactive, rfl⟩, ⟨hgactive, rfl⟩, hmeet⟩

/-- The sweep finds what comparing every two farms finds, and lists it in order. -/
theorem allOverlaps_exhaustive (farms : List Farm) :
    (allOverlaps farms).Pairwise OverlapPair.IsBefore ∧
      (∀ p ∈ allOverlaps farms, p.first.rank < p.second.rank ∧ p.intersects) ∧
      (∀ a b, (∃ p ∈ allOverlaps farms, p.Joins a b) ↔
        a ≠ b ∧ ∃ f ∈ farms, ∃ g ∈ farms, (f.isActive ∧ f.id = a) ∧ (g.isActive ∧ g.id = b) ∧
          f.polygon.interiorsOverlap g.polygon) ∧
      (∀ shuffled, shuffled.Perm farms → allOverlaps shuffled = allOverlaps farms) ∧
      (∀ a b, (∃ p ∈ allOverlaps farms, p.Joins a b) ↔
        ∃ f ∈ farms, f.isActive ∧ f.id = a ∧ b ∈ overlapping f.polygon (some a) farms) :=
  ⟨isBefore_allOverlaps farms, fun _ => first_lt_second, fun _ _ => exists_joins_iff,
    fun _ h => allOverlaps_congr fun _ => h.mem_iff, fun _ _ => exists_joins_iff_overlapping⟩

def onMeridian (n : Fin uuidCount) (west : Float)
    (h : Ring.defect [⟨west, 0⟩, ⟨2, 0⟩, ⟨2, 2⟩, ⟨west, 2⟩, ⟨west, 0⟩] = none) : Farm :=
  .create ⟨⟨n⟩⟩ ⟨⟨n⟩⟩ ⟨[⟨west, 0⟩, ⟨2, 0⟩, ⟨2, 2⟩, ⟨west, 2⟩, ⟨west, 0⟩], h⟩ .empty ⟨0, 0⟩

theorem allOverlaps_on_meridian :
    let f := onMeridian 2 0 (by decide +kernel)
    let g := onMeridian 3 (-0) (by decide +kernel)
    g.westRank < f.westRank ∧ f.westEdge = g.westEdge ∧
      (∃ p ∈ allOverlaps [f, g], p.Joins f.id g.id) ∧ allOverlaps [g, f] = allOverlaps [f, g] := by
  intro f g
  obtain ⟨_, _, hpairs, hshuffled, _⟩ := allOverlaps_exhaustive [f, g]
  refine ⟨by decide +kernel, by decide +kernel, ?_, hshuffled _ (List.Perm.swap f g [])⟩
  apply (hpairs f.id g.id).mpr
  exact ⟨by decide, f, List.mem_cons_self, g, List.mem_cons_of_mem f List.mem_cons_self, ⟨rfl, rfl⟩, ⟨rfl, rfl⟩,
    by decide +kernel⟩

end Farm

end FarmRegistry
