import FarmRegistry.Proofs.Cadastre.Basic
import FarmRegistry.Proofs.Farm.Sweep
import FarmRegistry.Proofs.Service.ClearGround

namespace FarmRegistry

open MemoryStore

namespace Cadastre

variable {c : Cadastre} {p : Polygon} {exclude : Option FarmId} {i : FarmId}

theorem pairwise_farms : c.farms.toList.Pairwise fun a b => a.1.rank < b.1.rank :=
  c.farms.ordered_keys_toList.imp fun h => Nat.compare_eq_lt.mp h

theorem mem_meeting :
    i ∈ c.meeting p exclude ↔
      ∃ f, c.farms[i]? = some f ∧ f.isActive ∧ some i ≠ exclude ∧ f.polygon.interiorsOverlap p := by
  simp only [meeting, List.mem_map, List.mem_filter, Prod.exists, Std.ExtTreeMap.mem_toList_iff_getElem?_eq_some,
    Bool.and_eq_true, bne_iff_ne]
  constructor
  · rintro ⟨j, f, ⟨hf, ⟨hactive, hother⟩, hground⟩, rfl⟩
    exact ⟨f, hf, hactive, hother, hground⟩
  · rintro ⟨f, hf, hactive, hother, hground⟩
    exact ⟨i, f, ⟨hf, ⟨hactive, hother⟩, hground⟩, rfl⟩

theorem pairwise_meeting : (c.meeting p exclude).Pairwise fun a b => a.rank < b.rank := by
  rw [meeting, List.pairwise_map]
  exact List.Pairwise.filter _ pairwise_farms

theorem mem_pairs {q : OverlapPair} :
    q ∈ c.pairs ↔ ∃ f g, c.farms[q.first]? = some f ∧ c.farms[q.second]? = some g ∧ q.first.rank < q.second.rank ∧
      f.isActive ∧ g.isActive ∧ f.polygon.interiorsOverlap g.polygon ∧ q.intersects := by
  obtain ⟨a, b, meets⟩ := q
  simp only [pairs, List.mem_flatMap, List.mem_filterMap, Prod.exists, Std.ExtTreeMap.mem_toList_iff_getElem?_eq_some,
    Option.ite_none_right_eq_some, Bool.and_eq_true, decide_eq_true_eq, Option.some.injEq, OverlapPair.mk.injEq]
  constructor
  · rintro ⟨i, f, hf, j, g, hg, ⟨⟨⟨hlt, hfactive⟩, hgactive⟩, hmeet⟩, rfl, rfl, rfl⟩
    exact ⟨f, g, hf, hg, hlt, hfactive, hgactive, hmeet, rfl⟩
  · rintro ⟨f, g, hf, hg, hlt, hfactive, hgactive, hmeet, rfl⟩
    exact ⟨a, f, hf, b, g, hg, ⟨⟨⟨hlt, hfactive⟩, hgactive⟩, hmeet⟩, rfl, rfl, rfl⟩

theorem pairwise_pairs : c.pairs.Pairwise fun q r => q.isAtMost r ∧ q ≠ r := by
  rw [pairs, List.pairwise_flatMap]
  refine ⟨?_, ?_⟩
  · rintro ⟨i, f⟩ _
    rw [List.pairwise_filterMap]
    apply pairwise_farms.imp
    rintro ⟨j, g⟩ ⟨k, h⟩ hlt q hq r hr
    rw [Option.ite_none_right_eq_some, Option.some.injEq] at hq hr
    rw [← hq.2, ← hr.2]
    exact OverlapPair.isAtMost_of_lt (.inr ⟨rfl, hlt⟩)
  · apply pairwise_farms.imp
    rintro ⟨i, f⟩ ⟨j, g⟩ hlt q hq r hr
    obtain ⟨⟨k, h⟩, _, hq⟩ := List.mem_filterMap.mp hq
    obtain ⟨⟨l, e⟩, _, hr⟩ := List.mem_filterMap.mp hr
    rw [Option.ite_none_right_eq_some, Option.some.injEq] at hq hr
    rw [← hq.2, ← hr.2]
    exact OverlapPair.isAtMost_of_lt (.inl hlt)

end Cadastre

namespace MemoryStore

variable {s : MemoryStore} {p : Polygon} {exclude : Option FarmId}

theorem overlapping_eq_meeting (hs : s.Keyed) :
    Farm.overlapping p exclude
        ((farmsOf s.farms).filter fun f => f.isActive && f.boundingBox.intersects p.boundingBox) =
      s.cadastre.meeting p exclude := by
  apply sortDistinct_eq
  · intro a b c hab hbc
    simp only [decide_eq_true_eq] at hab hbc ⊢
    exact hab.trans hbc
  · intro a b
    simp only [Bool.or_eq_true, decide_eq_true_eq]
    exact Nat.le_total _ _
  · intro a b hab hba
    simp only [decide_eq_true_eq] at hab hba
    exact Identifier.rank_inj.mp (Nat.le_antisymm hab hba)
  · apply Cadastre.pairwise_meeting.imp
    intro a b hab
    refine ⟨decide_eq_true hab.le, ?_⟩
    rintro rfl
    exact Nat.lt_irrefl _ hab
  · intro i
    refine Farm.mem_overlapping.trans (Iff.trans ?_ Cadastre.mem_meeting.symm)
    simp only [List.mem_filter, mem_farmsOf, Bool.and_eq_true]
    constructor
    · rintro ⟨f, ⟨⟨k, hf⟩, hactive, hbox⟩, rfl, _, hother, hground⟩
      have hid := hs.farmId k f hf
      subst hid
      exact ⟨f, hf, hactive, hother, hground⟩
    · rintro ⟨f, hf, hactive, hother, hground⟩
      have hid := hs.farmId i f hf
      subst hid
      have hbox : f.boundingBox.intersects p.boundingBox := by
        rw [Polygon.interiorsOverlap, Bool.and_eq_true] at hground
        exact hground.1
      exact ⟨f, ⟨⟨_, hf⟩, hactive, hbox⟩, rfl, hactive, hother, hground⟩

theorem allOverlaps_eq_pairs (hs : s.Keyed) :
    Farm.allOverlaps ((farmsOf s.farms).filter fun f => f.isActive && true) = s.cadastre.pairs := by
  apply sortDistinct_eq OverlapPair.isAtMost_trans OverlapPair.isAtMost_total OverlapPair.isAtMost_antisymm
    Cadastre.pairwise_pairs
  intro q
  refine Farm.mem_allOverlaps.trans (Iff.trans ?_ Cadastre.mem_pairs.symm)
  simp only [List.mem_filter, mem_farmsOf, Bool.and_true]
  constructor
  · rintro ⟨f, ⟨⟨i, hf⟩, _⟩, g, ⟨⟨j, hg⟩, _⟩, hfactive, hgactive, hne, hmeet, rfl⟩
    obtain rfl := hs.farmId i f hf
    obtain rfl := hs.farmId j g hg
    have hranks : f.id.rank ≠ g.id.rank := mt Identifier.rank_inj.mp hne
    unfold OverlapPair.between
    split
    · have hlt : f.id.rank < g.id.rank := by omega
      exact ⟨f, g, hf, hg, hlt, hfactive, hgactive, hmeet, rfl⟩
    · have hlt : g.id.rank < f.id.rank := by omega
      rw [Polygon.interiorsOverlap_comm] at hmeet
      exact ⟨g, f, hg, hf, hlt, hgactive, hfactive, hmeet, rfl⟩
  · obtain ⟨a, b, meets⟩ := q
    rintro ⟨f, g, hf, hg, hlt, hfactive, hgactive, hmeet, rfl⟩
    obtain rfl := hs.farmId a f hf
    obtain rfl := hs.farmId b g hg
    refine ⟨f, ⟨⟨_, hf⟩, hfactive⟩, g, ⟨⟨_, hg⟩, hgactive⟩, hfactive, hgactive, ?_, hmeet, ?_⟩
    · intro he
      exact Nat.lt_irrefl _ (he ▸ hlt)
    · exact (if_pos hlt.le).symm

end MemoryStore

end FarmRegistry
