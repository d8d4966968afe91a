import FarmRegistry.Proofs.Store.Commit
import FarmRegistry.Proofs.Totals.Exact

namespace FarmRegistry

namespace Farm

variable {i : FarmerId} {farms front back : List Farm}

theorem holding_filter (i : FarmerId) (farms : List Farm) :
    holding i (farms.filter (isHeldBy i)) = holding i farms := by
  simp only [holding, heldArea, heldCount, List.filter_filter, Bool.and_self]

theorem holding_append (i : FarmerId) (front back : List Farm) :
    holding i (front ++ back) = holding i front + holding i back := by
  induction front with
  | nil => exact (zero_add _).symm
  | cons f front ih => rw [List.cons_append, holding_cons, holding_cons, ih, add_assoc]

structure Countable (i : FarmerId) (farms : List Farm) : Prop where
  nonneg : ∀ f ∈ farms, f.isHeldBy i → 0 ≤ f.area.val
  area : heldArea i farms ≤ 9223372036854775807
  count : heldCount i farms ≤ 4294967295

theorem holding_nonneg_of_held (hn : ∀ f ∈ farms, f.isHeldBy i → 0 ≤ f.area.val) :
    0 ≤ (holding i farms).1 ∧ 0 ≤ (holding i farms).2 := by
  rw [← holding_filter]
  apply holding_nonneg
  intro f hf
  obtain ⟨hmem, hheld⟩ := List.mem_filter.mp hf
  exact hn f hmem hheld

theorem Countable.fits (h : Countable i farms) : Totals.Fits (holding i farms) := by
  obtain ⟨harea, hcount⟩ := holding_nonneg_of_held h.nonneg
  exact ⟨⟨harea, h.area⟩, hcount, h.count⟩

theorem Countable.split (h : Countable i farms) (hperm : (front ++ back).Perm farms) :
    Countable i front ∧ Countable i back := by
  have hfront : ∀ f ∈ front, f.isHeldBy i → 0 ≤ f.area.val :=
    fun f hf => h.nonneg f (hperm.mem_iff.mp (List.mem_append_left back hf))
  have hback : ∀ f ∈ back, f.isHeldBy i → 0 ≤ f.area.val :=
    fun f hf => h.nonneg f (hperm.mem_iff.mp (List.mem_append_right front hf))
  have hsum : holding i front + holding i back = holding i farms := by
    rw [← holding_append, holding_perm i hperm]
  have harea : heldArea i front + heldArea i back = heldArea i farms := congrArg Prod.fst hsum
  have hcount : heldCount i front + heldCount i back = heldCount i farms := congrArg Prod.snd hsum
  obtain ⟨hfarea, hfcount⟩ := holding_nonneg_of_held hfront
  obtain ⟨hbarea, hbcount⟩ := holding_nonneg_of_held hback
  simp only [holding] at hfarea hfcount hbarea hbcount
  have := h.area
  have := h.count
  exact ⟨⟨hfront, by omega, by omega⟩, hback, by omega, by omega⟩

end Farm

namespace Totals

variable {i : FarmerId} {farms : List Farm} {t u : Totals}

theorem ext_sums (h : t.sums = u.sums) : t = u := by
  obtain ⟨a, n⟩ := t
  obtain ⟨b, m⟩ := u
  simp only [sums, Prod.mk.injEq] at h
  rw [Area.ext_val h.1, Bounded.ext h.2]

theorem ofFarms_filter (i : FarmerId) (farms : List Farm) :
    ofFarms i (farms.filter (Farm.isHeldBy i)) = ofFarms i farms := by
  change ((farms.filter (Farm.isHeldBy i)).filter (Farm.isHeldBy i)).foldlM addFarm zero =
    (farms.filter (Farm.isHeldBy i)).foldlM addFarm zero
  rw [List.filter_filter]
  simp only [Bool.and_self]

theorem ofFarms_eq_ok_iff (h : Farm.Countable i farms) : ofFarms i farms = .ok t ↔ t.sums = Farm.holding i farms := by
  obtain ⟨u, hu, hsums⟩ : ∃ u, ofFarms i farms = .ok u ∧ u.sums = Farm.holding i farms := by
    rw [← ofFarms_filter, ← Farm.holding_filter]
    apply ofFarms_eq_holding
    · intro f hf
      obtain ⟨hmem, hheld⟩ := List.mem_filter.mp hf
      exact h.nonneg f hmem hheld
    · rw [Farm.holding_filter]
      exact h.fits
  rw [hu, ← hsums, Except.ok.injEq]
  constructor
  · rintro rfl
    rfl
  · exact fun ht => (ext_sums ht).symm

theorem foldlM_addFarm_area (farms : List Farm) (t : Totals) :
    (farms.foldlM addFarm t).map Totals.area = (farms.map Farm.area).foldlM Area.add t.area := by
  induction farms generalizing t with
  | nil => rfl
  | cons f farms ih =>
    rw [List.map_cons, List.foldlM_cons, List.foldlM_cons, addFarm]
    cases t.area.add f.area with
    | error o => rfl
    | ok a => exact ih ⟨a, increment t.farmCount⟩

theorem sum_area (i : FarmerId) (farms : List Farm) :
    Area.sum ((farms.filter (Farm.isHeldBy i)).map Farm.area) = (ofFarms i farms).map Totals.area :=
  (foldlM_addFarm_area _ zero).symm

/-- The order in which a farmer's active farms are added up does not matter. In any order all that is added up so far
is exact, and so is the whole, which is also what any two parts of the farms come to. -/
theorem summed_in_any_order (h : Farm.Countable i farms) :
    ∃ t, t.sums = Farm.holding i farms ∧ ∀ others, others.Perm farms →
      ofFarms i others = .ok t ∧ Area.sum ((others.filter (Farm.isHeldBy i)).map Farm.area) = .ok t.area ∧
      (∀ part, part <+: others → ∃ u, ofFarms i part = .ok u ∧ u.sums = Farm.holding i part) ∧
      ∀ front back, others = front ++ back → ∃ u v, ofFarms i front = .ok u ∧ ofFarms i back = .ok v ∧
        u.area.add v.area = .ok t.area ∧ u.farmCount.val + v.farmCount.val = t.farmCount.val := by
  obtain ⟨t, ht⟩ := exists_of_fits h.fits
  refine ⟨t, ht, ?_⟩
  intro others hperm
  have hcountable : Farm.Countable i others := by
    -- The farms in another order are a first part, with nothing in the second.
    rw [← List.append_nil others] at hperm
    exact (h.split hperm).1
  have hothers : ofFarms i others = .ok t := by
    rw [ofFarms_eq_ok_iff hcountable, ht, Farm.holding_perm i hperm]
  refine ⟨hothers, ?_, ?_, ?_⟩
  · rw [sum_area, hothers]
    rfl
  · rintro part ⟨rest, rfl⟩
    have hpart := (h.split hperm).1
    obtain ⟨u, hu⟩ := exists_of_fits hpart.fits
    exact ⟨u, (ofFarms_eq_ok_iff hpart).mpr hu, hu⟩
  · rintro front back rfl
    obtain ⟨hfront, hback⟩ := h.split hperm
    obtain ⟨u, hu⟩ := exists_of_fits hfront.fits
    obtain ⟨v, hv⟩ := exists_of_fits hback.fits
    have hsums : t.sums = u.sums + v.sums := by
      rw [ht, hu, hv, ← Farm.holding_append, Farm.holding_perm i hperm]
    refine ⟨u, v, (ofFarms_eq_ok_iff hfront).mpr hu, (ofFarms_eq_ok_iff hback).mpr hv, ?_, ?_⟩
    · exact Area.add_eq_ok_iff.mpr (congrArg Prod.fst hsums)
    · exact (congrArg Prod.snd hsums).symm

theorem summed_around_debt :
    let large : Farm := { MemoryStore.parcel with area := .ofNat 5 }
    let small : Farm := { MemoryStore.parcel with area := .ofNat 3 }
    let debt : Farm := { MemoryStore.parcel with farmerId := MemoryStore.giver, area := ⟨⟨-9, by decide, by decide⟩⟩ }
    Farm.Countable MemoryStore.taker [large, debt, small] ∧ ∃ t, t.sums = (8, 2) ∧
      ofFarms MemoryStore.taker [large, debt, small] = .ok t ∧
      ofFarms MemoryStore.taker [small, debt, large] = .ok t ∧
      ∃ u v, ofFarms MemoryStore.taker [large] = .ok u ∧ ofFarms MemoryStore.taker [debt, small] = .ok v ∧
        u.area.add v.area = .ok t.area := by
  intro large small debt
  have hheld : [large, debt, small].filter (Farm.isHeldBy MemoryStore.taker) = [large, small] := rfl
  have hholding : Farm.holding MemoryStore.taker [large, debt, small] = (8, 2) := by
    rw [← Farm.holding_filter, hheld]
    rfl
  have hcountable : Farm.Countable MemoryStore.taker [large, debt, small] := by
    refine ⟨?_, ?_, ?_⟩
    · intro f hf hown
      have hmem : f ∈ [large, small] := hheld ▸ List.mem_filter.mpr ⟨hf, hown⟩
      simp only [List.mem_cons, List.not_mem_nil, or_false] at hmem
      rcases hmem with rfl | rfl
      · exact Area.ofNat_val_nonneg 5
      · exact Area.ofNat_val_nonneg 3
    · exact (congrArg Prod.fst hholding).trans_le (by decide)
    · exact (congrArg Prod.snd hholding).trans_le (by decide)
  obtain ⟨t, ht, hall⟩ := summed_in_any_order hcountable
  obtain ⟨hlisted, _, _, hparts⟩ := hall _ (.refl _)
  obtain ⟨hreversed, _⟩ := hall _ (List.reverse_perm [large, debt, small])
  obtain ⟨u, v, hu, hv, hsum, _⟩ := hparts [large] [debt, small] rfl
  exact ⟨hcountable, t, ht.trans hholding, hlisted, hreversed, u, v, hu, hv, hsum⟩

end Totals

end FarmRegistry
