import FarmRegistry.Proofs.Cadastre.Changes
import FarmRegistry.Proofs.Store.Drift

namespace FarmRegistry

namespace MemoryStore

variable {s t : MemoryStore} {c : Change} {before after : Option Farm}

theorem moveTotals_refused {f : Farmer} {d : TotalsDelta} {e : StoreError} (hid : d.farmerId = f.id)
    (h : moveTotals f d = .error e) :
    e = .negativeAggregate f.id ∨ e = .query (TotalsError.overflow f.id).message := by
  obtain ⟨reason, hreason, rfl⟩ := mapError_eq_error_iff.mp h
  rcases Farmer.apply_refused hid hreason with ⟨rfl, _⟩ | ⟨rfl, _⟩
  · exact .inl rfl
  · exact .inr rfl

namespace Balanced

theorem repairable (hs : s.Balanced) : s.Repairable := by
  refine ⟨hs.toSound, ?_, ?_⟩
  · intro i slot hi
    have harea : slot.farmer.totalArea.val = (s.holding i).1 := congrArg Prod.fst (hs.exact i slot hi)
    exact harea ▸ (Farm.holding_nonneg i hs.farmsOf_nonneg).1
  · intro i
    cases hi : s.farmers[i]? with
    | some slot => exact hs.fits hi
    | none =>
      rw [hs.holding_eq_zero hi]
      exact ⟨⟨Int.le_refl 0, by decide⟩, Int.le_refl 0, by decide⟩

theorem drift?_eq_zero (hs : s.Balanced) {i : FarmerId} (hi : i ∈ s.farmers) : s.drift? i = some 0 := by
  obtain ⟨slot, hslot⟩ := mem_iff_exists_getElem?.mp hi
  rw [drift?_of_slot hslot, hs.exact i slot hslot, sub_self]

theorem commit_ne_negative (hs : s.Balanced) (hc : s.Turns c before after) (i : FarmerId) :
    (s.commit c).outcome ≠ .error (.refused (.negativeAggregate i)) := by
  intro h
  obtain ⟨⟨f, hf, hid⟩, hdrift⟩ := hs.repairable.negative_owned hc h
  exact hdrift (hs.drift?_eq_zero (hid ▸ hs.owned _ f (hc.stored.trans hf)))

theorem commit_refused (hs : s.Balanced) (hc : s.Turns c before after)
    (hcurrent : s.farms[c.write.farmId]?.map Farm.version = c.write.expected?) {e : StoreError}
    (h : (s.commit c).outcome = .error (.refused e)) :
    (∃ g, after = some g ∧ g.farmerId ∉ s.farmers ∧ e = .farmerNotFound g.farmerId) ∨
      ∃ i, e = .query (TotalsError.overflow i).message := by
  rcases commit_refused_cases h with ⟨d, hd, hnamed⟩ | husable | hwrite | howner | ⟨_, d, _, f, hslot, hmove⟩
  · obtain ⟨habsent, rfl⟩ := farmerNamed_refused hs.toIntact hnamed
    rcases (hs.ordered_sum hc).2.1 d hd with ⟨g, hg, hid⟩ | ⟨g, hg, hid⟩
    · exact absurd (hid ▸ hs.owned _ g (hc.stored.trans hg)) habsent
    · exact .inl ⟨g, hg, hid ▸ habsent, congrArg StoreError.farmerNotFound hid.symm⟩
  · rw [usableFarms_of_intact hs.toIntact] at husable
    cases husable
  · rw [checkWrite_eq_ok_iff.mpr hcurrent] at hwrite
    cases hwrite
  · rw [checkOwner, hc.written] at howner
    cases after with
    | none => cases howner
    | some g =>
      change (if s.farmers.contains g.farmerId then _ else _) = _ at howner
      split at howner
      · cases howner
      · rename_i habsent
        exact .inl ⟨g, rfl, mt Std.ExtTreeMap.contains_iff_mem.mpr habsent, (Except.error.inj howner).symm⟩
  · have hid : d.farmerId = f.id := (hs.slotId _ _ hslot).symm
    rcases moveTotals_refused hid hmove with rfl | rfl
    · exact absurd h (hs.commit_ne_negative hc f.id)
    · exact .inr ⟨f.id, rfl⟩

theorem ext (hs : s.Balanced) (ht : t.Balanced) (hfarms : ∀ i : FarmId, t.farms[i]? = s.farms[i]?)
    (hfarmers : ∀ i, i ∈ t.farmers ↔ i ∈ s.farmers) : t = s := by
  have hsame : t.farms = s.farms := Std.ExtTreeMap.ext_getElem? hfarms
  have hholding : ∀ i, t.holding i = s.holding i :=
    fun i => congrArg (fun farms => Farm.holding i (farmsOf farms)) hsame
  have hslots : t.farmers = s.farmers := by
    apply Std.ExtTreeMap.ext_getElem?
    intro i
    cases hi : s.farmers[i]? with
    | none =>
      have habsent : i ∉ t.farmers := by
        intro hmem
        obtain ⟨slot, hslot⟩ := mem_iff_exists_getElem?.mp ((hfarmers i).mp hmem)
        rw [hi] at hslot
        cases hslot
      exact Std.ExtTreeMap.getElem?_eq_none habsent
    | some slot =>
      obtain ⟨held, hheld⟩ := mem_iff_exists_getElem?.mp ((hfarmers i).mpr (mem_iff_exists_getElem?.mpr ⟨slot, hi⟩))
      have hid : held.farmer.id = slot.farmer.id := (ht.slotId i held hheld).trans (hs.slotId i slot hi).symm
      have hstanding : held.farmer.standing = slot.farmer.standing := by
        rw [ht.exact i held hheld, hholding, hs.exact i slot hi]
      have hfarmer : held.farmer = slot.farmer := Farmer.ext_standing hid hstanding
      have hpoisoned : held.poisoned = slot.poisoned :=
        (ht.slotUsable i held hheld).trans (hs.slotUsable i slot hi).symm
      rw [hheld]
      exact congrArg some (congrArg₂ FarmerSlot.mk hfarmer hpoisoned)
  obtain ⟨farms, farmers, farmsPoisoned⟩ := t
  obtain ⟨farms', farmers', farmsPoisoned'⟩ := s
  obtain rfl : farms = farms' := hsame
  obtain rfl : farmers = farmers' := hslots
  exact congrArg (MemoryStore.mk farms farmers) (ht.farmsUsable.trans hs.farmsUsable.symm)

end Balanced

end MemoryStore

end FarmRegistry
