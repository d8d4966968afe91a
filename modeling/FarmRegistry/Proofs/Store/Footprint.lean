import FarmRegistry.Proofs.Store.Balance

namespace FarmRegistry

namespace MemoryStore

variable {s t : MemoryStore} {i : FarmerId}

theorem farmList_eq_ok_iff {farms : List Farm} :
    s.farmList = .ok farms ↔ s.farmsPoisoned = false ∧ farmsOf s.farms = farms := by
  unfold farmList usableFarms
  cases s.farmsPoisoned <;> simp [Except.map, farmsOf]

theorem reconcileFarmer_cases (s : MemoryStore) (i : FarmerId) :
    (∃ sums, i ∈ s.farmers ∧ Totals.ofFarms i (farmsOf s.farms) = .ok sums ∧
        s.reconcileFarmer i = .ok (.reconciled i sums) (s.putFarmer (.reconciled i sums))) ∨
      (∃ e, s.reconcileFarmer i = .refused e s) ∨
      ∃ farmer o, s.farmers[i]? = some ⟨farmer, false⟩ ∧ s.reconcileFarmer i = ⟨.error (.overflow o),
        { s with farmers := s.farmers.insert i ⟨farmer, true⟩, farmsPoisoned := true }, []⟩ := by
  unfold reconcileFarmer
  cases hnamed : s.farmerNamed i with
  | error e => exact .inr (.inl ⟨e, rfl⟩)
  | ok farmer =>
    have hslot := farmerNamed_eq_ok_iff.mp hnamed
    cases hlist : s.farmList with
    | error e => exact .inr (.inl ⟨e, rfl⟩)
    | ok farms =>
      obtain ⟨_, rfl⟩ := farmList_eq_ok_iff.mp hlist
      cases hsums : Totals.ofFarms i (farmsOf s.farms) with
      | ok sums => exact .inl ⟨sums, mem_iff_exists_getElem?.mpr ⟨_, hslot⟩, rfl, by simp only [hsums]⟩
      | error o => exact .inr (.inr ⟨farmer, o, hslot, by simp only [hsums]⟩)

theorem reconcileFarmer_farms (s : MemoryStore) (i : FarmerId) : (s.reconcileFarmer i).state.farms = s.farms := by
  rcases reconcileFarmer_cases s i with ⟨sums, _, _, h⟩ | ⟨e, h⟩ | ⟨farmer, o, _, h⟩ <;> rw [h] <;> rfl

theorem reconcileFarmer_others {j : FarmerId} (hj : j ≠ i) :
    (s.reconcileFarmer i).state.farmers[j]? = s.farmers[j]? := by
  rcases reconcileFarmer_cases s i with ⟨sums, _, _, h⟩ | ⟨e, h⟩ | ⟨farmer, o, _, h⟩
  · rw [h]
    exact (putFarmer_getElem? _).trans (if_neg hj.symm)
  · rw [h]
    rfl
  · rw [h]
    exact (insert_getElem? j).trans (if_neg hj.symm)

structure Spares (s t : MemoryStore) (repaired : List FarmerId) : Prop where
  farms : t.farms = s.farms
  farmers : ∀ i, i ∈ t.farmers ↔ i ∈ s.farmers
  kept : ∀ i, i ∉ repaired → t.farmers[i]? = s.farmers[i]?
  summed : ∀ i ∈ repaired, t.farmers[i]? = s.farmers[i]? ∨
    ∃ sums, Totals.ofFarms i (farmsOf s.farms) = .ok sums ∧ t.farmers[i]? = some ⟨.reconciled i sums, false⟩
  farmsPoisoned : t.farmsPoisoned = s.farmsPoisoned

theorem Spares.refl (s : MemoryStore) (repaired : List FarmerId) : s.Spares s repaired :=
  ⟨rfl, fun _ => Iff.rfl, fun _ _ => rfl, fun _ _ => .inl rfl, rfl⟩

theorem reconcileFarmer_spares (h : ∀ o, (s.reconcileFarmer i).outcome ≠ .error (.overflow o)) :
    s.Spares (s.reconcileFarmer i).state [i] := by
  rcases reconcileFarmer_cases s i with ⟨sums, hi, hsums, hput⟩ | ⟨e, hrefused⟩ | ⟨farmer, o, _, hover⟩
  · have hself : (s.putFarmer (.reconciled i sums)).farmers[i]? = some ⟨.reconciled i sums, false⟩ :=
      (putFarmer_getElem? _).trans (if_pos rfl)
    rw [hput]
    refine ⟨rfl, ?_, ?_, ?_, rfl⟩
    · intro j
      refine Std.ExtTreeMap.mem_insert.trans ⟨?_, .inr⟩
      rintro (hij | hj)
      · exact Std.LawfulEqCmp.eq_of_compare hij ▸ hi
      · exact hj
    · intro j hj
      exact (putFarmer_getElem? _).trans (if_neg fun hij => hj (List.mem_singleton.mpr hij.symm))
    · intro j hj
      obtain rfl := List.mem_singleton.mp hj
      exact .inr ⟨sums, hsums, hself⟩
  · rw [hrefused]
    exact .refl s [i]
  · exact absurd (congrArg Reply.outcome hover) (h o)

end MemoryStore

end FarmRegistry
