import FarmRegistry.Proofs.Cadastre.Ground
import FarmRegistry.Proofs.Service.MemoryRuns

namespace FarmRegistry

open MemoryStore

theorem Farm.nextVersion_successor {f : Farm} (h : f.version.val < 9223372036854775807) (now : Timestamp) :
    f.nextVersion now = .ok { f with version := f.successor, updatedAt := now } := by
  obtain ⟨g, hg⟩ := f.exists_nextVersion now h
  obtain ⟨v, hv, rfl⟩ := nextVersion_eq_ok hg
  have hnext : (Bounded.ofInt? (f.version.val + 1) : Option Signed64) = some v := Bounded.ofInt?_eq_some_iff.mpr hv
  rw [hg, successor, hnext, Option.getD_some]

namespace MemoryStore

variable {s t : MemoryStore} {c : Change} {before : Option Farm} {g : Farm}

theorem mem_cadastre {i : FarmerId} : i ∈ s.cadastre.farmers ↔ i ∈ s.farmers := by
  rw [cadastre, List.mem_toFinset, Std.ExtTreeMap.mem_keys]

theorem cadastre_eq {d : Cadastre} (hfarmers : ∀ i, i ∈ t.farmers ↔ i ∈ d.farmers) (hfarms : t.farms = d.farms) :
    t.cadastre = d := by
  obtain ⟨farmers, farms⟩ := d
  have hsame : t.cadastre.farmers = farmers := Finset.ext fun i => mem_cadastre.trans (hfarmers i)
  exact congrArg₂ Cadastre.mk hsame hfarms

theorem commit_state_farms (hok : (s.commit c).outcome = .ok ()) :
    (s.commit c).state.farms = (s.writeFarm c.write).farms := by
  rcases commit_cases s c with ⟨moved, _, _, hstate⟩ | ⟨e, _, herror, _⟩
  · rw [hstate, foldl_putFarmer_farms]
  · rw [herror] at hok
    cases hok

theorem farmerNamed_refused (hs : s.Intact) {i : FarmerId} {e : StoreError} (h : s.farmerNamed i = .error e) :
    i ∉ s.farmers ∧ e = .farmerNotFound i := by
  cases hslot : s.farmers[i]? with
  | none =>
    rw [farmerNamed, hslot] at h
    refine ⟨?_, (Except.error.inj h).symm⟩
    intro hi
    obtain ⟨slot, hheld⟩ := mem_iff_exists_getElem?.mp hi
    rw [hslot] at hheld
    cases hheld
  | some slot =>
    obtain ⟨f, poisoned⟩ := slot
    obtain rfl : poisoned = false := hs.slotUsable i _ hslot
    rw [farmerNamed_eq_ok_iff.mpr hslot] at h
    cases h

theorem Sound.commit_unregistered (hs : s.Sound) (hc : s.Turns c before (some g))
    (hcurrent : s.farms[c.write.farmId]?.map Farm.version = c.write.expected?) (hg : g.farmerId ∉ s.farmers) :
    (s.commit c).outcome = .error (.refused (.farmerNotFound g.farmerId)) := by
  have hprepare : s.prepare c = .error (.farmerNotFound g.farmerId) := by
    rw [prepare]
    apply bind_eq_error_iff.mpr
    cases hnamed : c.deltas.mapM fun d => s.farmerNamed d.farmerId with
    | error e =>
      obtain ⟨d, hd, hrefused⟩ := mapM_eq_error hnamed
      obtain ⟨habsent, rfl⟩ := farmerNamed_refused hs.toIntact hrefused
      refine .inl (congrArg (Except.error ∘ StoreError.farmerNotFound) ?_)
      rcases (hs.ordered_sum hc).2.1 d hd with ⟨f, hf, hid⟩ | ⟨f, hf, hid⟩
      · exact absurd (hid ▸ hs.owned _ f (hc.stored.trans hf)) habsent
      · exact hid.symm.trans (congrArg Farm.farmerId (Option.some.inj hf)).symm
    | ok farmers =>
      have howner : s.checkOwner c.write = .error (.farmerNotFound g.farmerId) := by
        rw [checkOwner, hc.written]
        exact if_neg (mt Std.ExtTreeMap.contains_iff_mem.mp hg)
      refine .inr ⟨farmers, rfl, bind_eq_error_iff.mpr (.inr ⟨s.farms, usableFarms_of_intact hs.toIntact, ?_⟩)⟩
      apply bind_eq_error_iff.mpr
      exact .inr ⟨(), checkWrite_eq_ok_iff.mpr hcurrent, bind_eq_error_iff.mpr (.inl howner)⟩
  exact (commit_refused hprepare).1

theorem Balanced.commit_cadastre {after : Option Farm} (hs : s.Balanced) (hc : s.Turns c before after)
    (hok : (s.commit c).outcome = .ok ()) :
    (s.commit c).state.cadastre = { s.cadastre with farms := (s.writeFarm c.write).farms } := by
  apply cadastre_eq
  · intro i
    exact (hs.commit_farmers hc hok i).trans mem_cadastre.symm
  · exact commit_state_farms hok

theorem Balanced.commit_put (hs : s.Balanced) (hc : s.Turns c before (some g))
    (hcurrent : s.farms[c.write.farmId]?.map Farm.version = c.write.expected?)
    (hwrite : (s.writeFarm c.write).farms = s.farms.insert g.id g) (hg : g.farmerId ∈ s.farmers)
    (hfits : ∀ i, Totals.Fits (Farm.holding i (farmsOf (s.farms.insert g.id g)))) :
    (s.commit c).outcome = .ok () ∧
      (s.commit c).state.cadastre = { s.cadastre with farms := s.farms.insert g.id g } := by
  have hok : (s.commit c).outcome = .ok () := by
    rw [hc.stored] at hcurrent
    refine (commit_eq_ok_iff hs.toIntact).mpr (hs.admits hc hcurrent ?_ ?_)
    · intro f hf
      exact Option.some.inj hf ▸ hg
    · intro i _
      have hmoved := holding_writeFarm s c.write i
      rw [hc.written, hc.stored, holding, hwrite] at hmoved
      exact hmoved ▸ hfits i
  exact ⟨hok, hwrite ▸ hs.commit_cadastre hc hok⟩

theorem Balanced.summed_eq (hs : s.Balanced) {i : FarmerId} {slot : FarmerSlot} (h : s.farmers[i]? = some slot) :
    s.cadastre.summed i = .ok slot.farmer := by
  obtain ⟨sums, hsums, hsame⟩ := hs.ofFarms_registered h
  rw [Cadastre.summed, cadastre, hsums, ← hsame]
  rfl

theorem registerFarmer_slot (hs : s.Intact) (i : FarmerId) :
    ∃ f, (s.registerFarmer i).outcome = .ok f ∧ (s.registerFarmer i).state.farmers[i]? = some ⟨f, false⟩ ∧
      ∀ j, j ∈ (s.registerFarmer i).state.farmers ↔ j = i ∨ j ∈ s.farmers := by
  unfold registerFarmer
  cases hi : s.farmers[i]? with
  | some slot =>
    obtain ⟨f, poisoned⟩ := slot
    obtain rfl : poisoned = false := hs.slotUsable i _ hi
    have hmem : i ∈ s.farmers := mem_iff_exists_getElem?.mpr ⟨_, hi⟩
    refine ⟨f, rfl, hi, fun j => ⟨.inr, ?_⟩⟩
    rintro (rfl | hj)
    · exact hmem
    · exact hj
  | none =>
    refine ⟨.new i, rfl, (putFarmer_getElem? _).trans (if_pos rfl), ?_⟩
    intro j
    refine Std.ExtTreeMap.mem_insert.trans (or_congr_left ?_)
    rw [Std.compare_eq_iff_eq]
    exact eq_comm

theorem groundFor_taking (hs : s.Intact) {policy : OverlapPolicy} {m : Intent} (hm : m.mayTakeGround) (g : Farm) :
    s.groundFor policy m (some g) =
      if s.cadastre.inTheWay policy g = [] then .ok ()
      else .error (.overlapConflict (s.cadastre.inTheWay policy g)) := by
  have hmeets : s.meets g = .ok (s.cadastre.meeting g.polygon (some g.id)) := by
    rw [meets, listActiveFarms_of_intact hs]
    exact congrArg Except.ok (overlapping_eq_meeting hs.toKeyed)
  rw [groundFor, if_pos hm, Option.filter_some]
  by_cases hactive : g.isActive
  · rw [if_pos hactive, Option.elim_some, ground, hmeets]
    by_cases hreject : policy = .reject
    · have hway : s.cadastre.inTheWay policy g = s.cadastre.meeting g.polygon (some g.id) := if_pos ⟨hreject, hactive⟩
      rw [if_pos hreject, hway]
      cases s.cadastre.meeting g.polygon (some g.id) <;> rfl
    · have hway : s.cadastre.inTheWay policy g = [] := if_neg fun h => hreject h.1
      rw [if_neg hreject, hway, if_pos rfl]
  · have hway : s.cadastre.inTheWay policy g = [] := if_neg fun h => hactive h.2
    rw [if_neg hactive, hway, if_pos rfl, Option.elim_none]

end MemoryStore

end FarmRegistry
