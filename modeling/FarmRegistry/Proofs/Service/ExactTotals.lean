import FarmRegistry.Proofs.Service.Operations
import FarmRegistry.Proofs.Store.Balance

namespace FarmRegistry

open Work

namespace MemoryStore

section Advances

variable {s t : MemoryStore} {policy : OverlapPolicy} {m : Intent} {now : Timestamp} {c : Change}

theorem current_stored (hs : s.Intact) (hm : ∀ f, m ≠ .create f) {farm : Option Farm}
    (hread : s.current m = .ok farm) {f : Farm} (hf : farm = some f) : s.farms[f.id]? = some f := by
  have hfind : ∀ i : FarmId, s.findFarm i = .ok farm → s.farms[f.id]? = some f := by
    intro i hi
    rw [findFarm_of_intact hs] at hi
    have hstored : s.farms[i]? = some f := (Except.ok.inj hi).trans hf
    rw [hs.farmId i f hstored]
    exact hstored
  cases m with
  | create g => exact absurd rfl (hm g)
  | _ => exact hfind _ hread

theorem turns_of_planned (hs : s.Sound) (hm : m.Requested) {farm result : Option Farm}
    (hread : s.current m = .ok farm) (hplan : m.Planned now farm c result)
    (hcurrent : s.farms[c.write.farmId]?.map Farm.version = c.write.expected?) : ∃ before, s.Turns c before result := by
  rcases hplan.kinds with ⟨f, rfl, rfl, hc⟩ | ⟨f, g, hne, hf, rfl, hrev, hc⟩ | ⟨f, i, rfl, hf, rfl, hc⟩
  · obtain ⟨i, owner, p, metadata, moment, rfl⟩ := hm f rfl
    exact ⟨none, insert_turns (Area.ofPolygon_val_nonneg p) hc hcurrent⟩
  · have hstored := current_stored hs.toIntact hne hread hf
    have harea := hrev.area_nonneg (hs.areas _ f hstored)
    exact ⟨some f, update_turns hrev.id_version.1 harea hc hstored⟩
  · have hstored := current_stored (m := .erase i) hs.toIntact (fun _ => nofun) hread hf
    exact ⟨some f, remove_turns hc hstored⟩

theorem Balanced.advances (hs : s.Balanced) (h : s.Advances policy t) : t.Balanced := by
  cases h with
  | register i => exact hs.registerFarmer i
  | reconcile i =>
    rw [hs.reconcile_state i]
    exact hs
  | commit hm hread hplan hground hcommit =>
    have hcurrent := ((commit_eq_ok_iff hs.toIntact).mp hcommit).current
    obtain ⟨before, hturns⟩ := turns_of_planned hs.toSound hm hread hplan hcurrent
    exact hs.commit hturns hcommit

end Advances

end MemoryStore

namespace Service

variable (config : ServiceConfig) (jitter : Jitter) (clock : Nat → Timestamp)

theorem after_balanced (ops : List Operation) :
    ((MemoryStore.service config jitter clock).after (.ofStore .empty) ops).store.Balanced :=
  after_keeps (fun _ _ hs h => hs.advances h) MemoryStore.Balanced.empty ops

theorem reconcile_balanced {w : World MemoryStore} (hw : w.store.Balanced) (i : FarmerId) :
    (((MemoryStore.service config jitter clock).reconcileFarmer i).outcome w).1 =
        w.store.farmers[i]?.elim (.error (.refused (.farmerNotFound i))) (.ok ∘ FarmerSlot.farmer) ∧
      (((MemoryStore.service config jitter clock).reconcileFarmer i).outcome w).2.store = w.store := by
  have hask : ((MemoryStore.service config jitter clock).ask (.reconcileFarmer i)).outcome w =
      ((w.store.reconcileFarmer i).outcome, { w with
        store := (w.store.reconcileFarmer i).state
        events := w.events ++ (w.store.reconcileFarmer i).events }) := outcome_ask _ _ w
  unfold reconcileFarmer
  rw [outcome_bind, outcome_adapt, hask]
  cases hi : w.store.farmers[i]? with
  | none =>
    rw [MemoryStore.Balanced.reconcile_absent hi]
    exact ⟨rfl, rfl⟩
  | some slot =>
    rw [hw.reconcile_registered hi]
    exact ⟨rfl, rfl⟩

/-- After any run of a service over an empty store, whether its operations succeed or fail, every farm has a registered
owner, every farmer's totals are those of the farmer's active farms, and there is nothing to reconcile. -/
theorem totals_exact (ops : List Operation) :
    let w := (MemoryStore.service config jitter clock).after (.ofStore .empty) ops
    (∀ (i : FarmId) (f : Farm), w.store.farms[i]? = some f → f.farmerId ∈ w.store.farmers) ∧
      (∀ (i : FarmerId) (slot : FarmerSlot), w.store.farmers[i]? = some slot →
        slot.farmer.standing = w.store.holding i ∧ 0 ≤ slot.farmer.totalArea.val) ∧
      ∀ i : FarmerId,
        (((MemoryStore.service config jitter clock).reconcileFarmer i).outcome w).1 =
            w.store.farmers[i]?.elim (.error (.refused (.farmerNotFound i))) (.ok ∘ FarmerSlot.farmer) ∧
          (((MemoryStore.service config jitter clock).reconcileFarmer i).outcome w).2.store = w.store := by
  intro w
  have hw := after_balanced config jitter clock ops
  refine ⟨hw.owned, ?_, reconcile_balanced config jitter clock hw⟩
  intro i slot hi
  have hexact := hw.exact i slot hi
  have harea : slot.farmer.totalArea.val = (w.store.holding i).1 := congrArg Prod.fst hexact
  refine ⟨hexact, ?_⟩
  rw [harea]
  exact (Farm.holding_nonneg i hw.farmsOf_nonneg).1

end Service

end FarmRegistry
