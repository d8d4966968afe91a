import FarmRegistry.Proofs.Order.Collections
import FarmRegistry.Store.Memory

namespace FarmRegistry

theorem Write.farm?_id {w : Write} {f : Farm} (h : w.farm? = some f) : f.id = w.farmId := by
  cases w with
  | insert g => exact congrArg Farm.id (Option.some.inj h).symm
  | update g v => exact congrArg Farm.id (Option.some.inj h).symm
  | remove i v => cases h

namespace MemoryStore

section Writing

variable {s : MemoryStore} {c : Change} {moved : List Farmer} {i : FarmerId}

theorem putFarmer_getElem? (g : Farmer) :
    (s.putFarmer g).farmers[i]? = if g.id = i then some ⟨g, false⟩ else s.farmers[i]? :=
  insert_getElem? i

theorem foldl_putFarmer_farms : (moved.foldl putFarmer s).farms = s.farms := by
  induction moved generalizing s with
  | nil => rfl
  | cons g moved ih => exact ih

theorem foldl_putFarmer_farmsPoisoned : (moved.foldl putFarmer s).farmsPoisoned = s.farmsPoisoned := by
  induction moved generalizing s with
  | nil => rfl
  | cons g moved ih => exact ih

theorem foldl_putFarmer_absent (h : ∀ g ∈ moved, g.id ≠ i) :
    (moved.foldl putFarmer s).farmers[i]? = s.farmers[i]? := by
  induction moved generalizing s with
  | nil => rfl
  | cons g moved ih =>
    obtain ⟨hg, hrest⟩ := List.forall_mem_cons.mp h
    rw [List.foldl_cons, ih hrest, putFarmer_getElem?, if_neg hg]

theorem foldl_putFarmer_mem (hd : (moved.map Farmer.id).Nodup) {g : Farmer} (h : g ∈ moved) :
    (moved.foldl putFarmer s).farmers[g.id]? = some ⟨g, false⟩ := by
  induction moved generalizing s with
  | nil => cases h
  | cons e moved ih =>
    rw [List.map_cons, List.nodup_cons] at hd
    rw [List.foldl_cons]
    rcases List.mem_cons.mp h with rfl | h
    · have hrest : ∀ e ∈ moved, e.id ≠ g.id := by
        intro e he hid
        exact hd.1 (hid ▸ List.mem_map_of_mem he)
      rw [foldl_putFarmer_absent hrest, putFarmer_getElem?, if_pos rfl]
    · exact ih hd.2 h

theorem writeFarm_farms (w : Write) (j : FarmId) :
    (s.writeFarm w).farms[j]? = if w.farmId = j then w.farm? else s.farms[j]? := by
  cases w with
  | insert f => exact insert_getElem? j
  | update f v => exact insert_getElem? j
  | remove k v => exact erase_getElem? j

theorem writeFarm_farmers (w : Write) : (s.writeFarm w).farmers = s.farmers := by
  cases w <;> rfl

theorem writeFarm_farmsPoisoned (w : Write) : (s.writeFarm w).farmsPoisoned = s.farmsPoisoned := by
  cases w <;> rfl

theorem commit_ok {moved : List Farmer} (h : s.prepare c = .ok moved) :
    (s.commit c).outcome = .ok () ∧ (s.commit c).state = moved.foldl putFarmer (s.writeFarm c.write) := by
  rw [commit, h]
  exact ⟨rfl, rfl⟩

theorem commit_refused {e : StoreError} (h : s.prepare c = .error e) :
    (s.commit c).outcome = .error (.refused e) ∧ (s.commit c).state = s := by
  rw [commit, h]
  exact ⟨rfl, rfl⟩

theorem commit_cases (s : MemoryStore) (c : Change) :
    (∃ moved, s.prepare c = .ok moved ∧ (s.commit c).outcome = .ok () ∧
      (s.commit c).state = moved.foldl putFarmer (s.writeFarm c.write)) ∨
    ∃ e, s.prepare c = .error e ∧ (s.commit c).outcome = .error (.refused e) ∧ (s.commit c).state = s := by
  cases h : s.prepare c with
  | ok moved => exact .inl ⟨moved, rfl, commit_ok h⟩
  | error e => exact .inr ⟨e, rfl, commit_refused h⟩

end Writing

theorem farmerNamed_eq_ok_iff {s : MemoryStore} {i : FarmerId} {f : Farmer} :
    s.farmerNamed i = .ok f ↔ s.farmers[i]? = some ⟨f, false⟩ := by
  unfold farmerNamed usable
  cases s.farmers[i]? with
  | none => simp
  | some slot =>
    obtain ⟨g, poisoned⟩ := slot
    cases poisoned <;> simp

structure Keyed (s : MemoryStore) : Prop where
  farmId : ∀ (i : FarmId) (f : Farm), s.farms[i]? = some f → f.id = i
  slotId : ∀ (i : FarmerId) (slot : FarmerSlot), s.farmers[i]? = some slot → slot.farmer.id = i

namespace Keyed

variable {s : MemoryStore}

theorem empty : MemoryStore.empty.Keyed := by
  refine ⟨?_, ?_⟩ <;> intro i x h <;> cases h

theorem insertSlot (hs : s.Keyed) (farmsPoisoned : Bool) {i : FarmerId} {slot : FarmerSlot} (hi : slot.farmer.id = i) :
    Keyed ⟨s.farms, s.farmers.insert i slot, farmsPoisoned⟩ := by
  refine ⟨hs.farmId, ?_⟩
  intro j held hj
  change (s.farmers.insert i slot)[j]? = some held at hj
  rw [insert_getElem?] at hj
  split at hj
  · rename_i hij
    exact Option.some.inj hj ▸ hi.trans hij
  · exact hs.slotId j held hj

theorem putFarmer (hs : s.Keyed) (g : Farmer) : (s.putFarmer g).Keyed :=
  hs.insertSlot s.farmsPoisoned rfl

theorem foldl_putFarmer (hs : s.Keyed) (moved : List Farmer) : (moved.foldl MemoryStore.putFarmer s).Keyed := by
  induction moved generalizing s with
  | nil => exact hs
  | cons g moved ih => exact ih (hs.putFarmer g)

theorem writeFarm (hs : s.Keyed) (w : Write) : (s.writeFarm w).Keyed := by
  refine ⟨?_, ?_⟩
  · intro i f h
    rw [writeFarm_farms] at h
    split at h
    · rename_i hi
      exact (Write.farm?_id h).trans hi
    · exact hs.farmId i f h
  · intro i slot h
    rw [writeFarm_farmers] at h
    exact hs.slotId i slot h

theorem commit (hs : s.Keyed) (c : Change) : (s.commit c).state.Keyed := by
  rcases commit_cases s c with ⟨moved, _, _, hstate⟩ | ⟨e, _, _, hstate⟩
  · rw [hstate]
    exact (hs.writeFarm c.write).foldl_putFarmer moved
  · rw [hstate]
    exact hs

theorem registerFarmer (hs : s.Keyed) (i : FarmerId) : (s.registerFarmer i).state.Keyed := by
  unfold MemoryStore.registerFarmer
  split
  · exact hs
  · exact hs.putFarmer _

theorem reconcileFarmer (hs : s.Keyed) (i : FarmerId) : (s.reconcileFarmer i).state.Keyed := by
  unfold MemoryStore.reconcileFarmer
  split
  · exact hs
  · exact hs
  · rename_i farmer farms hnamed _
    split
    · exact hs.putFarmer _
    · have hid : farmer.id = i := hs.slotId i _ (farmerNamed_eq_ok_iff.mp hnamed)
      exact hs.insertSlot true hid

theorem call (hs : s.Keyed) (c : Call) : (store c s).state.Keyed := by
  cases c with
  | registerFarmer i => exact hs.registerFarmer i
  | commit c => exact hs.commit c
  | reconcileFarmer i => exact hs.reconcileFarmer i
  | findFarm i => exact hs
  | findFarmer i => exact hs
  | listActiveFarms b => exact hs
  | rebuildIndex => exact hs

end Keyed

/-- A store in which no lock is poisoned. -/
structure Intact (s : MemoryStore) : Prop extends Keyed s where
  farmsUsable : s.farmsPoisoned = false
  slotUsable : ∀ (i : FarmerId) (slot : FarmerSlot), s.farmers[i]? = some slot → slot.poisoned = false

namespace Intact

variable {s : MemoryStore}

theorem empty : MemoryStore.empty.Intact := by
  refine ⟨Keyed.empty, rfl, ?_⟩
  intro i slot h
  cases h

theorem putFarmer (hs : s.Intact) (g : Farmer) : (s.putFarmer g).Intact := by
  refine ⟨hs.toKeyed.putFarmer g, hs.farmsUsable, ?_⟩
  intro i slot h
  rw [putFarmer_getElem?] at h
  split at h
  · exact Option.some.inj h ▸ rfl
  · exact hs.slotUsable i slot h

theorem foldl_putFarmer (hs : s.Intact) (moved : List Farmer) : (moved.foldl MemoryStore.putFarmer s).Intact := by
  induction moved generalizing s with
  | nil => exact hs
  | cons g moved ih => exact ih (hs.putFarmer g)

theorem writeFarm (hs : s.Intact) (w : Write) : (s.writeFarm w).Intact := by
  refine ⟨hs.toKeyed.writeFarm w, ?_, ?_⟩
  · rw [writeFarm_farmsPoisoned]
    exact hs.farmsUsable
  · intro i slot h
    rw [writeFarm_farmers] at h
    exact hs.slotUsable i slot h

theorem commit (hs : s.Intact) (c : Change) : (s.commit c).state.Intact := by
  rcases commit_cases s c with ⟨moved, _, _, hstate⟩ | ⟨e, _, _, hstate⟩
  · rw [hstate]
    exact (hs.writeFarm c.write).foldl_putFarmer moved
  · rw [hstate]
    exact hs

end Intact

end MemoryStore

end FarmRegistry
