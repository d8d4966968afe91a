import FarmRegistry.Proofs.Store.Commit
import FarmRegistry.Proofs.Store.Footprint

namespace FarmRegistry

namespace MemoryStore

inductive Use where
  | call (c : Call)
  | seed (farmer : Farmer)
  | allFarms
  | allFarmers

namespace Use

abbrev Answer : Use → Type
  | call c => c.Answer
  | seed _ => Unit
  | allFarms => List Farm
  | allFarmers => List Farmer

def entry (i : FarmerId) : Use → Option Farmer → Option Farmer
  | call (.registerFarmer j), none => if j = i then some (.new i) else none
  | seed f, g => if f.id = i then some f else g
  | _, g => g

end Use

def serve : (u : Use) → (s : MemoryStore) → Reply MemoryStore u.Answer
  | .call c, s => store c s
  | .seed f, s => .ok () (s.putFarmer f)
  | .allFarms, s => .ofExcept s.farmList s
  | .allFarmers, s => .ofExcept s.farmerList s

structure Frozen (farms : Std.ExtTreeMap FarmId Farm) (t : MemoryStore) : Prop where
  unmoved : t.farms = farms
  poisoned : t.farmsPoisoned = true

namespace Frozen

variable {farms : Std.ExtTreeMap FarmId Farm} {t : MemoryStore}

theorem usableFarms (ht : t.Frozen farms) : t.usableFarms = .error poisonedError :=
  if_pos ht.poisoned

theorem farmList (ht : t.Frozen farms) : t.farmList = .error poisonedError := by
  unfold MemoryStore.farmList
  rw [ht.usableFarms]
  rfl

theorem findFarm (ht : t.Frozen farms) (i : FarmId) : t.findFarm i = .error poisonedError := by
  unfold MemoryStore.findFarm
  rw [ht.usableFarms]
  rfl

theorem listActiveFarms (ht : t.Frozen farms) (b : Option BoundingBox) :
    t.listActiveFarms b = .error poisonedError := by
  unfold MemoryStore.listActiveFarms
  rw [ht.farmList]
  rfl

theorem commit (ht : t.Frozen farms) (c : Change) :
    ∃ e, (t.commit c).outcome = .error (.refused e) ∧ (t.commit c).state = t := by
  rcases commit_cases t c with ⟨moved, hprepare, _⟩ | ⟨e, _, hrefused⟩
  · -- All farmers of a change may be usable; the farms that come after them are not.
    obtain ⟨_, _, hrest⟩ := bind_eq_ok_iff.mp hprepare
    obtain ⟨_, hfarms, _⟩ := bind_eq_ok_iff.mp hrest
    rw [ht.usableFarms] at hfarms
    cases hfarms
  · exact ⟨e, hrefused⟩

theorem reconcileFarmer (ht : t.Frozen farms) (i : FarmerId) : ∃ e, t.reconcileFarmer i = .refused e t := by
  unfold MemoryStore.reconcileFarmer
  rw [ht.farmList]
  split
  · exact ⟨_, rfl⟩
  · exact ⟨_, rfl⟩
  · rename_i h
    cases h

theorem putFarmer (ht : t.Frozen farms) (f : Farmer) : (t.putFarmer f).Frozen farms :=
  ⟨ht.unmoved, ht.poisoned⟩

theorem serve (ht : t.Frozen farms) (u : Use) : (serve u t).state.Frozen farms := by
  cases u with
  | seed f => exact ht.putFarmer f
  | allFarms => exact ht
  | allFarmers => exact ht
  | call c =>
    cases c with
    | registerFarmer i =>
      change (t.registerFarmer i).state.Frozen farms
      unfold MemoryStore.registerFarmer
      split
      · exact ht
      · exact ht.putFarmer _
    | commit c =>
      obtain ⟨_, _, hstate⟩ := ht.commit c
      change (t.commit c).state.Frozen farms
      rw [hstate]
      exact ht
    | reconcileFarmer i =>
      obtain ⟨_, hrefused⟩ := ht.reconcileFarmer i
      change (t.reconcileFarmer i).state.Frozen farms
      rw [hrefused]
      exact ht
    | findFarm i => exact ht
    | findFarmer i => exact ht
    | listActiveFarms b => exact ht
    | rebuildIndex => exact ht

end Frozen

end MemoryStore

end FarmRegistry
