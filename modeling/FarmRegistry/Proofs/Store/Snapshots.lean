import FarmRegistry.Proofs.Store.Balance
import Mathlib.Logic.Relation

namespace FarmRegistry

open MemoryStore

inductive Change.PlannedFrom (f : Farm) : Change → Prop where
  | update {now : Timestamp} {g : Farm} {c : Change} (hg : f.Revises now g) (hc : Change.update f g = .ok c) :
    PlannedFrom f c
  | remove {c : Change} (hc : Change.remove f = .ok c) : PlannedFrom f c

/-- A store that clients share, every farm that one of them has read, however long ago, and the identifiers under
which farms have been stored. -/
structure SharedStore where
  store : MemoryStore
  snapshots : List Farm
  used : List FarmId

namespace SharedStore

def start : SharedStore :=
  ⟨.empty, [], []⟩

inductive Step : SharedStore → SharedStore → Prop where
  | register (x : SharedStore) (i : FarmerId) :
    Step x { x with store := (MemoryStore.store (.registerFarmer i) x.store).state }
  | read {x : SharedStore} {i : FarmId} {f : Farm}
    (h : (MemoryStore.store (.findFarm i) x.store).outcome = .ok (some f)) :
    Step x { x with snapshots := f :: x.snapshots }
  | insert {x : SharedStore} {i : FarmId} {owner : FarmerId} {p : Polygon} {m : Metadata} {now : Timestamp} {c : Change}
    (hi : i ∉ x.used) (hc : Change.insert (.create i owner p m now) = .ok c)
    (h : (MemoryStore.store (.commit c) x.store).outcome = .ok ()) :
    Step x { x with store := (MemoryStore.store (.commit c) x.store).state, used := i :: x.used }
  | insertRefused {x : SharedStore} {i : FarmId} {owner : FarmerId} {p : Polygon} {m : Metadata} {now : Timestamp}
    {c : Change} (hi : i ∉ x.used) (hc : Change.insert (.create i owner p m now) = .ok c)
    (h : (MemoryStore.store (.commit c) x.store).outcome ≠ .ok ()) :
    Step x { x with store := (MemoryStore.store (.commit c) x.store).state }
  | commit {x : SharedStore} {f : Farm} {c : Change} (hf : f ∈ x.snapshots) (hc : c.PlannedFrom f) :
    Step x { x with store := (MemoryStore.store (.commit c) x.store).state }

def Reachable (x : SharedStore) : Prop :=
  Relation.ReflTransGen Step start x

/-- A snapshot is never newer than the stored farm, and of two with one version both are the same. -/
structure Coherent (x : SharedStore) : Prop where
  balanced : x.store.Balanced
  storedUsed : ∀ (i : FarmId) (f : Farm), x.store.farms[i]? = some f → i ∈ x.used
  readUsed : ∀ f ∈ x.snapshots, f.id ∈ x.used
  areas : ∀ f ∈ x.snapshots, 0 ≤ f.area.val
  older : ∀ f ∈ x.snapshots, ∀ g, x.store.farms[f.id]? = some g →
    f.version.val ≤ g.version.val ∧ (f.version = g.version → f = g)

theorem Coherent.start : Coherent start := by
  refine ⟨Balanced.empty, ?_, ?_, ?_, ?_⟩
  · intro i f h
    cases h
  all_goals
    intro f h
    cases h

section Planned

variable {s : MemoryStore} {f : Farm} {c : Change}

theorem planned_farmId (hc : c.PlannedFrom f) : c.write.farmId = f.id ∧ c.write.expected? = some f.version := by
  cases hc with
  | update hg hc =>
    rw [(Change.update_eq_ok_iff.mp hc).1]
    exact ⟨hg.id_version.1, rfl⟩
  | remove hc =>
    rw [(Change.remove_eq_ok_iff.mp hc).1]
    exact ⟨rfl, rfl⟩

theorem planned_turns (hf : 0 ≤ f.area.val) (hc : c.PlannedFrom f) (hstored : s.farms[f.id]? = some f) :
    ∃ after, s.Turns c (some f) after ∧
      ∀ g, after = some g → g.version.val = f.version.val + 1 := by
  cases hc with
  | @update now g _ hg hc =>
    obtain ⟨hid, hversion⟩ := hg.id_version
    refine ⟨some g, update_turns hid (hg.area_nonneg hf) hc hstored, ?_⟩
    intro h hh
    exact Option.some.inj hh ▸ hversion
  | remove hc =>
    refine ⟨none, remove_turns hc hstored, ?_⟩
    intro h hh
    cases hh

end Planned

namespace Coherent

variable {x y : SharedStore} {f : Farm} {c : Change}

theorem snapshot_stored (hx : Coherent x) (hf : f ∈ x.snapshots) (hc : c.PlannedFrom f)
    (hok : (x.store.commit c).outcome = .ok ()) : x.store.farms[f.id]? = some f := by
  obtain ⟨hid, hexpected⟩ := planned_farmId hc
  have hcurrent := ((commit_eq_ok_iff hx.balanced.toIntact).mp hok).current
  rw [hid, hexpected] at hcurrent
  obtain ⟨g, hg, hversion⟩ := Option.map_eq_some_iff.mp hcurrent
  rw [hg, (hx.older f hf g hg).2 hversion.symm]

theorem register (hx : Coherent x) (i : FarmerId) :
    Coherent { x with store := (x.store.registerFarmer i).state } := by
  have hfarms := registerFarmer_farms x.store i
  refine ⟨hx.balanced.registerFarmer i, ?_, hx.readUsed, hx.areas, ?_⟩
  · simp only [hfarms]
    exact hx.storedUsed
  · simp only [hfarms]
    exact hx.older

theorem read (hx : Coherent x) {i : FarmId} (hf : x.store.farms[i]? = some f) :
    Coherent { x with snapshots := f :: x.snapshots } := by
  obtain rfl : f.id = i := hx.balanced.farmId i f hf
  refine ⟨hx.balanced, hx.storedUsed, ?_, ?_, ?_⟩
  · intro g hg
    rcases List.mem_cons.mp hg with rfl | hg
    · exact hx.storedUsed g.id g hf
    · exact hx.readUsed g hg
  · intro g hg
    rcases List.mem_cons.mp hg with rfl | hg
    · exact hx.balanced.areas g.id g hf
    · exact hx.areas g hg
  · intro g hg h hh
    rcases List.mem_cons.mp hg with rfl | hg
    · obtain rfl := Option.some.inj (hf.symm.trans hh)
      exact ⟨Int.le_refl _, fun _ => rfl⟩
    · exact hx.older g hg h hh

theorem insert (hx : Coherent x) (hi : f.id ∉ x.used) (hf : 0 ≤ f.area.val) (hc : Change.insert f = .ok c)
    (hok : (x.store.commit c).outcome = .ok ()) :
    Coherent { x with store := (x.store.commit c).state, used := f.id :: x.used } := by
  have hadmits := (commit_eq_ok_iff hx.balanced.toIntact).mp hok
  have hturns := insert_turns hf hc hadmits.current
  have hfarms := hx.balanced.commit_farms hturns hok
  have hid : c.write.farmId = f.id := (Write.farm?_id hturns.written).symm
  rw [hid] at hfarms
  refine ⟨hx.balanced.commit hturns hok, ?_, ?_, hx.areas, ?_⟩
  · intro i g hg
    rw [hfarms] at hg
    split at hg
    · rename_i hi
      exact hi ▸ List.mem_cons_self
    · exact List.mem_cons_of_mem _ (hx.storedUsed i g hg)
  · intro g hg
    exact List.mem_cons_of_mem _ (hx.readUsed g hg)
  · intro g hg h hh
    -- The identifier is new, so no snapshot carries it.
    have hne : f.id ≠ g.id := fun he => hi (he ▸ hx.readUsed g hg)
    rw [hfarms, if_neg hne] at hh
    exact hx.older g hg h hh

theorem commit (hx : Coherent x) (hf : f ∈ x.snapshots) (hc : c.PlannedFrom f) :
    Coherent { x with store := (x.store.commit c).state } := by
  by_cases hok : (x.store.commit c).outcome = .ok ()
  · have hs := hx.balanced.toIntact
    have hstored := hx.snapshot_stored hf hc hok
    obtain ⟨after, hturns, hversion⟩ := planned_turns (hx.areas f hf) hc hstored
    have hfarms := hx.balanced.commit_farms hturns hok
    rw [(planned_farmId hc).1] at hfarms
    refine ⟨hx.balanced.commit hturns hok, ?_, hx.readUsed, hx.areas, ?_⟩
    · intro i g hg
      rw [hfarms] at hg
      split at hg
      · rename_i hi
        exact hi ▸ hx.readUsed f hf
      · exact hx.storedUsed i g hg
    · intro g hg h hh
      rw [hfarms] at hh
      split at hh
      · -- The written farm is a version beyond the one it replaces, and that is beyond every snapshot.
        rename_i hid
        have hnew := hversion h hh
        have hold := (hx.older g hg f (hid ▸ hstored)).1
        refine ⟨by omega, ?_⟩
        intro he
        rw [he] at hold
        omega
      · exact hx.older g hg h hh
  · rw [(commit_failed hok).2]
    exact hx

theorem step (hx : Coherent x) (h : Step x y) : Coherent y := by
  cases h with
  | register i => exact hx.register i
  | @read i f h =>
    change (x.store.findFarm i).mapError Stop.refused = .ok (some f) at h
    rw [findFarm_of_intact hx.balanced.toIntact] at h
    exact hx.read (Except.ok.inj h)
  | insert hi hc h => exact hx.insert hi (Area.ofPolygon_val_nonneg _) hc h
  | insertRefused hi hc h =>
    have hsame : (x.store.commit _).state = x.store := (commit_failed h).2
    change Coherent { x with store := (x.store.commit _).state }
    rw [hsame]
    exact hx
  | commit hf hc => exact hx.commit hf hc

theorem reachable (h : Reachable x) : Coherent x := by
  induction h with
  | refl => exact Coherent.start
  | tail _ h ih => exact ih.step h

end Coherent

theorem exists_planned {f : Farm} (hf : 0 ≤ f.area.val) :
    (∀ now g, f.Revises now g → ∃ c, Change.update f g = .ok c) ∧ ∃ c, Change.remove f = .ok c := by
  have hbefore := Farm.areaNonneg_some hf
  refine ⟨?_, ?_⟩
  · intro now g hg
    obtain ⟨ds, hds, _⟩ := TotalsDelta.exists_between hbefore (Farm.areaNonneg_some (hg.area_nonneg hf))
    exact ⟨⟨.update g f.version, ds⟩, Change.update_eq_ok_iff.mpr ⟨rfl, hds⟩⟩
  · obtain ⟨ds, hds, _⟩ := TotalsDelta.exists_between hbefore Farm.areaNonneg_none
    exact ⟨⟨.remove f.id f.version, ds⟩, Change.remove_eq_ok_iff.mpr ⟨rfl, hds⟩⟩

/-- However clients interleave, a change is stored only if the farm is still just as the client had read it; planned
from any other snapshot it is refused and changes nothing; and totals stay exact. -/
theorem no_lost_update {x : SharedStore} (hx : Reachable x) :
    (∀ f ∈ x.snapshots,
      (∀ now g, f.Revises now g → ∃ c, Change.update f g = .ok c) ∧ (∃ c, Change.remove f = .ok c) ∧
      ∀ c : Change, c.PlannedFrom f →
        ((MemoryStore.store (.commit c) x.store).outcome = .ok () → x.store.farms[f.id]? = some f) ∧
        (x.store.farms[f.id]? ≠ some f →
          (∃ e, (MemoryStore.store (.commit c) x.store).outcome = .error (.refused e)) ∧
            (MemoryStore.store (.commit c) x.store).state = x.store)) ∧
      ∀ (i : FarmerId) (slot : FarmerSlot), x.store.farmers[i]? = some slot →
        slot.farmer.standing = x.store.holding i := by
  have hc := Coherent.reachable hx
  refine ⟨?_, hc.balanced.exact⟩
  intro f hf
  obtain ⟨hupdate, hremove⟩ := exists_planned (hc.areas f hf)
  refine ⟨hupdate, hremove, ?_⟩
  intro c hplanned
  refine ⟨hc.snapshot_stored hf hplanned, ?_⟩
  -- A version tells its content, so a change that is taken was planned from what is stored.
  intro hother
  apply commit_failed
  intro hok
  exact hother (hc.snapshot_stored hf hplanned hok)

theorem removed_once :
    ∃ x, Reachable x ∧ parcel ∈ x.snapshots ∧ x.store.farms[parcel.id]? = none ∧
      ∃ c, Change.remove parcel = .ok c ∧ (∃ e, (MemoryStore.store (.commit c) x.store).outcome = .error (.refused e)) ∧
        (MemoryStore.store (.commit c) x.store).state = x.store := by
  have harea : 0 ≤ parcel.area.val := Area.ofPolygon_val_nonneg _
  obtain ⟨ds, hds, _⟩ := TotalsDelta.exists_between Farm.areaNonneg_none (Farm.areaNonneg_some harea)
  obtain ⟨d, hd⟩ := (exists_planned harea).2
  have hc : Change.insert parcel = .ok ⟨.insert parcel, ds⟩ := Change.insert_eq_ok_iff.mpr ⟨rfl, hds⟩
  -- The taker is registered and the parcel stored and read.
  let s := (MemoryStore.store (.registerFarmer taker) .empty).state
  have hs : Reachable ⟨s, [], []⟩ := .tail .refl (.register start taker)
  obtain ⟨hinsert, hstored⟩ : (s.commit ⟨.insert parcel, ds⟩).outcome = .ok () ∧
      (s.commit ⟨.insert parcel, ds⟩).state.farms[parcel.id]? = some parcel := by
    apply (Coherent.reachable hs).balanced.insert_absent harea rfl Std.ExtTreeMap.mem_insert_self _ hc
    intro i _
    have hnothing : s.holding i = 0 := rfl
    rw [hnothing, zero_add]
    exact Totals.fits_share harea i
  let t := (s.commit ⟨.insert parcel, ds⟩).state
  have ht : Reachable ⟨t, [], [parcel.id]⟩ := hs.tail (.insert List.not_mem_nil hc hinsert)
  have hread : (MemoryStore.store (.findFarm parcel.id) t).outcome = .ok (some parcel) := by
    change (t.findFarm parcel.id).mapError Stop.refused = _
    rw [findFarm_of_intact (Coherent.reachable ht).balanced.toIntact, hstored]
    rfl
  -- One client removes it, and the other tries.
  have hremoved := ((Coherent.reachable ht).balanced.remove_stored hstored hd).2
  have hx : Reachable ⟨(t.commit d).state, [parcel], [parcel.id]⟩ :=
    (ht.tail (.read hread)).tail (.commit List.mem_cons_self (.remove hd))
  obtain ⟨_, _, hstale⟩ := (no_lost_update hx).1 parcel List.mem_cons_self
  refine ⟨_, hx, List.mem_cons_self, hremoved, d, hd, (hstale d (.remove hd)).2 ?_⟩
  rw [hremoved]
  exact nofun

end SharedStore

end FarmRegistry
