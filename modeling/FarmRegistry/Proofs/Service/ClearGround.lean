import FarmRegistry.Proofs.Farm.Sweep
import FarmRegistry.Proofs.Service.ExactTotals

namespace FarmRegistry

open Work

namespace MemoryStore

def Clear (s : MemoryStore) : Prop :=
  ∀ (i j : FarmId) (f g : Farm), s.farms[i]? = some f → s.farms[j]? = some g → i ≠ j → f.isActive → g.isActive →
    f.polygon.interiorsOverlap g.polygon = false

def ClearFor (s : MemoryStore) (f : Farm) : Prop :=
  ∀ (i : FarmId) (g : Farm), s.farms[i]? = some g → i ≠ f.id → g.isActive →
    g.polygon.interiorsOverlap f.polygon = false

section Ground

variable {s t : MemoryStore} {f : Farm}

theorem listActiveFarms_of_intact (hs : s.Intact) (b : Option BoundingBox) :
    s.listActiveFarms b =
      .ok ((farmsOf s.farms).filter fun f => f.isActive && b.all f.boundingBox.intersects) := by
  rw [listActiveFarms, farmList_of_intact hs]
  rfl

theorem meets_of_intact (hs : s.Intact) (f : Farm) :
    ∃ ids, s.meets f = .ok ids ∧ ∀ i, i ∈ ids ↔
      ∃ g, s.farms[i]? = some g ∧ i ≠ f.id ∧ g.isActive ∧ g.polygon.interiorsOverlap f.polygon := by
  refine ⟨_, by rw [meets, listActiveFarms_of_intact hs]; rfl, ?_⟩
  intro i
  simp only [Farm.mem_overlapping, List.mem_filter, mem_farmsOf, Bool.and_eq_true, Option.all_some]
  constructor
  · rintro ⟨g, ⟨⟨j, hg⟩, _⟩, rfl, hactive, hother, hground⟩
    refine ⟨g, ?_, fun he => hother (congrArg some he), hactive, hground⟩
    rw [hs.farmId j g hg]
    exact hg
  · rintro ⟨g, hg, hne, hactive, hground⟩
    have hid := hs.farmId i g hg
    have hbox : g.boundingBox.intersects f.boundingBox := by
      rw [Polygon.interiorsOverlap, Bool.and_eq_true] at hground
      exact hground.1
    refine ⟨g, ⟨⟨i, hg⟩, hactive, hbox⟩, hid, hactive, ?_, hground⟩
    intro he
    exact hne (hid.symm.trans (Option.some.inj he))

theorem clearFor_of_ground (hs : s.Intact) (h : s.ground .reject f = .ok ()) : s.ClearFor f := by
  obtain ⟨ids, hmeets, hmem⟩ := meets_of_intact hs f
  have hnone : ids = [] := by
    rw [ground, if_pos rfl, hmeets] at h
    cases ids with
    | nil => rfl
    | cons i is => cases h
  intro i g hg hne hactive
  by_contra hmeet
  rw [Bool.not_eq_false] at hmeet
  have hi : i ∈ ids := (hmem i).mpr ⟨g, hg, hne, hactive, hmeet⟩
  rw [hnone] at hi
  cases hi

theorem Clear.empty : MemoryStore.empty.Clear := by
  intro i j f g hf
  cases hf

theorem Clear.written (hclear : s.Clear) {k : FarmId} {result : Option Farm}
    (hfarms : ∀ i : FarmId, t.farms[i]? = if k = i then result else s.farms[i]?)
    (hresult : ∀ f, result = some f → f.isActive → f.id = k ∧ s.ClearFor f) : t.Clear := by
  intro i j f g hf hg hne hfactive hgactive
  rw [hfarms] at hf hg
  split at hf
  · rename_i hi
    rw [if_neg (hi ▸ hne)] at hg
    obtain ⟨hid, hfree⟩ := hresult f hf hfactive
    rw [Polygon.interiorsOverlap_comm]
    apply hfree j g hg _ hgactive
    rw [hid, hi]
    exact hne.symm
  · split at hg
    · rename_i hj
      obtain ⟨hid, hfree⟩ := hresult g hg hgactive
      apply hfree i f hf _ hfactive
      rw [hid, hj]
      exact hne
    · exact hclear i j f g hf hg hne hfactive hgactive

theorem clearFor_of_planned (hs : s.Intact) (hclear : s.Clear) {m : Intent} {now : Timestamp} {c : Change}
    {farm result : Option Farm} (hread : s.current m = .ok farm) (hplan : m.Planned now farm c result)
    (hground : s.groundFor .reject m result = .ok ()) (hf : result = some f) (hactive : f.isActive) :
    s.ClearFor f := by
  subst hf
  by_cases htake : m.mayTakeGround
  · rw [groundFor, if_pos htake, Option.filter_some, if_pos hactive] at hground
    exact clearFor_of_ground hs hground
  · obtain ⟨before, hbefore, hwas, hid, hpolygon⟩ := hplan.keeps_ground htake hactive
    have hcreate : ∀ g, m ≠ .create g := by
      rintro g rfl
      exact htake rfl
    have hstored := current_stored hs hcreate hread hbefore
    intro i g hg hne hgactive
    rw [← hid] at hne
    rw [← hpolygon]
    exact hclear i before.id g before hg hstored hne hgactive hwas

theorem Clear.advances (hclear : s.Clear) (hs : s.Balanced) (h : s.Advances .reject t) : t.Clear := by
  cases h with
  | register i =>
    have hfarms : (s.registerFarmer i).state.farms = s.farms := registerFarmer_farms s i
    intro j k f g hf hg
    rw [hfarms] at hf hg
    exact hclear j k f g hf hg
  | reconcile i =>
    rw [hs.reconcile_state i]
    exact hclear
  | commit hm hread hplan hground hcommit =>
    have hcurrent := ((commit_eq_ok_iff hs.toIntact).mp hcommit).current
    obtain ⟨before, hturns⟩ := turns_of_planned hs.toSound hm hread hplan hcurrent
    apply hclear.written (hs.commit_farms hturns hcommit)
    intro f hf hactive
    exact ⟨Write.farm?_id (hturns.written.trans hf),
      clearFor_of_planned hs.toIntact hclear hread hplan hground hf hactive⟩

end Ground

end MemoryStore

namespace Service

variable (retry : RetryPolicy) (jitter : Jitter) (clock : Nat → Timestamp)

theorem allOverlaps_clear {config : ServiceConfig} {w : World MemoryStore} (hs : w.store.Intact)
    (hclear : w.store.Clear) :
    ((MemoryStore.service config jitter clock).allOverlaps.outcome w).1 = .ok [] := by
  have hnone : Farm.allOverlaps ((MemoryStore.farmsOf w.store.farms).filter fun f => f.isActive && true) = [] := by
    apply Farm.allOverlaps_eq_nil
    intro f hf g hg hfactive hgactive hne
    obtain ⟨i, hi⟩ := MemoryStore.mem_farmsOf.mp (List.mem_of_mem_filter hf)
    obtain ⟨j, hj⟩ := MemoryStore.mem_farmsOf.mp (List.mem_of_mem_filter hg)
    rw [hs.farmId i f hi, hs.farmId j g hj] at hne
    exact hclear i j f g hi hj hne hfactive hgactive
  unfold allOverlaps
  rw [outcome_bind, outcome_adapt, list_outcome, MemoryStore.listActiveFarms_of_intact hs]
  exact congrArg Except.ok hnone

/-- Where farms may not share ground, no run of a service lets two active ones share it. -/
theorem ground_never_shared (ops : List Operation) :
    let s := MemoryStore.service ⟨retry, .reject⟩ jitter clock
    let w := s.after (.ofStore .empty) ops
    (∀ (i j : FarmId) (f g : Farm), w.store.farms[i]? = some f → w.store.farms[j]? = some g → i ≠ j →
        f.isActive → g.isActive → f.polygon.interiorsOverlap g.polygon = false) ∧
      (s.allOverlaps.outcome w).1 = .ok [] := by
  intro s w
  have hkeeps : w.store.Balanced ∧ w.store.Clear := by
    apply after_keeps (P := fun s => s.Balanced ∧ s.Clear)
    · rintro s t ⟨hs, hclear⟩ h
      exact ⟨hs.advances h, hclear.advances hs h⟩
    · exact ⟨MemoryStore.Balanced.empty, MemoryStore.Clear.empty⟩
  exact ⟨hkeeps.2, allOverlaps_clear jitter clock hkeeps.1.toIntact hkeeps.2⟩

end Service

end FarmRegistry
