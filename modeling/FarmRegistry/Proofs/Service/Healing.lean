import FarmRegistry.Proofs.Service.ClearGround
import FarmRegistry.Proofs.Service.Mutations
import FarmRegistry.Proofs.Store.Drift

namespace FarmRegistry

namespace Intent

variable {m : Intent} {farm : Option Farm} {now : Timestamp}

theorem plan_refused {e : ServiceError} (h : m.plan farm now = .error (.refused e)) :
    farm = none ∧ e = .farmNotFound m.farmId := by
  have hover : ∀ r : Except Overflow Plan,
      (Stop.ofOverflow r : Except (Stop ServiceError) Plan) ≠ .error (.refused e) := by
    intro r
    cases r <;> nofun
  cases m with
  | create f => exact absurd h (hover _)
  | _ =>
    cases farm with
    | none =>
      cases h
      exact ⟨rfl, rfl⟩
    | some f => exact absurd h (hover _)

end Intent

namespace Service

theorem Concludes.inconsistent {policy : RetryPolicy} {conflicts : Nat} {repaired : Bool}
    {o : Except (Stop Setback) (Option Farm)} {i : FarmerId}
    (h : Concludes policy conflicts repaired o (.error (.refused (.aggregateConsistency i)))) :
    o = .error (.refused (.final (.aggregateConsistency i))) ∨
      repaired ∧ o = .error (.refused (.store (.negativeAggregate i))) := by
  rcases h.refused_cases with ho | ⟨detail, _, he⟩ | ⟨f, ho, he, hrepaired⟩
  · exact .inl ho
  · cases he
  · cases f <;> cases he
    exact .inr ⟨hrepaired i rfl, ho⟩

end Service

namespace MemoryStore

section Tries

variable {s t : MemoryStore} {policy : OverlapPolicy} {m : Intent} {now : Timestamp}

theorem groundFor_eq_error {result : Option Farm} {e : ServiceError} (h : s.groundFor policy m result = .error e) :
    policy = .reject ∧ m.mayTakeGround ∧ ∃ g, result = some g ∧ g.isActive ∧
      ((∃ d, s.meets g = .error d ∧ e = .ofStore d) ∨
        ∃ i is, s.meets g = .ok (i :: is) ∧ e = .overlapConflict (i :: is)) := by
  unfold groundFor at h
  split at h
  case isFalse => cases h
  case isTrue htake =>
    cases hg : result.filter Farm.isActive with
    | none =>
      rw [hg] at h
      cases h
    | some g =>
      obtain ⟨hresult, hactive⟩ := Option.filter_eq_some_iff.mp hg
      rw [hg, Option.elim_some, ground] at h
      split at h
      case isFalse => cases h
      case isTrue hreject =>
        refine ⟨hreject, htake, g, hresult, hactive, ?_⟩
        rcases hmeets : s.meets g with d | _ | ⟨i, is⟩
        all_goals
          rw [hmeets] at h
          cases h
        · exact .inl ⟨d, rfl, rfl⟩
        · exact .inr ⟨i, is, rfl, rfl⟩

theorem Tried.final_cases {e : ServiceError} (h : s.Tried policy m now (.error (.refused (.final e))) t) :
    e = .farmNotFound m.farmId ∨ ∃ farm c result, s.current m = .ok farm ∧ m.Planned now farm c result ∧
      s.groundFor policy m result = .error e := by
  generalize hr : (.error (.refused (.final e)) : Except (Stop Setback) (Option Farm)) = r at h
  cases h with
  | @unplanned farm e hread hplan =>
    cases e with
    | overflow o => cases hr
    | refused e =>
      cases hr
      exact .inl (Intent.plan_refused hplan).2
  | barred hread hplan hground =>
    cases hr
    exact .inr ⟨_, _, _, hread, Intent.planned_of_plan hplan, hground⟩
  | _ => cases hr

theorem Tried.final_consistent (hs : s.Intact) (i : FarmerId)
    (h : s.Tried policy m now (.error (.refused (.final (.aggregateConsistency i)))) t) : False := by
  rcases h.final_cases with he | ⟨farm, c, result, _, _, hground⟩
  · cases he
  · obtain ⟨_, _, g, _, _, ⟨d, hmeets, _⟩ | ⟨i, is, _, he⟩⟩ := groundFor_eq_error hground
    · obtain ⟨ids, hids, _⟩ := meets_of_intact hs g
      rw [hmeets] at hids
      cases hids
    · cases he

theorem Tried.negative (hs : s.Repairable) (hm : m.Requested) {i : FarmerId}
    (h : s.Tried policy m now (.error (.refused (.store (.negativeAggregate i)))) t) :
    Farm.OwnedBy i s.farms[m.farmId]? ∧ s.drift? i ≠ some 0 := by
  generalize hr : (.error (.refused (.store (.negativeAggregate i))) : Except (Stop Setback) (Option Farm)) = r at h
  cases h with
  | unread hread =>
    obtain ⟨farm, hfarm⟩ := current_of_intact hs.toIntact m
    rw [hread] at hfarm
    cases hfarm
  | @unplanned farm e hread hplan => cases e <;> cases hr
  | @refused farm result c e hread hplan hground hcommit =>
    cases hr
    have hplanned := Intent.planned_of_plan hplan
    obtain ⟨before, hturns⟩ := turns_of_planned hs.toSound hm hread hplanned (commit_negative hcommit).1
    rw [← planned_key hs.toKeyed hread hplanned, hturns.stored]
    exact hs.negative_owned hturns hcommit
  | _ => cases hr

theorem Tried.drift (hs : s.Sound) (hm : m.Requested) {o : Except (Stop Setback) (Option Farm)}
    (h : s.Tried policy m now o t) (i : FarmerId) : t.drift? i = s.drift? i := by
  cases h with
  | committed hread hplan hground hcommit =>
    have hcurrent := ((commit_eq_ok_iff hs.toIntact).mp hcommit).current
    obtain ⟨before, hturns⟩ := turns_of_planned hs hm hread (Intent.planned_of_plan hplan) hcurrent
    exact hs.commit_drift hturns hcommit i
  | _ => rfl

end Tries

theorem Ran.heals {s t : MemoryStore} {config : ServiceConfig} {m : Intent} {reconciled : List FarmerId}
    {r : Except (Stop ServiceError) (Option Farm)} (hs : s.Repairable) (hm : m.Requested)
    (h : s.Ran config m reconciled r t) :
    (∀ i, r ≠ .error (.refused (.aggregateConsistency i))) ∧
      ∀ i, t.drift? i = if i ∈ reconciled then some 0 else s.drift? i := by
  cases h with
  | straight htry hend =>
    refine ⟨?_, fun i => (htry.drift hs.toSound hm i).trans (if_neg List.not_mem_nil).symm⟩
    rintro i rfl
    rcases hend.inconsistent with rfl | ⟨hrepaired, _⟩
    · exact htry.final_consistent hs.toIntact i
    · cases hrepaired
  | @unrepaired _ i e htry hrepair =>
    obtain ⟨⟨f, hf, hid⟩, _⟩ := htry.negative hs hm
    obtain ⟨⟨_, hok⟩, _⟩ := hs.reconcile (hid ▸ hs.owned _ f hf)
    rw [hrepair] at hok
    cases hok
  | @repaired _ _ i _ _ _ _ _ htry hrepair hretry hend =>
    obtain ⟨⟨f, hf, hid⟩, _⟩ := htry.negative hs hm
    obtain ⟨_, hsound, hdrift⟩ := hs.reconcile (hid ▸ hs.owned _ f hf)
    refine ⟨?_, ?_⟩
    · rintro j rfl
      rcases hend.inconsistent with rfl | ⟨_, rfl⟩
      · exact hretry.final_consistent hsound.toIntact j
      · -- The farm is the same as at the first try, so it is the same owner who would be short again.
        obtain ⟨⟨g, hg, hgid⟩, hwrong⟩ := hretry.negative hsound hm
        rw [reconcileFarmer_farms, hf] at hg
        cases hg
        apply hwrong
        rw [hdrift, if_pos (hgid.symm.trans hid)]
    · intro j
      rw [hretry.drift hsound.toSound hm, hdrift]
      simp only [List.mem_singleton]

end MemoryStore

namespace Service

open MemoryStore

variable (config : ServiceConfig) (jitter : Jitter) (clock : Nat → Timestamp)

/-- An operation on a store whose totals have drifted is never given up for that. It has the totals of at most one
farmer computed anew, which are exact from then on, and leaves every other drift as it was. -/
theorem drift_healed {o : Operation} {k : FarmId} (ho : o.target? = some k) {w : World MemoryStore}
    (hs : w.store.Repairable) :
    let s := MemoryStore.service config jitter clock
    let r := ((s.recorded.perform o).outcome w.recorded).1
    let v := ((s.recorded.perform o).outcome w.recorded).2
    (r, v.bare) = (s.perform o).outcome w ∧ (∀ i, r ≠ .error (.refused (.aggregateConsistency i))) ∧
      v.store.reconciled.length ≤ 1 ∧
      ∀ i, v.store.inner.drift? i = if i ∈ v.store.reconciled then some 0 else w.store.drift? i := by
  intro s r v
  refine ⟨s.perform_recorded o w.recorded, ?_⟩
  rcases perform_ran ho w with ⟨⟨e, hr⟩, hv⟩ | ⟨m, answer, hm, hk, hends, hran⟩
  · have hr : r = .error (.refused (.geometry e)) := hr
    have hv : v = w.recorded := hv
    rw [hr, hv]
    exact ⟨fun _ => nofun, Nat.zero_le 1, fun i => (if_neg List.not_mem_nil).symm⟩
  · have hran : w.store.Ran config m v.store.reconciled answer v.store.inner := hran
    obtain ⟨hconsistent, hdrift⟩ := hran.heals hs hm
    exact ⟨fun i hi => hconsistent i ((hends _).mp hi), hran.repaired_le, hdrift⟩

def strayParcel : Farm :=
  { parcel with area := .ofNat 5 }

def drifted : MemoryStore :=
  newcomers.writeFarm (.insert strayParcel)

theorem drifted_farms (k : FarmId) : drifted.farms[k]? = if strayParcel.id = k then some strayParcel else none :=
  writeFarm_farms _ k

theorem drifted_slot {i : FarmerId} {slot : FarmerSlot} (h : drifted.farmers[i]? = some slot) :
    slot = ⟨.new i, false⟩ := by
  rw [drifted, writeFarm_farmers, newcomers, putFarmer_getElem?] at h
  split at h
  · rename_i hi
    exact hi ▸ (Option.some.inj h).symm
  · rw [putFarmer_getElem?] at h
    split at h
    · rename_i hi
      exact hi ▸ (Option.some.inj h).symm
    · cases h

theorem drifted_holding (i : FarmerId) : drifted.holding i = strayParcel.share i := by
  have hnone : newcomers.holding i = 0 := rfl
  rw [drifted, holding_writeFarm, hnone, zero_add]
  exact sub_zero _

theorem drifted_repairable : drifted.Repairable := by
  have hintact : newcomers.Intact := (Intact.empty.putFarmer _).putFarmer _
  refine ⟨⟨hintact.writeFarm _, ?_, ?_⟩, ?_, ?_⟩
  · intro k f hf
    rw [drifted_farms] at hf
    split at hf <;> cases hf
    exact Area.ofNat_val_nonneg 5
  · intro k f hf
    rw [drifted_farms] at hf
    split at hf <;> cases hf
    exact mem_iff_exists_getElem?.mpr ⟨⟨.new taker, false⟩, by rfl⟩
  · intro i slot hslot
    rw [drifted_slot hslot]
    exact Int.le_refl 0
  · intro i
    rw [drifted_holding]
    exact Totals.fits_share (Area.ofNat_val_nonneg 5) i

theorem stray_erased :
    let s := MemoryStore.service .standard .none fun _ => ⟨0, 0⟩
    let r := ((s.recorded.perform (.erase strayParcel.id)).outcome (World.ofStore drifted).recorded).1
    let v := ((s.recorded.perform (.erase strayParcel.id)).outcome (World.ofStore drifted).recorded).2
    drifted.Repairable ∧ drifted.drift? taker = some (-5, -1) ∧ r = .ok () ∧ v.store.reconciled = [taker] ∧
      v.store.inner.drift? taker = some 0 := by
  intro s r v
  have hshort : drifted.drift? taker = some (-5, -1) := by
    have hslot : drifted.farmers[taker]? = some ⟨.new taker, false⟩ := by rfl
    rw [drift?_of_slot hslot, drifted_holding]
    rfl
  obtain ⟨u, hrun, hreconciled⟩ : ∃ u, (s.recorded.run (.erase strayParcel.id)).outcome (World.ofStore drifted).recorded =
      (.ok none, u) ∧ u.store.reconciled = [taker] :=
    ⟨_, (retry_repaired (i := taker) rfl rfl).trans (retry_done rfl), rfl⟩
  have hdone : (s.recorded.perform (.erase strayParcel.id)).outcome (World.ofStore drifted).recorded = (.ok (), u) :=
    Work.outcome_bind_ok hrun
  have hr : r = .ok () := congrArg Prod.fst hdone
  have hv : v.store.reconciled = [taker] := by
    rw [← hreconciled]
    exact congrArg (fun o => o.2.store.reconciled) hdone
  obtain ⟨_, _, _, hdrift⟩ := drift_healed .standard .none (fun _ => ⟨0, 0⟩) (o := .erase strayParcel.id) rfl
    (w := .ofStore drifted) drifted_repairable
  have htaker : v.store.inner.drift? taker = if taker ∈ v.store.reconciled then some 0 else drifted.drift? taker :=
    hdrift taker
  rw [hv, if_pos (List.mem_singleton_self taker)] at htaker
  exact ⟨drifted_repairable, hshort, hr, hv, htaker⟩

end Service

end FarmRegistry
