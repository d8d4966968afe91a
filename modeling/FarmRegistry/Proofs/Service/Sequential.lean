import FarmRegistry.Proofs.Service.Healing
import FarmRegistry.Proofs.Service.NoTrace
import FarmRegistry.Proofs.Store.Refusals

namespace FarmRegistry

namespace MemoryStore

variable {s t : MemoryStore} {policy : OverlapPolicy} {m : Intent} {now : Timestamp}

section Plans

variable {farm result before : Option Farm} {c : Change}

theorem turns_of_fresh (hs : s.Sound) (hm : m.Requested) (hfresh : ∀ f, m = .create f → s.farms[f.id]? = none)
    (hread : s.current m = .ok farm) (hplan : m.Planned now farm c result) :
    s.farms[c.write.farmId]?.map Farm.version = c.write.expected? ∧ ∃ before, s.Turns c before result := by
  have hcurrent : s.farms[c.write.farmId]?.map Farm.version = c.write.expected? := by
    rcases hplan.kinds with ⟨f, hf, _, hc⟩ | ⟨f, g, hne, hf, _, hrev, hc⟩ | ⟨f, i, rfl, hf, _, hc⟩
    · rw [(Change.insert_eq_ok_iff.mp hc).1]
      exact congrArg _ (hfresh f hf)
    · rw [(Change.update_eq_ok_iff.mp hc).1, Write.farmId, hrev.id_version.1,
        current_stored hs.toIntact hne hread hf]
      rfl
    · have hne : ∀ g, Intent.erase i ≠ .create g := by
        intro g h
        cases h
      rw [(Change.remove_eq_ok_iff.mp hc).1, Write.farmId, current_stored hs.toIntact hne hread hf]
      rfl
  exact ⟨hcurrent, turns_of_planned hs hm hread hplan hcurrent⟩

theorem Balanced.commit_outcome (hs : s.Balanced) (hc : s.Turns c before result)
    (hcurrent : s.farms[c.write.farmId]?.map Farm.version = c.write.expected?)
    (hrange : ∀ i, (s.commit c).outcome ≠ .error (.refused (.query (TotalsError.overflow i).message))) :
    (s.commit c).outcome = (s.checkOwner c.write).mapError .refused := by
  rcases commit_cases s c with ⟨moved, _, hok, _⟩ | ⟨e, _, herror, _⟩
  · have howner := checkOwner_eq_ok_iff.mpr ((commit_eq_ok_iff hs.toIntact).mp hok).owned
    rw [hok, howner]
    rfl
  · rcases hs.commit_refused hc hcurrent herror with ⟨g, rfl, habsent, rfl⟩ | ⟨i, rfl⟩
    · have howner : s.checkOwner c.write = .error (.farmerNotFound g.farmerId) := by
        rw [checkOwner, hc.written]
        exact if_neg (mt Std.ExtTreeMap.contains_iff_mem.mp habsent)
      rw [herror, howner]
      rfl
    · exact absurd herror (hrange i)

end Plans

section Tries

variable {o : Except (Stop Setback) (Option Farm)}

theorem Tried.not_negative (hs : s.Balanced) (hm : m.Requested) (h : s.Tried policy m now o t) (i : FarmerId) :
    o ≠ .error (.refused (.store (.negativeAggregate i))) := by
  rintro rfl
  obtain ⟨⟨f, hf, hid⟩, hdrift⟩ := h.negative hs.repairable hm
  exact hdrift (hs.drift?_eq_zero (hid ▸ hs.owned _ f hf))

theorem Tried.not_conflict (hs : s.Balanced) (hm : m.Requested)
    (hfresh : ∀ f, m = .create f → s.farms[f.id]? = none) (h : s.Tried policy m now o t) (detail : String) :
    o ≠ .error (.refused (.store (.conflict detail))) := by
  intro ho
  cases h with
  | unread hread =>
    obtain ⟨farm, hfarm⟩ := current_of_intact hs.toIntact m
    rw [hread] at hfarm
    cases hfarm
  | @unplanned farm e hread hplan => cases e <;> cases ho
  | refused hread hplan hground hcommit =>
    cases ho
    obtain ⟨hcurrent, before, hturns⟩ := turns_of_fresh hs.toSound hm hfresh hread (Intent.planned_of_plan hplan)
    rcases hs.commit_refused hturns hcurrent hcommit with ⟨g, _, _, hg⟩ | ⟨i, hi⟩
    · cases hg
    · cases hi
  | _ => cases ho

theorem Tried.balanced (hs : s.Balanced) (hm : m.Requested) (h : s.Tried policy m now o t) : t.Balanced := by
  rcases h.advances hm with rfl | hadvances
  · exact hs
  · exact hs.advances hadvances

theorem Tried.registered (hs : s.Sound) (hm : m.Requested) (h : s.Tried policy m now o t) (i : FarmerId) :
    i ∈ t.farmers ↔ i ∈ s.farmers := by
  cases h with
  | committed hread hplan hground hcommit =>
    have hcurrent := ((commit_eq_ok_iff hs.toIntact).mp hcommit).current
    obtain ⟨before, hturns⟩ := turns_of_planned hs hm hread (Intent.planned_of_plan hplan) hcurrent
    exact hs.commit_farmers hturns hcommit i
  | _ => exact Iff.rfl

theorem Tried.others (hs : s.Keyed) (h : s.Tried policy m now o t) {i : FarmId} (hi : i ≠ m.farmId) :
    t.farms[i]? = s.farms[i]? := by
  cases o with
  | error e => rw [h.failed]
  | ok result => exact (h.confined hs).1 i hi

end Tries

end MemoryStore

namespace Service

open MemoryStore

variable (config : ServiceConfig) (jitter : Jitter) (clock : Nat → Timestamp) {m : Intent} {w : World MemoryStore}

theorem run_tried (hs : w.store.Balanced) (hm : m.Requested)
    (hfresh : ∀ f, m = .create f → w.store.farms[f.id]? = none) :
    ∃ o t, w.store.Tried config.overlaps m (clock w.readings) o t ∧
      (((service config jitter clock).run m).outcome w).1 = o.mapError (Stop.map Setback.reason) ∧
      (((service config jitter clock).run m).outcome w).2.store = t := by
  have htried := tried_of_tryOnce (Prod.mk.eta (p := ((service config jitter clock).tryOnce m).outcome w)).symm
  exact ⟨_, _, htried, run_concludes htried (htried.not_conflict hs hm hfresh) (htried.not_negative hs hm)⟩

theorem perform_tried {o : Operation} {i : FarmId} (ho : o.target? = some i) (n : Nat) :
    (∃ e, ∀ w : World MemoryStore, w.readings = n →
      ((service config jitter clock).perform o).outcome w = (.error (.refused (.geometry e)), w)) ∨
      ∃ (m : Intent) (deliver : Option Farm → Except (Stop ServiceError) o.Answer), m.Requested ∧ m.farmId = i ∧
        ∀ w : World MemoryStore, w.readings = n → w.store.Balanced →
          (∀ r, o = .create i r → w.store.farms[i]? = none) →
          (∀ f, m = .create f → w.store.farms[f.id]? = none) ∧
            ∃ a t, w.store.Tried config.overlaps m (clock (n + o.lead)) a t ∧
              (((service config jitter clock).perform o).outcome w).1 =
                a.mapError (Stop.map Setback.reason) >>= deliver ∧
              (((service config jitter clock).perform o).outcome w).2.store = t := by
  obtain ⟨planned, hplanned⟩ := o.intent?_of_target ho (clock n)
  cases planned with
  | error e =>
    refine .inl ⟨e, ?_⟩
    rintro w rfl
    exact perform_misshapen (service config jitter clock) w hplanned
  | ok m =>
    obtain ⟨hm, htarget, hcreate⟩ := Operation.of_intent? hplanned
    obtain ⟨deliver, _, hdeliver⟩ := perform_delivers (service config jitter clock) hplanned
    have hid : m.farmId = i := Option.some.inj (htarget.symm.trans ho)
    refine .inr ⟨m, deliver, hm, hid, ?_⟩
    intro w hw hs hfresh
    have hunused : ∀ f, m = .create f → w.store.farms[f.id]? = none := by
      rintro f rfl
      obtain ⟨r, hr⟩ := hcreate f rfl
      have hf : f.id = i := hid
      rw [hf]
      exact hfresh r (hf ▸ hr)
    obtain ⟨a, t, htried, hrun, hstore⟩ := run_tried config jitter clock
      (w := { w with readings := n + o.lead }) hs hm hunused
    refine ⟨hunused, a, t, htried, ?_, ?_⟩
    · rw [hdeliver w hw, hrun]
    · rw [hdeliver w hw, hstore]

end Service

end FarmRegistry
