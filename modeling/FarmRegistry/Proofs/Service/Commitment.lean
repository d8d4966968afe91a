import FarmRegistry.Proofs.Service.ExactTotals
import FarmRegistry.Proofs.Service.Mutations
import FarmRegistry.Proofs.Store.Footprint

namespace FarmRegistry

def Exchange.isCommitted : Exchange → Bool
  | ⟨.commit _, .ok _⟩ => true
  | _ => false

theorem Exchange.isCommitted_iff {e : Exchange} : e.isCommitted ↔ ∃ c, e = committed c := by
  constructor
  · intro h
    unfold isCommitted at h
    split at h
    · rename_i c _
      exact ⟨c, rfl⟩
    · cases h
  · rintro ⟨c, rfl⟩
    rfl

theorem Recorded.uncommitted_iff {σ : Type} {r : Recorded σ} :
    r.Uncommitted ↔ r.log.any Exchange.isCommitted = false := by
  rw [List.any_eq_false]
  constructor
  · intro h e he hcommitted
    obtain ⟨c, rfl⟩ := Exchange.isCommitted_iff.mp hcommitted
    exact h c he
  · intro h c hc
    exact h _ hc rfl

namespace Service

open Work MemoryStore

structure Idle (w v : World (Recorded MemoryStore)) : Prop where
  farms : v.store.inner.farms = w.store.inner.farms
  uncommitted : v.store.Uncommitted

structure Changed (clock : Nat → Timestamp) (m : Intent) (w v : World (Recorded MemoryStore)) (k : Nat)
    (farm : Option Farm) (c : Change) (result : Option Farm) : Prop where
  read : w.store.inner.current m = .ok farm
  planned : m.Planned (clock k) farm c result
  accepted : (w.store.inner.commit c).outcome = .ok ()
  store : v.store.inner = (w.store.inner.commit c).state
  log : Exchange.committed c ∈ v.store.log
  since : w.readings ≤ k
  last : v.readings = k + 1

theorem Changed.farms {clock : Nat → Timestamp} {m : Intent} {w v : World (Recorded MemoryStore)} {k : Nat}
    {farm result : Option Farm} {c : Change} (h : Changed clock m w v k farm c result) (hs : w.store.inner.Keyed)
    (i : FarmId) :
    v.store.inner.farms[i]? = if m.farmId = i then result else w.store.inner.farms[i]? := by
  rw [h.store]
  exact planned_farms hs h.read h.planned h.accepted i

inductive Decides (clock : Nat → Timestamp) (m : Intent) (w v : World (Recorded MemoryStore)) :
    Except (Stop ServiceError) (Option Farm) → Prop where
  | failed {e : Stop ServiceError} (hidle : Idle w v) : Decides clock m w v (.error e)
  | met {farm : Option Farm} {f : Farm} {now : Timestamp} (hread : w.store.inner.current m = .ok farm)
    (hplan : m.plan farm now = .ok (.unchanged f)) (hidle : Idle w v) : Decides clock m w v (.ok (some f))
  | changed {k : Nat} {farm result : Option Farm} {c : Change} (hchanged : Changed clock m w v k farm c result) :
    Decides clock m w v (.ok result)

namespace Decides

variable {clock : Nat → Timestamp} {m : Intent} {w u v x : World (Recorded MemoryStore)}
variable {r : Except (Stop ServiceError) (Option Farm)}

theorem of_later (h : Decides clock m u v r) (hstore : u.store.inner = w.store.inner)
    (hreadings : w.readings ≤ u.readings) : Decides clock m w v r := by
  cases h with
  | failed hidle => exact .failed ⟨hstore ▸ hidle.farms, hidle.uncommitted⟩
  | met hread hplan hidle => exact .met (hstore ▸ hread) hplan ⟨hstore ▸ hidle.farms, hidle.uncommitted⟩
  | changed hchanged =>
    obtain ⟨hread, hplanned, haccepted, hafter, hlog, hsince, hlast⟩ := hchanged
    rw [hstore] at hread haccepted hafter
    exact .changed ⟨hread, hplanned, haccepted, hafter, hlog, hreadings.trans hsince, hlast⟩

theorem told (h : Decides clock m w v r) (htold : v.Told x) : Decides clock m w x r := by
  obtain ⟨events, rfl⟩ := htold
  cases h with
  | failed hidle => exact .failed ⟨hidle.farms, hidle.uncommitted⟩
  | met hread hplan hidle => exact .met hread hplan ⟨hidle.farms, hidle.uncommitted⟩
  | changed hchanged =>
    obtain ⟨hread, hplanned, haccepted, hafter, hlog, hsince, hlast⟩ := hchanged
    exact .changed ⟨hread, hplanned, haccepted, hafter, hlog, hsince, hlast⟩

end Decides

inductive Performed (clock : Nat → Timestamp) (o : Operation) (w : World MemoryStore)
    (v : World (Recorded MemoryStore)) : Except (Stop ServiceError) o.Answer → Prop where
  | failed {e : Stop ServiceError} (hidle : Idle w.recorded v) : Performed clock o w v (.error e)
  | aside {r : Except (Stop ServiceError) o.Answer} (ho : o.target? = none) (hidle : Idle w.recorded v) :
    Performed clock o w v r
  | met {m : Intent} {farm : Option Farm} {f : Farm} {now : Timestamp} {r : Except (Stop ServiceError) o.Answer}
    (hintent : o.intent? (clock w.readings) = some (.ok m)) (hread : w.store.current m = .ok farm)
    (hplan : m.plan farm now = .ok (.unchanged f)) (hidle : Idle w.recorded v) : Performed clock o w v r
  | changed {m : Intent} {k : Nat} {farm result : Option Farm} {c : Change} {a : o.Answer}
    (hintent : o.intent? (clock w.readings) = some (.ok m))
    (hchanged : Changed clock m { w.recorded with readings := w.readings + o.lead } v k farm c result) :
    Performed clock o w v (.ok a)

theorem Performed.idle_or_changed {clock : Nat → Timestamp} {o : Operation} {w : World MemoryStore}
    {v : World (Recorded MemoryStore)} {r : Except (Stop ServiceError) o.Answer} (h : Performed clock o w v r) :
    Idle w.recorded v ∨ ∃ m k farm c result, o.intent? (clock w.readings) = some (.ok m) ∧
      Changed clock m { w.recorded with readings := w.readings + o.lead } v k farm c result := by
  cases h with
  | failed hidle => exact .inl hidle
  | aside ho hidle => exact .inl hidle
  | met hintent hread hplan hidle => exact .inl hidle
  | changed hintent hchanged => exact .inr ⟨_, _, _, _, _, hintent, hchanged⟩

variable {config : ServiceConfig} {jitter : Jitter} {clock : Nat → Timestamp} {m : Intent}

theorem draft_ok {w v : World MemoryStore} {plan : Plan}
    (h : ((service config jitter clock).draft m).outcome w = (.ok plan, v)) :
    v.store = w.store ∧ v.readings = w.readings + 1 ∧
      ∃ farm, w.store.current m = .ok farm ∧ m.plan farm (clock w.readings) = .ok plan := by
  obtain ⟨farm, u, hcurrent, hafter⟩ := outcome_bind_eq_ok_iff.mp h
  obtain ⟨now, x, hnow, hafter⟩ := outcome_bind_eq_ok_iff.mp hafter
  obtain ⟨planned, y, hplan, hafter⟩ := outcome_bind_eq_ok_iff.mp hafter
  obtain ⟨_, z, hclaim, hend⟩ := outcome_bind_eq_ok_iff.mp hafter
  rw [outcome_adapt_eq_ok_iff, current_outcome, Prod.mk.injEq, mapError_eq_ok_iff] at hcurrent
  rw [outcome_adapt_eq_ok_iff, outcome_settled, Prod.mk.injEq] at hplan
  obtain ⟨hread, rfl⟩ := hcurrent
  obtain ⟨hplanned, rfl⟩ := hplan
  cases hnow
  have hz : z = { w with readings := w.readings + 1 } := by
    cases planned with
    | unchanged f =>
      cases hclaim
      rfl
    | commit c result =>
      rw [claim_outcome] at hclaim
      exact (congrArg Prod.snd hclaim).symm
  cases hend
  rw [hz]
  exact ⟨rfl, rfl, farm, hread, hplanned⟩

section Tries

variable {w v : World (Recorded MemoryStore)} {o : Except (Stop Setback) (Option Farm)}

theorem draft_recorded_ok {plan : Plan}
    (h : ((service config jitter clock).recorded.draft m).outcome w = (.ok plan, v)) :
    v.store.inner = w.store.inner ∧ v.readings = w.readings + 1 ∧
      ∃ farm, w.store.inner.current m = .ok farm ∧ m.plan farm (clock w.readings) = .ok plan := by
  have hmirror := (service config jitter clock).draft_recorded m w
  rw [h] at hmirror
  exact draft_ok hmirror.symm

theorem tryOnce_decides {result : Option Farm} (hw : w.store.Uncommitted)
    (h : ((service config jitter clock).recorded.tryOnce m).outcome w = (.ok result, v)) :
    Decides clock m w v (.ok result) := by
  rw [tryOnce_eq] at h
  obtain ⟨plan, u, hdraft, hcarry⟩ := outcome_bind_eq_ok_iff.mp h
  have hread := (service config jitter clock).draft_reads m w
  rw [hdraft] at hread
  obtain ⟨hinner, hreadings, farm, hfarm, hplan⟩ := draft_recorded_ok hdraft
  cases plan with
  | unchanged f =>
    cases hcarry
    exact .met hfarm hplan ⟨congrArg MemoryStore.farms hinner, hread.uncommitted hw⟩
  | commit c result =>
    obtain ⟨told, hout⟩ := outcome_carryOut (s := (service config jitter clock).recorded) (m := m) c result u
    rw [hout, Prod.mk.injEq] at hcarry
    obtain ⟨hanswer, rfl⟩ := hcarry
    have hcommit : ((u.store.inner.commit c).outcome.mapError (Stop.map Setback.store)).map (fun _ => result) = _ :=
      hanswer
    obtain ⟨_, hreported, rfl⟩ := map_eq_ok_iff.mp hcommit
    have haccepted := mapError_eq_ok_iff.mp hreported
    refine .changed ⟨hfarm, Intent.planned_of_plan hplan, hinner ▸ haccepted, ?_, ?_, Nat.le_refl _, hreadings⟩
    · rw [← hinner]
      rfl
    · change _ ∈ u.store.log ++ [(⟨.commit c, (u.store.inner.commit c).outcome⟩ : Exchange)]
      rw [haccepted]
      exact List.mem_append_right _ List.mem_cons_self

theorem tryOnce_idle {e : Stop Setback} (hw : w.store.Uncommitted)
    (h : ((service config jitter clock).recorded.tryOnce m).outcome w = (.error e, v)) :
    v.store.inner = w.store.inner ∧ w.readings ≤ v.readings ∧ v.store.Uncommitted :=
  ⟨(tried_of_recorded h).failed, (tryOnce_spends h).2.1, tryOnce_failed h hw⟩

theorem repair_idle {i : FarmerId} {answer : Except (Stop ServiceError) Unit} (hs : w.store.inner.Balanced)
    (hw : w.store.Uncommitted) (h : ((service config jitter clock).recorded.repair i).outcome w = (answer, v)) :
    v.store.inner = w.store.inner ∧ v.readings = w.readings ∧ v.store.Uncommitted := by
  obtain ⟨_, hreadings, hinner, _⟩ := repair_asks h
  exact ⟨hinner.trans (hs.reconcile_state i), hreadings, repair_uncommitted h hw⟩

end Tries

theorem Course.decides {w v : World (Recorded MemoryStore)} {conflicts n : Nat} {repaired : Bool}
    {r : Except (Stop ServiceError) (Option Farm)}
    (h : (service config jitter clock).recorded.Course m conflicts repaired w n r v)
    (hs : w.store.inner.Balanced) (hw : w.store.Uncommitted) : Decides clock m w v r := by
  induction h with
  | @last conflicts repaired w u v o r htry htold hend =>
    cases o with
    | error e =>
      obtain ⟨hinner, _, hu⟩ := tryOnce_idle hw htry
      have hfailed : ∀ e, Decides clock m w u (.error e) := fun _ => .failed ⟨congrArg MemoryStore.farms hinner, hu⟩
      cases hend <;> exact (hfailed _).told htold
    | ok result =>
      cases hend
      exact (tryOnce_decides hw htry).told htold
  | @raced conflicts n repaired w u x v detail r hmore htry hwait hrest ih =>
    obtain ⟨hinner, hreadings, hu⟩ := tryOnce_idle hw htry
    obtain ⟨hstore, hlater, _⟩ := backOff_waits hwait
    rw [← hstore] at hinner hu
    exact (ih (hinner ▸ hs) hu).of_later hinner (by omega)
  | @unrepaired conflicts w u x v i e htry htold hrepair =>
    obtain ⟨hinner, _, hu⟩ := tryOnce_idle hw htry
    rw [← htold.store] at hinner hu
    obtain ⟨hkept, _, hv⟩ := repair_idle (hinner ▸ hs) hu hrepair
    exact .failed ⟨congrArg MemoryStore.farms (hkept.trans hinner), hv⟩
  | @repaired conflicts n w u x y v i r htry htold hrepair hrest ih =>
    obtain ⟨hinner, hreadings, hu⟩ := tryOnce_idle hw htry
    rw [← htold.store] at hinner hu
    obtain ⟨hkept, hlater, hy⟩ := repair_idle (hinner ▸ hs) hu hrepair
    have htime := htold.readings
    exact (ih (hkept.trans hinner ▸ hs) hy).of_later (hkept.trans hinner) (by omega)

section Operations

variable (config : ServiceConfig) (jitter : Jitter) (clock : Nat → Timestamp) (w : World MemoryStore) {o : Operation}

theorem perform_idle (ho : o.target? = none) :
    Idle w.recorded (((service config jitter clock).recorded.perform o).outcome w.recorded).2 := by
  have hkeeps : Keeps (fun t : Recorded MemoryStore => t.inner.farms = w.store.farms ∧ t.Uncommitted)
      ((service config jitter clock).recorded.perform o) := by
    refine keeps_untargeted ?_ ho
    rintro c hc t ⟨hfarms, ht⟩
    refine ⟨?_, ht.snoc rfl fun d hd => hc d (congrArg Exchange.call hd).symm⟩
    cases c with
    | commit d => exact absurd rfl (hc d)
    | registerFarmer i => exact (registerFarmer_farms _ i).trans hfarms
    | reconcileFarmer i => exact (reconcileFarmer_farms _ i).trans hfarms
    | _ => exact hfarms
  obtain ⟨hfarms, hnone⟩ := hkeeps w.recorded ⟨rfl, fun _ => List.not_mem_nil⟩
  exact ⟨hfarms, hnone⟩

theorem performed (hs : w.store.Balanced) (o : Operation) :
    Performed clock o w (((service config jitter clock).recorded.perform o).outcome w.recorded).2
      (((service config jitter clock).recorded.perform o).outcome w.recorded).1 := by
  cases ho : o.target? with
  | none => exact .aside ho (perform_idle config jitter clock w ho)
  | some i =>
    rcases (service config jitter clock).recorded.perform_cases w.recorded ho with
      ⟨e, hmisshapen⟩ | ⟨m, hintent, _, _, hworld, hends⟩
    · rw [hmisshapen]
      exact .failed ⟨rfl, fun _ => List.not_mem_nil⟩
    · let u : World (Recorded MemoryStore) := { w.recorded with readings := w.readings + o.lead }
      obtain ⟨n, hcourse⟩ := course_of_retry (s := (service config jitter clock).recorded) (m := m) 0 false u
      have hdecides := hcourse.decides hs fun _ => List.not_mem_nil
      have hends : ∀ e, (((service config jitter clock).recorded.perform o).outcome w.recorded).1 = .error e ↔
          (((service config jitter clock).recorded.retry m 0 false).outcome u).1 = .error e := hends
      have hworld : (((service config jitter clock).recorded.perform o).outcome w.recorded).2 =
          (((service config jitter clock).recorded.retry m 0 false).outcome u).2 := hworld
      rw [hworld]
      generalize (((service config jitter clock).recorded.retry m 0 false).outcome u).1 = r at hdecides hends
      generalize (((service config jitter clock).recorded.perform o).outcome w.recorded).1 = answer at hends ⊢
      cases hdecides with
      | @failed e hidle =>
        rw [(hends e).mpr rfl]
        exact .failed ⟨hidle.farms, hidle.uncommitted⟩
      | met hread hplan hidle => exact .met hintent hread hplan ⟨hidle.farms, hidle.uncommitted⟩
      | changed hchanged =>
        cases answer with
        | error e => cases (hends e).mp rfl
        | ok a => exact .changed hintent hchanged

end Operations

end Service

end FarmRegistry
