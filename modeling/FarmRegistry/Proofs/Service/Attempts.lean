import FarmRegistry.Proofs.Service.Course
import FarmRegistry.Proofs.Store.Commit

namespace FarmRegistry

def Intent.Requested (m : Intent) : Prop :=
  ∀ f, m = .create f → ∃ i owner p metadata now, f = Farm.create i owner p metadata now

namespace MemoryStore

def service (config : ServiceConfig) (jitter : Jitter) (clock : Nat → Timestamp) : Service MemoryStore :=
  ⟨store, config, jitter, clock⟩

def current (s : MemoryStore) (m : Intent) : Except StoreError (Option Farm) :=
  match m with
  | .create _ => .ok none
  | m => s.findFarm m.farmId

section Current

variable {s : MemoryStore} {m : Intent} {farm : Option Farm}

theorem findFarm_eq_ok {i : FarmId} (h : s.findFarm i = .ok farm) : farm = s.farms[i]? := by
  obtain ⟨farms, hfarms, rfl⟩ := map_eq_ok_iff.mp h
  rw [(usableFarms_eq_ok_iff.mp hfarms).2]

theorem current_eq_ok (h : s.current m = .ok farm) : farm = none ∨ farm = s.farms[m.farmId]? := by
  cases m with
  | create f => exact .inl (Except.ok.inj h).symm
  | _ => exact .inr (findFarm_eq_ok h)

theorem current_eq_stored (hs : s.Intact) (hm : ∀ f, m ≠ .create f) : s.current m = .ok s.farms[m.farmId]? := by
  cases m with
  | create f => exact absurd rfl (hm f)
  | _ => exact findFarm_of_intact hs _

theorem current_of_intact (hs : s.Intact) (m : Intent) : ∃ farm, s.current m = .ok farm := by
  cases m with
  | create f => exact ⟨none, rfl⟩
  | _ => exact ⟨_, current_eq_stored hs fun _ => nofun⟩

theorem planned_key (hs : s.Keyed) (hread : s.current m = .ok farm) {now : Timestamp} {c : Change}
    {result : Option Farm} (hplan : m.Planned now farm c result) : c.write.farmId = m.farmId := by
  apply hplan.writes
  rintro f rfl
  rcases current_eq_ok hread with hnone | hstored
  · cases hnone
  · exact hs.farmId _ f hstored.symm

theorem planned_farms (hs : s.Keyed) (hread : s.current m = .ok farm) {now : Timestamp} {c : Change}
    {result : Option Farm} (hplan : m.Planned now farm c result) (hok : (s.commit c).outcome = .ok ()) (i : FarmId) :
    (s.commit c).state.farms[i]? = if m.farmId = i then result else s.farms[i]? := by
  rw [(commit_follows hplan.names.1.nodup hok).farms, planned_key hs hread hplan, hplan.written]

end Current

def meets (s : MemoryStore) (f : Farm) : Except StoreError (List FarmId) :=
  (s.listActiveFarms (some f.boundingBox)).map (Farm.overlapping f.polygon (some f.id))

def ground (s : MemoryStore) (policy : OverlapPolicy) (f : Farm) : Except ServiceError Unit :=
  if policy = .reject then
    match s.meets f with
    | .error e => .error (.ofStore e)
    | .ok [] => .ok ()
    | .ok (i :: is) => .error (.overlapConflict (i :: is))
  else .ok ()

def groundFor (s : MemoryStore) (policy : OverlapPolicy) (m : Intent) (result : Option Farm) :
    Except ServiceError Unit :=
  if m.mayTakeGround then (result.filter Farm.isActive).elim (.ok ()) (s.ground policy) else .ok ()

/-- How one try at an intent can end, and the store that it leaves. -/
inductive Tried (s : MemoryStore) (policy : OverlapPolicy) (m : Intent) (now : Timestamp) :
    Except (Stop Setback) (Option Farm) → MemoryStore → Prop where
  | unread {e : StoreError} (hread : s.current m = .error e) : Tried s policy m now (.error (.refused (.store e))) s
  | unplanned {farm : Option Farm} {e : Stop ServiceError} (hread : s.current m = .ok farm)
    (hplan : m.plan farm now = .error e) : Tried s policy m now (.error (e.map .final)) s
  | unchanged {farm : Option Farm} {f : Farm} (hread : s.current m = .ok farm)
    (hplan : m.plan farm now = .ok (.unchanged f)) : Tried s policy m now (.ok (some f)) s
  | barred {farm result : Option Farm} {c : Change} {e : ServiceError} (hread : s.current m = .ok farm)
    (hplan : m.plan farm now = .ok (.commit c result)) (hground : s.groundFor policy m result = .error e) :
    Tried s policy m now (.error (.refused (.final e))) s
  | refused {farm result : Option Farm} {c : Change} {e : StoreError} (hread : s.current m = .ok farm)
    (hplan : m.plan farm now = .ok (.commit c result)) (hground : s.groundFor policy m result = .ok ())
    (hcommit : (s.commit c).outcome = .error (.refused e)) : Tried s policy m now (.error (.refused (.store e))) s
  | committed {farm result : Option Farm} {c : Change} (hread : s.current m = .ok farm)
    (hplan : m.plan farm now = .ok (.commit c result)) (hground : s.groundFor policy m result = .ok ())
    (hcommit : (s.commit c).outcome = .ok ()) : Tried s policy m now (.ok result) (s.commit c).state

inductive Advances (s : MemoryStore) (policy : OverlapPolicy) : MemoryStore → Prop where
  | register (i : FarmerId) : Advances s policy (s.registerFarmer i).state
  | reconcile (i : FarmerId) : Advances s policy (s.reconcileFarmer i).state
  | commit {m : Intent} {now : Timestamp} {farm result : Option Farm} {c : Change} (hm : m.Requested)
    (hread : s.current m = .ok farm) (hplan : m.Planned now farm c result)
    (hground : s.groundFor policy m result = .ok ()) (hcommit : (s.commit c).outcome = .ok ()) :
    Advances s policy (s.commit c).state

theorem Tried.advances {s t : MemoryStore} {policy : OverlapPolicy} {m : Intent} {now : Timestamp}
    {r : Except (Stop Setback) (Option Farm)} (hm : m.Requested) (h : s.Tried policy m now r t) :
    t = s ∨ s.Advances policy t := by
  cases h with
  | committed hread hplan hground hcommit =>
    exact .inr (.commit hm hread (Intent.planned_of_plan hplan) hground hcommit)
  | _ => exact .inl rfl

end MemoryStore

namespace Service

open Work MemoryStore

variable {config : ServiceConfig} {jitter : Jitter} {clock : Nat → Timestamp} {m : Intent} {w : World MemoryStore}

theorem find_outcome (i : FarmId) :
    ((service config jitter clock).ask (.findFarm i)).outcome w = ((w.store.findFarm i).mapError .refused, w) := by
  rw [outcome_ask]
  exact congrArg (fun events => (_, { w with events := events })) (List.append_nil w.events)

theorem list_outcome (b : Option BoundingBox) :
    ((service config jitter clock).ask (.listActiveFarms b)).outcome w =
      ((w.store.listActiveFarms b).mapError .refused, w) := by
  rw [outcome_ask]
  exact congrArg (fun events => (_, { w with events := events })) (List.append_nil w.events)

theorem current_outcome :
    ((service config jitter clock).current m).outcome w = ((w.store.current m).mapError .refused, w) := by
  cases m with
  | create f => rfl
  | reshape i p => exact find_outcome i
  | retire i => exact find_outcome i
  | restore i => exact find_outcome i
  | erase i => exact find_outcome i
  | reassign i j => exact find_outcome i

theorem overlapping_outcome (p : Polygon) (exclude : Option FarmId) :
    ((service config jitter clock).overlapping p exclude).outcome w =
      (((w.store.listActiveFarms (some p.boundingBox)).map (Farm.overlapping p exclude)).mapError
        (Stop.refused ∘ ServiceError.ofStore), w) := by
  rw [Service.overlapping, outcome_bind, outcome_adapt, list_outcome]
  cases w.store.listActiveFarms (some p.boundingBox) <;> rfl

theorem checkGround_outcome (f : Farm) :
    ((service config jitter clock).checkGround f).outcome w =
      ((w.store.ground config.overlaps f).mapError .refused, w) := by
  have hlist : ((service config jitter clock).overlapping f.polygon (some f.id)).outcome w =
      ((w.store.meets f).mapError (Stop.refused ∘ ServiceError.ofStore), w) := overlapping_outcome _ _
  unfold checkGround MemoryStore.ground
  change Work.outcome (if config.overlaps = .reject then _ else _) w = _
  split
  · rw [outcome_bind, hlist]
    rcases w.store.meets f with e | _ | ⟨i, is⟩ <;> rfl
  · rfl

section Tried

variable {farm : Option Farm} {c : Change} {result : Option Farm} {r : Except (Stop Setback) (Option Farm)}
variable {v : World MemoryStore}

theorem claim_outcome (c : Change) (result : Option Farm) :
    ((m.claimant? (.commit c result)).elim (pure ()) fun f =>
      adapt Setback.final ((service config jitter clock).checkGround f)).outcome w =
      ((w.store.groundFor config.overlaps m result).mapError (Stop.refused ∘ Setback.final), w) := by
  rw [groundFor, Intent.claimant?]
  by_cases htake : m.mayTakeGround
  · rw [if_pos htake, if_pos htake]
    cases result.filter Farm.isActive with
    | none => rfl
    | some f =>
      rw [Option.elim_some, Option.elim_some, outcome_adapt, checkGround_outcome]
      cases w.store.ground config.overlaps f <;> rfl
  · rw [if_neg htake, if_neg htake]
    rfl

theorem tried_of_commit {now : Timestamp} (hread : w.store.current m = .ok farm)
    (hplan : m.plan farm now = .ok (.commit c result)) (hground : w.store.groundFor config.overlaps m result = .ok ())
    (h : ((service config jitter clock).carryOut m (.commit c result)).outcome w = (r, v)) :
    w.store.Tried config.overlaps m now r v.store := by
  obtain ⟨told, hout⟩ := outcome_carryOut (s := service config jitter clock) (m := m) c result w
  cases hout.symm.trans h
  change w.store.Tried _ _ _ (((w.store.commit c).outcome.mapError _).map _) (w.store.commit c).state
  rcases commit_cases w.store c with ⟨moved, _, hok, _⟩ | ⟨e, _, herror, hstate⟩
  · rw [hok]
    exact .committed hread hplan hground hok
  · rw [herror, hstate]
    exact .refused hread hplan hground herror

theorem tried_of_tryOnce (h : ((service config jitter clock).tryOnce m).outcome w = (r, v)) :
    w.store.Tried config.overlaps m (clock w.readings) r v.store := by
  rw [tryOnce_eq, draft] at h
  simp only [bind_assoc, pure_bind] at h
  rw [outcome_bind, outcome_adapt, current_outcome] at h
  cases hread : w.store.current m with
  | error e =>
    rw [hread] at h
    cases h
    exact .unread hread
  | ok farm =>
    rw [hread] at h
    change Work.outcome (_ >>= _) w = _ at h
    -- The clock is read before the plan, which leaves the store alone.
    obtain ⟨u, hu, hstore⟩ : ∃ u, ((service config jitter clock).now : Work _ Setback _).outcome w =
        (.ok (clock w.readings), u) ∧ u.store = w.store := ⟨_, outcome_now _ w, rfl⟩
    rw [outcome_bind_ok hu, outcome_bind, outcome_adapt, outcome_settled] at h
    rw [← hstore] at hread ⊢
    cases hplan : m.plan farm (clock w.readings) with
    | error e =>
      rw [hplan] at h
      cases h
      exact .unplanned hread hplan
    | ok plan =>
      rw [hplan] at h
      cases plan with
      | unchanged f =>
        cases h
        exact .unchanged hread hplan
      | commit c result =>
        change Work.outcome (_ >>= _) u = _ at h
        rw [outcome_bind, claim_outcome] at h
        cases hground : u.store.groundFor config.overlaps m result with
        | error e =>
          rw [hground] at h
          cases h
          exact .barred hread hplan hground
        | ok =>
          rw [hground] at h
          exact tried_of_commit hread hplan hground h

end Tried

section Keeps

variable {P : MemoryStore → Prop} (hP : ∀ s t, P s → s.Advances config.overlaps t → P t)

include hP

theorem keeps_tryOnce (hm : m.Requested) : Keeps P ((service config jitter clock).tryOnce m) := by
  intro w hw
  have htried := tried_of_tryOnce (Prod.mk.eta (p := ((service config jitter clock).tryOnce m).outcome w)).symm
  rcases htried.advances hm with h | h
  · rw [h]
    exact hw
  · exact hP _ _ hw h

theorem keeps_run (hm : m.Requested) : Keeps P ((service config jitter clock).run m) :=
  keeps_retry (keeps_tryOnce hP hm) (fun i t ht => hP t _ ht (.reconcile i)) 0 false

end Keeps

end Service

end FarmRegistry
