import FarmRegistry.Proofs.Cadastre.Changes
import FarmRegistry.Proofs.Service.Healing
import FarmRegistry.Proofs.Service.Recording

namespace FarmRegistry

namespace MemoryStore

structure Neighbours (s : MemoryStore) (p : Polygon) (exclude : Option FarmId) (ids : List FarmId) : Prop where
  ordered : ids.Pairwise fun a b => a.rank < b.rank
  mem : ∀ i, i ∈ ids ↔
    ∃ f, s.farms[i]? = some f ∧ f.isActive ∧ some i ≠ exclude ∧ p.interiorsOverlap f.polygon

section Neighbours

variable {s u : MemoryStore} {p : Polygon} {exclude : Option FarmId} {ids others : List FarmId}

theorem neighbours_meeting (s : MemoryStore) (p : Polygon) (exclude : Option FarmId) :
    s.Neighbours p exclude (s.cadastre.meeting p exclude) := by
  refine ⟨Cadastre.pairwise_meeting, ?_⟩
  intro i
  rw [Cadastre.mem_meeting]
  simp only [Polygon.interiorsOverlap_comm p]
  rfl

theorem Neighbours.unique (h : s.Neighbours p exclude ids) (h' : s.Neighbours p exclude others) : ids = others :=
  eq_of_pairwise_rank Identifier.rank h.ordered h'.ordered fun i => (h.mem i).trans (h'.mem i).symm

theorem Neighbours.of_farms (hfarms : u.farms = s.farms) (h : u.Neighbours p exclude ids) :
    s.Neighbours p exclude ids :=
  ⟨h.ordered, by simpa only [hfarms] using h.mem⟩

theorem listActiveFarms_eq_ok {b : Option BoundingBox} {farms : List Farm} (h : s.listActiveFarms b = .ok farms) :
    farms = (farmsOf s.farms).filter fun f => f.isActive && b.all f.boundingBox.intersects := by
  obtain ⟨all, hall, rfl⟩ := map_eq_ok_iff.mp h
  obtain ⟨stored, hstored, rfl⟩ := map_eq_ok_iff.mp hall
  rw [(usableFarms_eq_ok_iff.mp hstored).2]
  rfl

theorem neighbours_of_meets (hs : s.Keyed) {f : Farm} (h : s.meets f = .ok ids) :
    s.Neighbours f.polygon (some f.id) ids := by
  obtain ⟨farms, hfarms, rfl⟩ := map_eq_ok_iff.mp h
  rw [listActiveFarms_eq_ok hfarms]
  exact overlapping_eq_meeting hs ▸ neighbours_meeting s f.polygon (some f.id)

end Neighbours

end MemoryStore

theorem Service.Concludes.overlap {policy : RetryPolicy} {conflicts : Nat} {repaired : Bool}
    {o : Except (Stop Setback) (Option Farm)} {ids : List FarmId}
    (h : Service.Concludes policy conflicts repaired o (.error (.refused (.overlapConflict ids)))) :
    o = .error (.refused (.final (.overlapConflict ids))) := by
  rcases h.refused_cases with ho | ⟨detail, _, he⟩ | ⟨f, _, he, _⟩
  · exact ho
  · cases he
  · cases f <;> cases he

namespace MemoryStore

theorem Ran.barred {s t : MemoryStore} {config : ServiceConfig} {m : Intent} {repaired : List FarmerId}
    {ids : List FarmId} (hs : s.Keyed)
    (h : s.Ran config m repaired (.error (.refused (.overlapConflict ids))) t) :
    ∃ (u : MemoryStore) (now : Timestamp), u.farms = s.farms ∧ u.Keyed ∧
      u.Tried config.overlaps m now (.error (.refused (.final (.overlapConflict ids)))) t := by
  generalize hr : (.error (.refused (.overlapConflict ids)) : Except (Stop ServiceError) (Option Farm)) = r at h
  cases h with
  | straight htry hend =>
    subst hr
    exact ⟨s, _, rfl, hs, hend.overlap ▸ htry⟩
  | @unrepaired _ i e htry hrepair =>
    cases e with
    | overflow o => cases hr
    | refused e => cases e <;> cases hr
  | repaired htry hrepair hretry hend =>
    subst hr
    exact ⟨_, _, reconcileFarmer_farms s _, hs.reconcileFarmer _, hend.overlap ▸ hretry⟩

end MemoryStore

inductive Operation.Claims (s : MemoryStore) : Operation → FarmId → Polygon → Prop where
  | create {i : FarmId} {r : CreateRequest} {p : Polygon} (hp : Polygon.ofRing r.boundary = .ok p) :
    Claims s (.create i r) i p
  | reshape {r : ReshapeRequest} {f : Farm} {p : Polygon} (hp : Polygon.ofRing r.boundary = .ok p)
    (hf : s.farms[r.farmId]? = some f) (hactive : f.isActive) : Claims s (.reshape r) r.farmId p
  | restore {i : FarmId} {f : Farm} (hf : s.farms[i]? = some f) (hdeleted : ¬f.isActive) :
    Claims s (.restore i) i f.polygon

namespace MemoryStore

section Claims

variable {s : MemoryStore} {o : Operation} {m : Intent} {now dated : Timestamp} {farm : Option Farm} {c : Change}
variable {g : Farm} {i : FarmId} {p : Polygon}

theorem claims_of_planned (hs : s.Keyed) (ho : o.intent? dated = some (.ok m))
    (hstored : farm = none ∨ farm = s.farms[m.farmId]?) (hplan : m.Planned now farm c (some g))
    (htake : m.mayTakeGround) (hactive : g.isActive) : g.id = m.farmId ∧ o.Claims s m.farmId g.polygon := by
  cases o with
  | create i r =>
    obtain ⟨p, hp, rfl⟩ := map_eq_ok_iff.mp (Option.some.inj ho)
    cases hplan with
    | create hc => exact ⟨rfl, .create hp⟩
  | reshape r =>
    obtain ⟨p, hp, rfl⟩ := map_eq_ok_iff.mp (Option.some.inj ho)
    cases hplan with
    | @reshape f _ _ _ _ hg hc =>
      obtain ⟨v, _, rfl⟩ := Farm.reshaped_eq_ok hg
      have hf : s.farms[r.farmId]? = some f := (hstored.resolve_left nofun).symm
      exact ⟨hs.farmId _ f hf, .reshape hp hf hactive⟩
  | restore i =>
    cases ho
    cases hplan with
    | @restore f _ _ _ hdeleted hg hc =>
      obtain ⟨v, _, rfl⟩ := Farm.restored_eq_ok hg
      have hf : s.farms[i]? = some f := (hstored.resolve_left nofun).symm
      have hclaims : (Operation.restore i).Claims s i f.polygon := .restore hf hdeleted
      exact ⟨hs.farmId _ f hf, hclaims⟩
  | retire i | erase i | reassign r =>
    cases ho
    cases htake
  | _ => cases ho

theorem claims_planned (hs : s.Intact) (h : o.Claims s i p) (dated now : Timestamp) :
    ∃ m farm, o.intent? dated = some (.ok m) ∧ m.mayTakeGround ∧ s.current m = .ok farm ∧
      ((∃ f v, s.farms[i]? = some f ∧ m.plan farm now = .error (.overflow v)) ∨
        ∃ c g, m.plan farm now = .ok (.commit c (some g)) ∧ g.isActive ∧ g.id = i ∧ g.polygon = p) := by
  cases h with
  | @create i r p hp =>
    obtain ⟨c, hc⟩ := Intent.insert_eq_ok (.create i r.farmerId p r.metadata dated)
    have hintent : (Operation.create i r).intent? dated =
        some (.ok (.create (.create i r.farmerId p r.metadata dated))) := by
      rw [Operation.intent?, hp]
      rfl
    exact ⟨_, none, hintent, rfl, rfl, .inr ⟨c, _, (Intent.Planned.create hc).plan_eq, rfl, rfl, rfl⟩⟩
  | @reshape r f p hp hf hactive =>
    have hintent : (Operation.reshape r).intent? dated = some (.ok (.reshape r.farmId p)) := by
      rw [Operation.intent?, hp]
      rfl
    have hread : s.current (.reshape r.farmId p) = .ok (some f) :=
      hf ▸ current_eq_stored (m := .reshape r.farmId p) hs fun _ => nofun
    refine ⟨_, some f, hintent, rfl, hread, ?_⟩
    rcases Intent.update_cases f (f.reshaped p now) with ⟨v, hv⟩ | ⟨g, c, hg, hc⟩
    · exact .inl ⟨f, v, hf, congrArg Stop.ofOverflow hv⟩
    · obtain ⟨next, _, rfl⟩ := Farm.reshaped_eq_ok hg
      exact .inr ⟨c, _, congrArg Stop.ofOverflow hc, hactive, hs.farmId _ f hf, rfl⟩
  | @restore i f hf hdeleted =>
    have hread : s.current (.restore i) = .ok (some f) :=
      hf ▸ current_eq_stored (m := .restore i) hs fun _ => nofun
    have hrevise : (Intent.restore i).revise f now = (do
        let after ← f.restored now
        return .commit (← Change.update f after) (some after)) := by
      rw [Intent.revise, if_neg hdeleted]
    refine ⟨_, some f, rfl, rfl, hread, ?_⟩
    rcases Intent.update_cases f (f.restored now) with ⟨v, hv⟩ | ⟨g, c, hg, hc⟩
    · exact .inl ⟨f, v, hf, congrArg Stop.ofOverflow (hrevise.trans hv)⟩
    · obtain ⟨next, _, rfl⟩ := Farm.restored_eq_ok hg
      exact .inr ⟨c, _, congrArg Stop.ofOverflow (hrevise.trans hc), rfl, hs.farmId _ f hf, rfl⟩

end Claims

end MemoryStore

namespace Service

open MemoryStore Work

variable {config : ServiceConfig} {jitter : Jitter} {clock : Nat → Timestamp} {w : World MemoryStore}

theorem run_ran (config : ServiceConfig) (jitter : Jitter) (clock : Nat → Timestamp) (m : Intent)
    (w : World MemoryStore) :
    ∃ repaired, w.store.Ran config m repaired (((service config jitter clock).run m).outcome w).1
      (((service config jitter clock).run m).outcome w).2.store := by
  obtain ⟨n, hcourse⟩ := course_of_retry (s := (service config jitter clock).recorded) (m := m) 0 false w.recorded
  obtain ⟨repaired, _, hran⟩ := ran_of_course hcourse
  have hmirror := (service config jitter clock).run_recorded m w.recorded
  have hbare : ((service config jitter clock).run m).outcome w.recorded.bare =
      ((service config jitter clock).run m).outcome w := rfl
  rw [hbare] at hmirror
  rw [← hmirror]
  exact ⟨repaired, hran⟩

theorem overlappingFarms_misshapen {r : OverlapRequest} {e : RingDefect} (hr : Polygon.ofRing r.boundary = .error e) :
    ((service config jitter clock).overlappingFarms r).outcome w = (.error (.refused (.geometry e)), w) := by
  have hvalid := validate_outcome w r.boundary
  rw [hr] at hvalid
  exact outcome_bind_error hvalid

theorem overlappingFarms_answers (hs : w.store.Intact) {r : OverlapRequest} {p : Polygon}
    (hr : Polygon.ofRing r.boundary = .ok p) :
    ∃ ids, ((service config jitter clock).overlappingFarms r).outcome w = (.ok ids, w) ∧
      w.store.Neighbours p r.excludeFarmId ids := by
  have hvalid := validate_outcome w r.boundary
  rw [hr] at hvalid
  refine ⟨_, ?_, neighbours_meeting w.store p r.excludeFarmId⟩
  rw [overlappingFarms, outcome_bind_ok hvalid, overlapping_outcome, listActiveFarms_of_intact hs,
    ← overlapping_eq_meeting hs.toKeyed]
  rfl

theorem perform_barred (hs : w.store.Keyed) {o : Operation} {i : FarmId} (ho : o.target? = some i) {ids : List FarmId}
    (h : (((service config jitter clock).perform o).outcome w).1 = .error (.refused (.overlapConflict ids))) :
    config.overlaps = .reject ∧ ids ≠ [] ∧ ∃ p, o.Claims w.store i p ∧ w.store.Neighbours p (some i) ids := by
  rcases (service config jitter clock).perform_cases w ho with ⟨e, hgeometry⟩ | ⟨m, hplanned, _, rfl, _, hends⟩
  · rw [hgeometry] at h
    cases h
  · obtain ⟨repaired, hran⟩ := run_ran config jitter clock m
      { w with readings := w.readings + o.lead }
    rw [(hends _).mp h] at hran
    obtain ⟨u, now, hfarms, hu, htried⟩ := hran.barred hs
    obtain ⟨farm, c, result, hread, hplan, hground⟩ := htried.final_cases.resolve_left nofun
    obtain ⟨hreject, htake, g, rfl, hactive, ⟨d, _, he⟩ | ⟨j, js, hmeets, he⟩⟩ := groundFor_eq_error hground
    · cases d <;> cases he
    cases he
    have hstored : farm = none ∨ farm = w.store.farms[m.farmId]? := by
      have hcurrent := current_eq_ok hread
      rwa [hfarms] at hcurrent
    obtain ⟨hid, hclaims⟩ := claims_of_planned hs hplanned hstored hplan htake hactive
    have hneighbours := (neighbours_of_meets hu hmeets).of_farms hfarms
    rw [hid] at hneighbours
    exact ⟨hreject, List.cons_ne_nil j js, g.polygon, hclaims, hneighbours⟩

theorem perform_bars (hs : w.store.Intact) (hreject : config.overlaps = .reject) {o : Operation} {i : FarmId}
    {p : Polygon} (ho : o.Claims w.store i p) {ids : List FarmId} (hids : w.store.Neighbours p (some i) ids)
    (hne : ids ≠ []) :
    (((service config jitter clock).perform o).outcome w).1 = .error (.refused (.overlapConflict ids)) ∨
      ∃ f v, w.store.farms[i]? = some f ∧
        (((service config jitter clock).perform o).outcome w).1 = .error (.overflow v) := by
  obtain ⟨m, farm, hintent, htake, hread, hplan⟩ :=
    claims_planned hs ho (clock w.readings) (clock (w.readings + o.lead))
  obtain ⟨deliver, _, houtcome⟩ := perform_delivers (service config jitter clock) hintent
  rw [houtcome w rfl]
  rcases hplan with ⟨f, v, hf, hover⟩ | ⟨c, g, hcommit, hactive, rfl, rfl⟩
  · refine .inr ⟨f, v, hf, ?_⟩
    rw [(run_concludes (w := { w with readings := w.readings + o.lead }) (.unplanned hread hover)
      (fun _ => nofun) fun _ => nofun).1]
    rfl
  · have hway : w.store.cadastre.inTheWay config.overlaps g = ids := by
      rw [Cadastre.inTheWay, if_pos ⟨hreject, hactive⟩]
      exact (neighbours_meeting w.store g.polygon (some g.id)).unique hids
    have hground : w.store.groundFor config.overlaps m (some g) = .error (.overlapConflict ids) := by
      rw [groundFor_taking hs htake, hway, if_neg hne]
    refine .inl ?_
    rw [(run_concludes (w := { w with readings := w.readings + o.lead }) (.barred hread hcommit hground)
      (fun _ => nofun) fun _ => nofun).1]
    rfl

/-- The farms that share ground with a boundary are found as if each had been compared with it, and nothing changes
when they are asked for. An operation that takes ground is refused over exactly those that are found for its claim. -/
theorem neighbours_exact (config : ServiceConfig) (jitter : Jitter) (clock : Nat → Timestamp) {w : World MemoryStore}
    (hs : w.store.Intact) :
    let s := MemoryStore.service config jitter clock
    (∀ r : OverlapRequest,
        (∀ e, Polygon.ofRing r.boundary = .error e →
          (s.overlappingFarms r).outcome w = (.error (.refused (.geometry e)), w)) ∧
        ∀ p, Polygon.ofRing r.boundary = .ok p →
          ∃ ids, (s.overlappingFarms r).outcome w = (.ok ids, w) ∧ w.store.Neighbours p r.excludeFarmId ids) ∧
      (∀ o i ids, o.target? = some i → ((s.perform o).outcome w).1 = .error (.refused (.overlapConflict ids)) →
        config.overlaps = .reject ∧ ids ≠ [] ∧ ∃ p, o.Claims w.store i p ∧ w.store.Neighbours p (some i) ids ∧
          (s.overlappingFarms ⟨p.ring, some i⟩).outcome w = (.ok ids, w)) ∧
      ∀ o i p ids, config.overlaps = .reject → o.Claims w.store i p → w.store.Neighbours p (some i) ids → ids ≠ [] →
        ((s.perform o).outcome w).1 = .error (.refused (.overlapConflict ids)) ∨
          ∃ f v, w.store.farms[i]? = some f ∧ ((s.perform o).outcome w).1 = .error (.overflow v) := by
  intro s
  refine ⟨?_, ?_, ?_⟩
  · intro r
    exact ⟨fun e hr => overlappingFarms_misshapen hr, fun p hr => overlappingFarms_answers hs hr⟩
  · intro o i ids ho h
    obtain ⟨hreject, hne, p, hclaims, hids⟩ := perform_barred hs.toKeyed ho h
    have hread : ∃ found, (s.overlappingFarms ⟨p.ring, some i⟩).outcome w = (.ok found, w) ∧
        w.store.Neighbours p (some i) found := overlappingFarms_answers hs (Polygon.ofRing_eq_ok_iff.mpr rfl)
    -- The list that bars and the list that is answered are both ordered and complete.
    obtain ⟨found, hanswer, hfound⟩ := hread
    obtain rfl := hids.unique hfound
    exact ⟨hreject, hne, p, hclaims, hids, hanswer⟩
  · intro o i p ids hreject ho hids hne
    exact perform_bars hs hreject ho hids hne

theorem parcel_in_the_way :
    let s := MemoryStore.service ⟨.standard, .reject⟩ .none fun _ => ⟨0, 0⟩
    let w := World.ofStore (newcomers.writeFarm (.insert parcel))
    let k : FarmId := ⟨⟨⟨4, by decide⟩⟩⟩
    (s.overlappingFarms ⟨parcel.polygon.ring, none⟩).outcome w = (.ok [parcel.id], w) ∧
      (s.overlappingFarms ⟨parcel.polygon.ring, some parcel.id⟩).outcome w = (.ok [], w) ∧
      ((s.perform (.create k ⟨giver, parcel.polygon.ring, .empty⟩)).outcome w).1 =
        .error (.refused (.overlapConflict [parcel.id])) := by
  intro s w k
  have hnewcomers : newcomers.Intact := (Intact.empty.putFarmer (.new taker)).putFarmer (.new giver)
  have hs : w.store.Intact := hnewcomers.writeFarm (.insert parcel)
  have hfarms : ∀ i : FarmId, w.store.farms[i]? = if parcel.id = i then some parcel else none :=
    writeFarm_farms (.insert parcel)
  have hground : parcel.polygon.interiorsOverlap parcel.polygon := by decide +kernel
  have hfound : ∀ exclude, exclude ≠ some parcel.id →
      w.store.Neighbours parcel.polygon exclude [parcel.id] := by
    intro exclude hexclude
    refine ⟨List.pairwise_singleton _ _, ?_⟩
    intro i
    rw [List.mem_singleton, hfarms]
    constructor
    · rintro rfl
      exact ⟨parcel, if_pos rfl, rfl, hexclude.symm, hground⟩
    · rintro ⟨f, hf, _⟩
      by_contra hne
      rw [if_neg (Ne.symm hne)] at hf
      cases hf
  have hnone : w.store.Neighbours parcel.polygon (some parcel.id) [] := by
    refine ⟨List.Pairwise.nil, ?_⟩
    intro i
    rw [hfarms]
    refine iff_of_false List.not_mem_nil ?_
    rintro ⟨f, hf, _, hother, _⟩
    rw [if_neg fun hi => hother (congrArg some hi.symm)] at hf
    cases hf
  have hring : Polygon.ofRing parcel.polygon.ring = .ok parcel.polygon := Polygon.ofRing_eq_ok_iff.mpr rfl
  obtain ⟨hquery, _, hbars⟩ := neighbours_exact ⟨.standard, .reject⟩ .none (fun _ => ⟨0, 0⟩) hs
  refine ⟨?_, ?_, ?_⟩
  · obtain ⟨ids, hout, hids⟩ := (hquery ⟨parcel.polygon.ring, none⟩).2 _ hring
    rw [hout, hids.unique (hfound none nofun)]
  · obtain ⟨ids, hout, hids⟩ := (hquery ⟨parcel.polygon.ring, some parcel.id⟩).2 _ hring
    rw [hout, hids.unique hnone]
  · have hother : some k ≠ some parcel.id := by decide
    let o : Operation := .create k ⟨giver, parcel.polygon.ring, .empty⟩
    have hclaims : o.Claims w.store k parcel.polygon := .create hring
    rcases hbars o k parcel.polygon [parcel.id] rfl hclaims (hfound (some k) hother) (List.cons_ne_nil _ _) with
      hbarred | ⟨f, v, hf, _⟩
    · exact hbarred
    · rw [hfarms, if_neg fun hk => hother (congrArg some hk.symm)] at hf
      cases hf

end Service

end FarmRegistry
