import FarmRegistry.Proofs.Service.MemoryRuns

namespace FarmRegistry

def Operation.intent? (now : Timestamp) : Operation → Option (Except RingDefect Intent)
  | create i r => some ((Polygon.ofRing r.boundary).map fun p => .create (.create i r.farmerId p r.metadata now))
  | reshape r => some ((Polygon.ofRing r.boundary).map (.reshape r.farmId))
  | retire i => some (.ok (.retire i))
  | restore i => some (.ok (.restore i))
  | erase i => some (.ok (.erase i))
  | reassign r => some (.ok (.reassign r.farmId r.farmerId))
  | _ => none

def Operation.lead : Operation → Nat
  | create _ _ => 1
  | _ => 0

theorem Operation.intent?_of_target {o : Operation} {i : FarmId} (ho : o.target? = some i) (now : Timestamp) :
    ∃ r, o.intent? now = some r := by
  cases o with
  | registerFarmer _ | reconcileFarmer _ | farm _ | farmer _ | overlappingFarms _ | allOverlaps | rebuildIndex =>
    cases ho
  | _ => exact ⟨_, rfl⟩

theorem Operation.of_intent? {o : Operation} {now : Timestamp} {m : Intent} (h : o.intent? now = some (.ok m)) :
    m.Requested ∧ o.target? = some m.farmId ∧ ∀ f, m = .create f → ∃ r, o = .create f.id r := by
  cases o with
  | create i r =>
    obtain ⟨p, _, rfl⟩ := map_eq_ok_iff.mp (Option.some.inj h)
    refine ⟨?_, rfl, ?_⟩
    · intro f hf
      exact ⟨i, r.farmerId, p, r.metadata, now, (Intent.create.inj hf).symm⟩
    · intro f hf
      exact ⟨r, Intent.create.inj hf ▸ rfl⟩
  | reshape r =>
    obtain ⟨p, _, rfl⟩ := map_eq_ok_iff.mp (Option.some.inj h)
    exact ⟨fun _ => nofun, rfl, fun _ => nofun⟩
  | retire i =>
    cases h
    exact ⟨fun _ => nofun, rfl, fun _ => nofun⟩
  | restore i =>
    cases h
    exact ⟨fun _ => nofun, rfl, fun _ => nofun⟩
  | erase i =>
    cases h
    exact ⟨fun _ => nofun, rfl, fun _ => nofun⟩
  | reassign r =>
    cases h
    exact ⟨fun _ => nofun, rfl, fun _ => nofun⟩
  | _ => cases h

namespace Work

variable {σ ε α β : Type}

def EndsAs (x : Work σ ε α) (w : World σ) (y : Work σ ε β) (v : World σ) : Prop :=
  (x.outcome w).2 = (y.outcome v).2 ∧ ∀ e, (x.outcome w).1 = .error e ↔ (y.outcome v).1 = .error e

end Work

namespace Service

open Work

section Mutations

variable {σ : Type} (s : Service σ) {m : Intent} {o : Operation} {k : FarmId} (w : World σ)

theorem runToFarm_cases (hm : ∀ i, m ≠ .erase i) :
    (∃ f v, (s.run m).outcome w = (.ok (some f), v) ∧ (s.runToFarm m).outcome w = (.ok f, v)) ∨
      ∃ e v, (s.run m).outcome w = (.error e, v) ∧ (s.runToFarm m).outcome w = (.error e, v) := by
  rcases hrun : (s.run m).outcome w with ⟨e | _ | f, v⟩
  · exact .inr ⟨e, v, rfl, outcome_bind_error hrun⟩
  · obtain ⟨i, rfl⟩ := run_eq_none (congrArg Prod.fst hrun)
    exact absurd rfl (hm i)
  · exact .inl ⟨f, v, rfl, outcome_bind_ok hrun⟩

theorem validate_outcome (boundary : Ring) :
    (validate boundary).outcome w =
      ((Polygon.ofRing boundary).mapError fun e => .refused (.geometry e), w) := rfl

theorem create_misshapen {i : FarmId} {r : CreateRequest} {e : RingDefect}
    (hr : Polygon.ofRing r.boundary = .error e) : (s.create i r).outcome w = (.error (.refused (.geometry e)), w) := by
  have hvalid := validate_outcome w r.boundary
  rw [hr] at hvalid
  exact outcome_bind_error hvalid

theorem create_outcome (i : FarmId) {r : CreateRequest} {p : Polygon} (hr : Polygon.ofRing r.boundary = .ok p) :
    (s.create i r).outcome w =
      (s.runToFarm (.create (.create i r.farmerId p r.metadata (s.clock w.readings)))).outcome
        { w with readings := w.readings + 1 } := by
  have hvalid := validate_outcome w r.boundary
  rw [hr] at hvalid
  rw [create, outcome_bind_ok hvalid, outcome_bind_ok (outcome_now s w)]

theorem reshape_misshapen {r : ReshapeRequest} {e : RingDefect} (hr : Polygon.ofRing r.boundary = .error e) :
    (s.reshape r).outcome w = (.error (.refused (.geometry e)), w) := by
  have hvalid := validate_outcome w r.boundary
  rw [hr] at hvalid
  exact outcome_bind_error hvalid

theorem reshape_outcome {r : ReshapeRequest} {p : Polygon} (hr : Polygon.ofRing r.boundary = .ok p) :
    (s.reshape r).outcome w = (s.runToFarm (.reshape r.farmId p)).outcome w := by
  have hvalid := validate_outcome w r.boundary
  rw [hr] at hvalid
  exact outcome_bind_ok hvalid

theorem perform_misshapen {e : RingDefect} (h : o.intent? (s.clock w.readings) = some (.error e)) :
    (s.perform o).outcome w = (.error (.refused (.geometry e)), w) := by
  cases o with
  | create i r => exact s.create_misshapen w (map_eq_error_iff.mp (Option.some.inj h))
  | reshape r => exact s.reshape_misshapen w (map_eq_error_iff.mp (Option.some.inj h))
  | _ => cases h

def delivered (i : FarmId) : Option Farm → Except (Stop ServiceError) Farm
  | some f => .ok f
  | none => .error (.refused (.farmNotFound i))

theorem exists_delivered {result : Option Farm} (h : result = none → ∃ i, m = .erase i) (hm : ∀ i, m ≠ .erase i)
    (i : FarmId) : ∃ f, delivered i result = .ok f := by
  cases result with
  | some f => exact ⟨f, rfl⟩
  | none =>
    obtain ⟨j, hj⟩ := h rfl
    exact absurd hj (hm j)

theorem runToFarm_delivers :
    (s.runToFarm m).outcome w =
      (((s.run m).outcome w).1 >>= delivered m.farmId, ((s.run m).outcome w).2) := by
  rw [runToFarm, outcome_bind]
  rcases (s.run m).outcome w with ⟨e | _ | f, v⟩ <;> rfl

theorem erase_delivers (i : FarmId) :
    (s.erase i).outcome w =
      (((s.run (.erase i)).outcome w).1 >>= fun _ => .ok (), ((s.run (.erase i)).outcome w).2) := by
  rw [erase, outcome_bind]
  rcases (s.run (.erase i)).outcome w with ⟨e | farm, v⟩ <;> rfl

theorem perform_delivers {n : Nat} (h : o.intent? (s.clock n) = some (.ok m)) :
    ∃ deliver : Option Farm → Except (Stop ServiceError) o.Answer,
      (∀ result, (result = none → ∃ i, m = .erase i) → ∃ a, deliver result = .ok a) ∧
        ∀ w : World σ, w.readings = n →
          (s.perform o).outcome w = (((s.run m).outcome { w with readings := n + o.lead }).1 >>= deliver,
            ((s.run m).outcome { w with readings := n + o.lead }).2) := by
  cases o with
  | create i r =>
    obtain ⟨p, hr, rfl⟩ := map_eq_ok_iff.mp (Option.some.inj h)
    refine ⟨delivered i, fun _ hnone => exists_delivered hnone (fun _ => nofun) i, ?_⟩
    rintro w rfl
    exact (s.create_outcome w i hr).trans (s.runToFarm_delivers _)
  | reshape r =>
    obtain ⟨p, hr, rfl⟩ := map_eq_ok_iff.mp (Option.some.inj h)
    refine ⟨delivered r.farmId, fun _ hnone => exists_delivered hnone (fun _ => nofun) _, ?_⟩
    rintro w rfl
    exact (s.reshape_outcome w hr).trans (s.runToFarm_delivers _)
  | retire i =>
    cases h
    refine ⟨delivered i, fun _ hnone => exists_delivered hnone (fun _ => nofun) i, ?_⟩
    rintro w rfl
    exact s.runToFarm_delivers w
  | restore i =>
    cases h
    refine ⟨delivered i, fun _ hnone => exists_delivered hnone (fun _ => nofun) i, ?_⟩
    rintro w rfl
    exact s.runToFarm_delivers w
  | erase i =>
    cases h
    refine ⟨fun _ => .ok (), fun _ _ => ⟨(), rfl⟩, ?_⟩
    rintro w rfl
    exact s.erase_delivers w i
  | reassign r =>
    cases h
    refine ⟨delivered r.farmId, fun _ hnone => exists_delivered hnone (fun _ => nofun) _, ?_⟩
    rintro w rfl
    exact s.runToFarm_delivers w
  | _ => cases h

theorem perform_endsAs (h : o.intent? (s.clock w.readings) = some (.ok m)) :
    EndsAs (s.perform o) w (s.run m) { w with readings := w.readings + o.lead } := by
  obtain ⟨deliver, hdelivers, houtcome⟩ := s.perform_delivers h
  rw [EndsAs, houtcome w rfl]
  refine ⟨rfl, ?_⟩
  intro e
  rcases hrun : (s.run m).outcome { w with readings := w.readings + o.lead } with ⟨f | result, v⟩
  · exact ⟨fun he => congrArg Except.error (Except.error.inj he), fun he => congrArg Except.error (Except.error.inj he)⟩
  · obtain ⟨a, ha⟩ := hdelivers result (by rintro rfl; exact run_eq_none (congrArg Prod.fst hrun))
    have hok : (Except.ok result : Except (Stop ServiceError) (Option Farm)) >>= deliver = .ok a := ha
    rw [hok]
    exact ⟨nofun, nofun⟩

theorem perform_cases (ho : o.target? = some k) :
    (∃ e, (s.perform o).outcome w = (.error (.refused (.geometry e)), w)) ∨
      ∃ m, o.intent? (s.clock w.readings) = some (.ok m) ∧ m.Requested ∧ m.farmId = k ∧
        EndsAs (s.perform o) w (s.run m) { w with readings := w.readings + o.lead } := by
  obtain ⟨planned, hplanned⟩ := o.intent?_of_target ho (s.clock w.readings)
  cases planned with
  | error e => exact .inl ⟨e, s.perform_misshapen w hplanned⟩
  | ok m =>
    obtain ⟨hm, htarget, _⟩ := Operation.of_intent? hplanned
    exact .inr ⟨m, hplanned, hm, Option.some.inj (htarget.symm.trans ho), s.perform_endsAs w hplanned⟩

end Mutations

section Memory

variable {config : ServiceConfig} {jitter : Jitter} {clock : Nat → Timestamp} {o : Operation} {k : FarmId}

theorem perform_ran (ho : o.target? = some k) (w : World MemoryStore) :
    let s := (MemoryStore.service config jitter clock).recorded
    let r := ((s.perform o).outcome w.recorded).1
    let v := ((s.perform o).outcome w.recorded).2
    ((∃ e, r = .error (.refused (.geometry e))) ∧ v = w.recorded) ∨
      ∃ m answer, m.Requested ∧ m.farmId = k ∧ (∀ e, r = .error e ↔ answer = .error e) ∧
        w.store.Ran config m v.store.reconciled answer v.store.inner := by
  intro s r v
  rcases s.perform_cases w.recorded ho with ⟨e, hgeometry⟩ | ⟨m, _, hm, hk, hworld, hends⟩
  · exact .inl ⟨⟨e, congrArg Prod.fst hgeometry⟩, congrArg Prod.snd hgeometry⟩
  · obtain ⟨tries, hcourse⟩ := course_of_retry (s := s) (m := m) 0 false
      { w.recorded with readings := w.readings + o.lead }
    obtain ⟨l, hl, hran⟩ := ran_of_course hcourse
    refine .inr ⟨m, _, hm, hk, hends, ?_⟩
    have hv : v = ((s.retry m 0 false).outcome { w.recorded with readings := w.readings + o.lead }).2 := hworld
    rw [hv, hl]
    exact hran

end Memory

end Service

end FarmRegistry
