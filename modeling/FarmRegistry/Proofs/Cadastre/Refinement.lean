import FarmRegistry.Proofs.Cadastre.Changes
import FarmRegistry.Proofs.Service.Mutations

namespace FarmRegistry

namespace Service

open Work MemoryStore

def seen {α : Type} (x : Except (Stop ServiceError) α × World MemoryStore) : Cadastre.Step α :=
  (x.1, x.2.store.cadastre)

variable {config : ServiceConfig} {jitter : Jitter} {clock : Nat → Timestamp} {w : World MemoryStore}

section Runs

variable {m : Intent} {farm before : Option Farm} {f g : Farm} {c : Change}

theorem seen_runToFarm (hm : ∀ i, m ≠ .erase i) {a : Cadastre.Step Farm}
    (h : seen (((service config jitter clock).run m).outcome w) = (a.1.map some, a.2)) :
    seen (((service config jitter clock).runToFarm m).outcome w) = a := by
  obtain ⟨answer, d⟩ := a
  rcases (service config jitter clock).runToFarm_cases w hm with ⟨f, v, hrun, hfarm⟩ | ⟨e, v, hrun, hfarm⟩
  all_goals
    rw [hrun] at h
    rw [hfarm]
    obtain ⟨hanswer, hstore⟩ := Prod.mk.inj h
    refine Prod.ext ?_ hstore
    cases answer <;> cases hanswer
    rfl

theorem seen_run {o : Except (Stop Setback) (Option Farm)} {t : MemoryStore}
    (h : w.store.Tried config.overlaps m (clock w.readings) o t)
    (hconflict : ∀ detail, o ≠ .error (.refused (.store (.conflict detail))))
    (hnegative : ∀ i, o ≠ .error (.refused (.store (.negativeAggregate i)))) :
    seen (((service config jitter clock).run m).outcome w) = (o.mapError (Stop.map Setback.reason), t.cadastre) := by
  refine Prod.ext ?_ ?_
  · exact (run_concludes h hconflict hnegative).1
  · exact congrArg cadastre (run_concludes h hconflict hnegative).2

theorem seen_run_put (hs : w.store.Balanced) (hread : w.store.current m = .ok farm)
    (hplan : m.Planned (clock w.readings) farm c (some g)) {inTheWay : List FarmId}
    (hground : w.store.groundFor config.overlaps m (some g) =
      if inTheWay = [] then .ok () else .error (.overlapConflict inTheWay))
    (hc : w.store.Turns c before (some g))
    (hcurrent : w.store.farms[c.write.farmId]?.map Farm.version = c.write.expected?)
    (hwrite : (w.store.writeFarm c.write).farms = w.store.farms.insert g.id g)
    (hfits : ∀ i, Totals.Fits (Farm.holding i (farmsOf (w.store.cadastre.put inTheWay g).2.farms))) :
    seen (((service config jitter clock).run m).outcome w) =
      ((w.store.cadastre.put inTheWay g).1.map some, (w.store.cadastre.put inTheWay g).2) := by
  unfold Cadastre.put at hfits ⊢
  by_cases hfree : inTheWay = []
  · have hclear : ¬inTheWay ≠ [] := not_not.mpr hfree
    rw [if_pos hfree] at hground
    rw [if_neg hclear] at hfits ⊢
    by_cases howner : g.farmerId ∈ w.store.farmers
    · have hregistered : ¬g.farmerId ∉ w.store.cadastre.farmers := not_not.mpr (mem_cadastre.mpr howner)
      rw [if_neg hregistered] at hfits ⊢
      obtain ⟨hok, hcadastre⟩ := hs.commit_put hc hcurrent hwrite howner hfits
      rw [seen_run (.committed hread hplan.plan_eq hground hok) (fun _ => nofun) fun _ => nofun, hcadastre]
      rfl
    · have habsent : g.farmerId ∉ w.store.cadastre.farmers := mt mem_cadastre.mp howner
      have hrefused := hs.toSound.commit_unregistered hc hcurrent howner
      rw [if_pos habsent, seen_run (.refused hread hplan.plan_eq hground hrefused) (fun _ => nofun) fun _ => nofun]
      rfl
  · rw [if_neg hfree] at hground
    rw [if_pos hfree, seen_run (.barred hread hplan.plan_eq hground) (fun _ => nofun) fun _ => nofun]
    rfl

theorem seen_create_put {f : Farm} (hs : w.store.Balanced) (harea : 0 ≤ f.area.val)
    (hfresh : w.store.farms[f.id]? = none) {inTheWay : List FarmId}
    (hground : w.store.groundFor config.overlaps (.create f) (some f) =
      if inTheWay = [] then .ok () else .error (.overlapConflict inTheWay))
    (hfits : ∀ i, Totals.Fits (Farm.holding i (farmsOf (w.store.cadastre.put inTheWay f).2.farms))) :
    seen (((service config jitter clock).runToFarm (.create f)).outcome w) = w.store.cadastre.put inTheWay f := by
  obtain ⟨ds, hds, _⟩ := TotalsDelta.exists_between Farm.areaNonneg_none (Farm.areaNonneg_some harea)
  have hc : Change.insert f = .ok ⟨.insert f, ds⟩ := Change.insert_eq_ok_iff.mpr ⟨rfl, hds⟩
  have hcurrent : w.store.farms[f.id]?.map Farm.version = (Write.insert f).expected? := congrArg _ hfresh
  refine seen_runToFarm (m := .create f) (fun _ => nofun) ?_
  exact seen_run_put hs rfl (.create hc) hground (insert_turns harea hc hcurrent) hcurrent rfl hfits

variable (hs : w.store.Balanced) (hcreate : ∀ f, m ≠ .create f) (herase : ∀ i, m ≠ .erase i)

include hs hcreate

theorem seen_run_absent (habsent : w.store.farms[m.farmId]? = none) :
    seen (((service config jitter clock).run m).outcome w) = w.store.cadastre.refuse (.farmNotFound m.farmId) := by
  have hread : w.store.current m = .ok none := habsent ▸ current_eq_stored hs.toIntact hcreate
  have hplan : m.plan none (clock w.readings) = .error (.refused (.farmNotFound m.farmId)) := by
    cases m with
    | create f => exact absurd rfl (hcreate f)
    | _ => rfl
  exact seen_run (.unplanned hread hplan) (fun _ => nofun) fun _ => nofun

include herase

theorem seen_absent (habsent : w.store.farms[m.farmId]? = none) :
    seen (((service config jitter clock).runToFarm m).outcome w) =
      w.store.cadastre.refuse (.farmNotFound m.farmId) :=
  seen_runToFarm herase (seen_run_absent hs hcreate habsent)

theorem seen_unchanged (hstored : w.store.farms[m.farmId]? = some f)
    (hplan : m.plan (some f) (clock w.readings) = .ok (.unchanged f)) :
    seen (((service config jitter clock).runToFarm m).outcome w) = (.ok f, w.store.cadastre) := by
  have hread : w.store.current m = .ok (some f) := hstored ▸ current_eq_stored hs.toIntact hcreate
  exact seen_runToFarm herase (seen_run (.unchanged hread hplan) (fun _ => nofun) fun _ => nofun)

theorem seen_update (hstored : w.store.farms[m.farmId]? = some f) (hid : g.id = f.id) (harea : 0 ≤ g.area.val)
    (hplan : ∀ c, Change.update f g = .ok c → m.Planned (clock w.readings) (some f) c (some g))
    {inTheWay : List FarmId}
    (hground : w.store.groundFor config.overlaps m (some g) =
      if inTheWay = [] then .ok () else .error (.overlapConflict inTheWay))
    (hfits : ∀ i, Totals.Fits (Farm.holding i (farmsOf (w.store.cadastre.put inTheWay g).2.farms))) :
    seen (((service config jitter clock).runToFarm m).outcome w) = w.store.cadastre.put inTheWay g := by
  have hread : w.store.current m = .ok (some f) := hstored ▸ current_eq_stored hs.toIntact hcreate
  have hf : w.store.farms[f.id]? = some f := current_stored hs.toIntact hcreate hread rfl
  have hbefore := Farm.areaNonneg_some (hs.areas f.id f hf)
  obtain ⟨ds, hds, _⟩ := TotalsDelta.exists_between hbefore (Farm.areaNonneg_some harea)
  have hc : Change.update f g = .ok ⟨.update g f.version, ds⟩ := Change.update_eq_ok_iff.mpr ⟨rfl, hds⟩
  refine seen_runToFarm herase ?_
  refine seen_run_put hs hread (hplan _ hc) hground (update_turns hid harea hc hf) ?_ rfl hfits
  rw [Write.farmId, hid, hf]
  rfl

theorem seen_revision (keeps : Farm → Prop) [DecidablePred keeps] {revised : Farm → Farm}
    {inTheWay : Farm → List FarmId} {step : Cadastre.Step Farm}
    (hversions : ∀ (i : FarmId) (f : Farm), w.store.farms[i]? = some f → f.version.val < 9223372036854775807)
    (hkeeps : ∀ f, keeps f → m.plan (some f) (clock w.readings) = .ok (.unchanged f))
    (hid : ∀ f, (revised f).id = f.id) (harea : ∀ f, 0 ≤ f.area.val → 0 ≤ (revised f).area.val)
    (hplan : ∀ f c, f.nextVersion (clock w.readings) =
      .ok { f with version := f.successor, updatedAt := clock w.readings } →
      ¬keeps f → Change.update f (revised f) = .ok c → m.Planned (clock w.readings) (some f) c (some (revised f)))
    (hground : ∀ f, w.store.groundFor config.overlaps m (some (revised f)) =
      if inTheWay f = [] then .ok () else .error (.overlapConflict (inTheWay f)))
    (hstep : step = w.store.cadastre.onFarm m.farmId fun f =>
      if keeps f then (.ok f, w.store.cadastre) else w.store.cadastre.put (inTheWay f) (revised f))
    (hfits : ∀ j, Totals.Fits (Farm.holding j (farmsOf step.2.farms))) :
    seen (((service config jitter clock).runToFarm m).outcome w) = step := by
  subst hstep
  cases hf : w.store.farms[m.farmId]? with
  | none =>
    rw [Cadastre.onFarm_none hf]
    exact seen_absent hs hcreate herase hf
  | some f =>
    rw [Cadastre.onFarm_some hf] at hfits ⊢
    by_cases hkeep : keeps f
    · rw [if_pos hkeep]
      exact seen_unchanged hs hcreate herase hf (hkeeps f hkeep)
    · rw [if_neg hkeep] at hfits ⊢
      have hnext := Farm.nextVersion_successor (hversions m.farmId f hf) (clock w.readings)
      have hnonneg := harea f (hs.areas m.farmId f hf)
      exact seen_update hs hcreate herase hf (hid f) hnonneg (fun c => hplan f c hnext hkeep) (hground f) hfits

end Runs

section Mutations

variable (hs : w.store.Balanced)

include hs

theorem seen_create {i : FarmId} {r : CreateRequest} (hfresh : w.store.farms[i]? = none)
    (hfits : ∀ j, Totals.Fits (Farm.holding j (farmsOf
      (w.store.cadastre.perform config.overlaps (clock w.readings) (.create i r)).2.farms))) :
    seen (((service config jitter clock).create i r).outcome w) =
      w.store.cadastre.perform config.overlaps (clock w.readings) (.create i r) := by
  rw [Cadastre.perform] at hfits ⊢
  cases hr : Polygon.ofRing r.boundary with
  | error e =>
    rw [Cadastre.onGround_error hr, create_misshapen _ w hr]
    rfl
  | ok p =>
    rw [Cadastre.onGround_ok hr] at hfits ⊢
    rw [create_outcome _ w i hr]
    -- The clock is read for the new farm before its run, which reads it again to no effect.
    exact seen_create_put (w := { w with readings := w.readings + 1 }) hs (Area.ofPolygon_val_nonneg p) hfresh
      (groundFor_taking hs.toIntact rfl _) hfits

variable (hversions : ∀ (i : FarmId) (f : Farm), w.store.farms[i]? = some f → f.version.val < 9223372036854775807)

include hversions

theorem seen_reshape {r : ReshapeRequest}
    (hfits : ∀ j, Totals.Fits (Farm.holding j (farmsOf
      (w.store.cadastre.perform config.overlaps (clock w.readings) (.reshape r)).2.farms))) :
    seen (((service config jitter clock).reshape r).outcome w) =
      w.store.cadastre.perform config.overlaps (clock w.readings) (.reshape r) := by
  rw [Cadastre.perform] at hfits ⊢
  cases hr : Polygon.ofRing r.boundary with
  | error e =>
    rw [Cadastre.onGround_error hr, reshape_misshapen _ w hr]
    rfl
  | ok p =>
    rw [Cadastre.onGround_ok hr] at hfits ⊢
    rw [reshape_outcome _ w hr]
    apply seen_revision (m := .reshape r.farmId p) hs (fun _ => nofun) (fun _ => nofun) (fun _ => False) hversions
    case hstep => rfl
    case hkeeps => exact fun _ => False.elim
    case hid => exact fun _ => rfl
    case harea => exact fun _ _ => Area.ofPolygon_val_nonneg p
    case hplan => exact fun f c hnext _ => .reshape (congrArg (Except.map _) hnext)
    case hground => exact fun f => groundFor_taking hs.toIntact rfl _
    case hfits => exact hfits

theorem seen_retire {i : FarmId}
    (hfits : ∀ j, Totals.Fits (Farm.holding j (farmsOf
      (w.store.cadastre.perform config.overlaps (clock w.readings) (.retire i)).2.farms))) :
    seen (((service config jitter clock).retire i).outcome w) =
      w.store.cadastre.perform config.overlaps (clock w.readings) (.retire i) := by
  apply seen_revision (m := .retire i) hs (fun _ => nofun) (fun _ => nofun) (fun f => ¬f.isActive) hversions
  case hstep =>
    simp only [ite_not]
    rfl
  case hkeeps =>
    intro f hdeleted
    refine Stop.ofOverflow_eq_ok_iff.mpr ?_
    rw [Intent.revise, if_neg hdeleted]
    rfl
  case hid => exact fun _ => rfl
  case harea => exact fun _ => id
  case hplan => exact fun f c hnext hactive => .retire (not_not.mp hactive) (congrArg (Except.map _) hnext)
  case hground => exact fun f => rfl
  case hfits => exact hfits

theorem seen_restore {i : FarmId}
    (hfits : ∀ j, Totals.Fits (Farm.holding j (farmsOf
      (w.store.cadastre.perform config.overlaps (clock w.readings) (.restore i)).2.farms))) :
    seen (((service config jitter clock).restore i).outcome w) =
      w.store.cadastre.perform config.overlaps (clock w.readings) (.restore i) := by
  apply seen_revision (m := .restore i) hs (fun _ => nofun) (fun _ => nofun) (fun f => f.isActive) hversions
  case hstep => rfl
  case hkeeps =>
    intro f hactive
    refine Stop.ofOverflow_eq_ok_iff.mpr ?_
    rw [Intent.revise, if_pos hactive]
    rfl
  case hid => exact fun _ => rfl
  case harea => exact fun _ => id
  case hplan => exact fun f c hnext hdeleted => .restore hdeleted (congrArg (Except.map _) hnext)
  case hground => exact fun f => groundFor_taking hs.toIntact rfl _
  case hfits => exact hfits

theorem seen_reassign {r : ReassignRequest}
    (hfits : ∀ j, Totals.Fits (Farm.holding j (farmsOf
      (w.store.cadastre.perform config.overlaps (clock w.readings) (.reassign r)).2.farms))) :
    seen (((service config jitter clock).reassign r).outcome w) =
      w.store.cadastre.perform config.overlaps (clock w.readings) (.reassign r) := by
  apply seen_revision (m := .reassign r.farmId r.farmerId) hs (fun _ => nofun) (fun _ => nofun)
    (fun f => f.farmerId = r.farmerId) hversions
  case hstep => rfl
  case hkeeps =>
    intro f howner
    refine Stop.ofOverflow_eq_ok_iff.mpr ?_
    rw [Intent.revise, if_pos howner]
    rfl
  case hid => exact fun _ => rfl
  case harea => exact fun _ => id
  case hplan => exact fun f c hnext howner => .reassign howner (congrArg (Except.map _) hnext)
  case hground => exact fun f => rfl
  case hfits => exact hfits

omit hversions in
theorem seen_erase (policy : OverlapPolicy) (now : Timestamp) (i : FarmId) :
    seen (((service config jitter clock).erase i).outcome w) = w.store.cadastre.perform policy now (.erase i) := by
  have hrun : seen (((service config jitter clock).erase i).outcome w) =
      ((seen (((service config jitter clock).run (.erase i)).outcome w)).1.map fun _ => (),
        (seen (((service config jitter clock).run (.erase i)).outcome w)).2) := by
    rw [erase, outcome_bind]
    rcases ((service config jitter clock).run (.erase i)).outcome w with ⟨e | farm, v⟩ <;> rfl
  rw [hrun, Cadastre.perform]
  have hne : ∀ f, Intent.erase i ≠ .create f := by
    intro f h
    cases h
  cases hf : w.store.farms[i]? with
  | none =>
    rw [Cadastre.onFarm_none hf, seen_run_absent hs hne hf]
    rfl
  | some f =>
    rw [Cadastre.onFarm_some hf]
    have hid : f.id = i := hs.farmId i f hf
    have hstored : w.store.farms[f.id]? = some f := hid ▸ hf
    have hread : w.store.current (.erase i) = .ok (some f) :=
      (current_eq_stored hs.toIntact hne).trans (congrArg Except.ok hf)
    obtain ⟨ds, hds, _⟩ := TotalsDelta.exists_between (Farm.areaNonneg_some (hs.areas i f hf)) Farm.areaNonneg_none
    have hc : Change.remove f = .ok ⟨.remove f.id f.version, ds⟩ := Change.remove_eq_ok_iff.mpr ⟨rfl, hds⟩
    have hok := (hs.remove_stored hstored hc).1
    have hplan : (Intent.erase i).Planned (clock w.readings) (some f) ⟨.remove f.id f.version, ds⟩ none := .erase hc
    have hcadastre := hs.commit_cadastre (remove_turns hc hstored) hok
    have herased : ∀ e, (.ok none : Except (Stop Setback) (Option Farm)) ≠ .error e := by
      intro e h
      cases h
    rw [seen_run (.committed hread hplan.plan_eq rfl hok) (fun _ => herased _) fun _ => herased _, hcadastre, ← hid]
    rfl

end Mutations

section Reads

variable (hs : w.store.Balanced) (policy : OverlapPolicy) (now : Timestamp)

include hs

theorem seen_registerFarmer (i : FarmerId) :
    seen (((service config jitter clock).registerFarmer i).outcome w) =
      w.store.cadastre.perform policy now (.registerFarmer i) := by
  obtain ⟨f, hok, hslot, hmem⟩ := registerFarmer_slot hs.toIntact i
  have hcadastre : (w.store.registerFarmer i).state.cadastre =
      { w.store.cadastre with farmers := insert i w.store.cadastre.farmers } := by
    apply cadastre_eq
    · intro j
      rw [hmem, Finset.mem_insert, mem_cadastre]
    · exact registerFarmer_farms w.store i
  rw [Cadastre.perform, ← hcadastre, (hs.registerFarmer i).summed_eq hslot]
  refine Prod.ext ?_ rfl
  change (w.store.registerFarmer i).outcome.mapError _ = _
  rw [hok]
  rfl

theorem readFarmer_eq (i : FarmerId) :
    w.store.cadastre.readFarmer i =
      (w.store.farmers[i]?.elim (.error (.refused (.farmerNotFound i))) (.ok ∘ FarmerSlot.farmer),
        w.store.cadastre) := by
  rw [Cadastre.readFarmer]
  cases hi : w.store.farmers[i]? with
  | none =>
    have habsent : i ∉ w.store.cadastre.farmers := by
      intro hmem
      obtain ⟨slot, hslot⟩ := mem_iff_exists_getElem?.mp (mem_cadastre.mp hmem)
      rw [hi] at hslot
      cases hslot
    rw [if_neg habsent]
    rfl
  | some slot =>
    rw [if_pos (mem_cadastre.mpr (mem_iff_exists_getElem?.mpr ⟨slot, hi⟩)), hs.summed_eq hi]
    rfl

theorem seen_reconcileFarmer (i : FarmerId) :
    seen (((service config jitter clock).reconcileFarmer i).outcome w) =
      w.store.cadastre.perform policy now (.reconcileFarmer i) := by
  obtain ⟨hanswer, hstore⟩ := reconcile_balanced config jitter clock hs i
  rw [Cadastre.perform, readFarmer_eq hs, seen, hanswer, hstore]

theorem seen_farmer (i : FarmerId) :
    seen (((service config jitter clock).farmer i).outcome w) = w.store.cadastre.perform policy now (.farmer i) := by
  have hfind : (adapt ServiceError.ofStore ((service config jitter clock).ask (.findFarmer i))).outcome w =
      (((w.store.findFarmer i).mapError .refused).mapError (Stop.map ServiceError.ofStore), w) := by
    rw [outcome_adapt, outcome_ask]
    exact congrArg (fun events => (_, { w with events := events })) (List.append_nil w.events)
  rw [Cadastre.perform, readFarmer_eq hs, farmer, outcome_bind, hfind, findFarmer]
  cases hi : w.store.farmers[i]? with
  | none => rfl
  | some slot =>
    obtain ⟨f, poisoned⟩ := slot
    obtain rfl : poisoned = false := hs.slotUsable i _ hi
    rfl

theorem seen_farm (i : FarmId) :
    seen (((service config jitter clock).farm i).outcome w) = w.store.cadastre.perform policy now (.farm i) := by
  rw [Cadastre.perform, farm, outcome_bind, outcome_adapt, find_outcome, findFarm_of_intact hs.toIntact]
  cases hf : w.store.farms[i]? with
  | none =>
    rw [Cadastre.onFarm_none hf]
    rfl
  | some f =>
    rw [Cadastre.onFarm_some hf]
    rfl

theorem seen_overlappingFarms (r : OverlapRequest) :
    seen (((service config jitter clock).overlappingFarms r).outcome w) =
      w.store.cadastre.perform policy now (.overlappingFarms r) := by
  have hvalid := validate_outcome w r.boundary
  rw [Cadastre.perform]
  cases hr : Polygon.ofRing r.boundary with
  | error e =>
    rw [hr] at hvalid
    rw [Cadastre.onGround_error hr, overlappingFarms, outcome_bind_error hvalid]
    rfl
  | ok p =>
    rw [hr] at hvalid
    rw [Cadastre.onGround_ok hr, overlappingFarms, outcome_bind_ok hvalid, overlapping_outcome,
      listActiveFarms_of_intact hs.toIntact, ← overlapping_eq_meeting hs.toKeyed]
    rfl

theorem seen_allOverlaps :
    seen ((service config jitter clock).allOverlaps.outcome w) = w.store.cadastre.perform policy now .allOverlaps := by
  rw [Cadastre.perform, ← allOverlaps_eq_pairs hs.toKeyed, allOverlaps, outcome_bind, outcome_adapt, list_outcome,
    listActiveFarms_of_intact hs.toIntact]
  rfl

end Reads

/-- A service over a store in memory cannot be told from a registry without totals. Wherever calls from an empty store
have led, the next answers the same and leaves the same farmers and farms, as long as a new farm has a new id, versions
do not run out and the totals that the call leads to are in range. -/
theorem refines_cadastre (config : ServiceConfig) (jitter : Jitter) (clock : Nat → Timestamp) (ops : List Operation)
    (o : Operation) :
    let s := MemoryStore.service config jitter clock
    let w := s.after (.ofStore .empty) ops
    let step := w.store.cadastre.perform config.overlaps (clock w.readings) o
    (∀ i r, o = .create i r → w.store.farms[i]? = none) →
    (∀ (i : FarmId) (f : Farm), w.store.farms[i]? = some f → f.version.val < 9223372036854775807) →
    (∀ i, Totals.Fits (Farm.holding i (farmsOf step.2.farms))) →
    ((s.perform o).outcome w).1 = step.1 ∧ ((s.perform o).outcome w).2.store.cadastre = step.2 := by
  intro s w step hfresh hversions hfits
  have hs : w.store.Balanced := after_balanced config jitter clock ops
  have hseen : seen ((s.perform o).outcome w) = step := by
    cases o with
    | registerFarmer i => exact seen_registerFarmer hs _ _ i
    | create i r => exact seen_create hs (hfresh i r rfl) hfits
    | reshape r => exact seen_reshape hs hversions hfits
    | retire i => exact seen_retire hs hversions hfits
    | restore i => exact seen_restore hs hversions hfits
    | erase i => exact seen_erase hs _ _ i
    | reassign r => exact seen_reassign hs hversions hfits
    | reconcileFarmer i => exact seen_reconcileFarmer hs _ _ i
    | farm i => exact seen_farm hs _ _ i
    | farmer i => exact seen_farmer hs _ _ i
    | overlappingFarms r => exact seen_overlappingFarms hs _ _ r
    | allOverlaps => exact seen_allOverlaps hs _ _
    | rebuildIndex => rfl
  exact Prod.mk.inj hseen

def parcelRequest : CreateRequest :=
  ⟨taker, parcel.polygon.ring, .empty⟩

theorem perform_parcel {c : Cadastre} (howner : parcel.farmerId ∈ c.farmers) :
    c.perform .allow ⟨0, 0⟩ (.create parcel.id parcelRequest) =
      (.ok parcel, { c with farms := c.farms.insert parcel.id parcel }) := by
  have hring : Polygon.ofRing parcelRequest.boundary = .ok parcel.polygon := Polygon.ofRing_eq_ok_iff.mpr rfl
  rw [Cadastre.perform, Cadastre.onGround_ok hring]
  change c.put [] parcel = _
  rw [Cadastre.put, if_neg (not_not.mpr rfl), if_neg (not_not.mpr howner)]

theorem parcel_entered :
    let s := MemoryStore.service ⟨.standard, .allow⟩ .none fun _ => ⟨0, 0⟩
    let w := s.after (.ofStore .empty) [.registerFarmer taker]
    ((s.perform (.create parcel.id parcelRequest)).outcome w).1 = .ok parcel ∧
      ((s.perform (.create parcel.id parcelRequest)).outcome w).2.store.cadastre =
        { w.store.cadastre with farms := w.store.farms.insert parcel.id parcel } := by
  have hrefines := refines_cadastre ⟨.standard, .allow⟩ .none (fun _ => ⟨0, 0⟩) [.registerFarmer taker]
    (.create parcel.id parcelRequest)
  dsimp only at hrefines ⊢
  have howner : taker ∈ ((MemoryStore.service ⟨.standard, .allow⟩ .none fun _ => ⟨0, 0⟩).after (.ofStore .empty)
      [.registerFarmer taker]).store.farmers :=
    mem_iff_exists_getElem?.mpr ⟨⟨.new taker, false⟩, by rfl⟩
  rw [perform_parcel (mem_cadastre.mpr howner)] at hrefines
  have hvacant : ∀ i : FarmId, (∅ : Std.ExtTreeMap FarmId Farm)[i]? = none :=
    fun i => Std.ExtTreeMap.getElem?_empty
  refine hrefines (fun i _ _ => hvacant i) ?_ ?_
  · intro i f hf
    cases (hvacant i).symm.trans hf
  · intro i
    rw [holding_insert]
    exact (congrArg Totals.Fits (add_zero (parcel.share i))).mpr
      (Totals.fits_share (f := parcel) (Area.ofPolygon_val_nonneg _) i)

end Service

end FarmRegistry
