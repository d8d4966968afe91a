import FarmRegistry.Proofs.Service.Commitment

namespace FarmRegistry

/-- An operation that had a change taken, with the readings of the clock during it. -/
structure Deed where
  operation : Operation
  readings : List Timestamp

namespace Deed

def isOf (i : FarmId) (d : Deed) : Bool :=
  d.operation.target? = some i

def isUpdate (d : Deed) : Bool :=
  match d.operation with
  | .reshape _ => true
  | .retire _ => true
  | .restore _ => true
  | .reassign _ => true
  | _ => false

def moment? (d : Deed) : Option Timestamp :=
  d.readings.getLast?

def boundary? (d : Deed) : Option Ring :=
  match d.operation with
  | .reshape r => some r.boundary
  | _ => none

def status? (d : Deed) : Option FarmState :=
  match d.operation with
  | .retire _ => d.moment?.map .deleted
  | .restore _ => some .active
  | _ => none

def owner? (d : Deed) : Option FarmerId :=
  match d.operation with
  | .reassign r => some r.farmerId
  | _ => none

def latest {β : Type} (tells : Deed → Option β) (deeds : List Deed) (first : β) : β :=
  (deeds.filterMap tells).getLast?.getD first

theorem latest_snoc {β : Type} (tells : Deed → Option β) (deeds : List Deed) (d : Deed) (first : β) :
    latest tells (deeds ++ [d]) first = (tells d).getD (latest tells deeds first) := by
  cases h : tells d <;> simp [latest, h]

structure Amends (d : Deed) (f g : Farm) : Prop where
  id : g.id = f.id
  boundary : g.polygon.ring = d.boundary?.getD f.polygon.ring
  area : g.area = .ofPolygon g.polygon
  version : g.version.val = f.version.val + 1
  metadata : g.metadata = f.metadata
  createdAt : g.createdAt = f.createdAt
  updatedAt : d.moment? = some g.updatedAt
  status : g.status = d.status?.getD f.status
  owner : g.farmerId = d.owner?.getD f.farmerId

end Deed

/-- A farm is as it was created, but for what the deeds since then tell. -/
structure Farm.Chronicled (f : Farm) (i : FarmId) (r : CreateRequest) (made : List Timestamp) (later : List Deed) :
    Prop where
  id : f.id = i
  sound : Polygon.ofRing f.polygon.ring = .ok f.polygon
  boundary : f.polygon.ring = Deed.latest Deed.boundary? later r.boundary
  area : f.area = .ofPolygon f.polygon
  version : f.version.val = 1 + later.length
  metadata : f.metadata = r.metadata
  createdAt : made.head? = some f.createdAt
  updatedAt : f.updatedAt = Deed.latest Deed.moment? later f.createdAt
  status : f.status = Deed.latest Deed.status? later .active
  owner : f.farmerId = Deed.latest Deed.owner? later r.farmerId

def Deed.Account (i : FarmId) (deeds : List Deed) : Option Farm → Prop
  | some f => ∃ earlier r made later, deeds = earlier ++ ⟨.create i r, made⟩ :: later ∧
      (∀ d ∈ later, d.isUpdate ∧ d.moment?.isSome) ∧ f.Chronicled i r made later
  | none => ∀ d, deeds.getLast? = some d → d.operation = .erase i

def MemoryStore.AccountedBy (s : MemoryStore) (deeds : List Deed) : Prop :=
  ∀ i : FarmId, Deed.Account i (deeds.filter (Deed.isOf i)) s.farms[i]?

/-- Whether an operation asks no more than what already holds of the farm that it is about. -/
def Operation.IsMet (s : MemoryStore) : Operation → Prop
  | .retire i => ∃ f, s.farms[i]? = some f ∧ ¬f.isActive
  | .restore i => ∃ f, s.farms[i]? = some f ∧ f.isActive
  | .reassign r => ∃ f, s.farms[r.farmId]? = some f ∧ f.farmerId = r.farmerId
  | _ => False

namespace Service

section History

variable {σ : Type} (s : Service σ)

def deed? (w : World σ) (o : Operation) : Option Deed :=
  let v := ((s.recorded.perform o).outcome w.recorded).2
  if v.store.log.any Exchange.isCommitted then
    some ⟨o, (List.range' w.readings (v.readings - w.readings)).map s.clock⟩
  else none

def history (w : World σ) : List Operation → List Deed
  | [] => []
  | o :: ops => (s.deed? w o).toList ++ history ((s.perform o).outcome w).2 ops

end History

end Service

namespace Farm.Chronicled

variable {f g : Farm} {i : FarmId} {r : CreateRequest} {made : List Timestamp} {later : List Deed}

theorem start {p : Polygon} {t : Timestamp} (hr : Polygon.ofRing r.boundary = .ok p) (ht : made.head? = some t) :
    (Farm.create i r.farmerId p r.metadata t).Chronicled i r made [] :=
  ⟨rfl, Polygon.ofRing_eq_ok_iff.mpr rfl, Polygon.ofRing_eq_ok_iff.mp hr, rfl, rfl, rfl, ht, rfl, rfl, rfl⟩

theorem snoc {d : Deed} (h : f.Chronicled i r made later) (hd : d.Amends f g) :
    g.Chronicled i r made (later ++ [d]) := by
  refine ⟨hd.id.trans h.id, Polygon.ofRing_eq_ok_iff.mpr rfl, ?_, hd.area, ?_, hd.metadata.trans h.metadata, ?_, ?_,
    ?_, ?_⟩
  · rw [Deed.latest_snoc, ← h.boundary]
    exact hd.boundary
  · have hbefore := h.version
    have hafter := hd.version
    rw [List.length_append, List.length_singleton]
    omega
  · rw [hd.createdAt]
    exact h.createdAt
  · rw [Deed.latest_snoc, hd.updatedAt, Option.getD_some]
  · rw [Deed.latest_snoc, ← h.status]
    exact hd.status
  · rw [Deed.latest_snoc, ← h.owner]
    exact hd.owner

end Farm.Chronicled

theorem Intent.Planned.amends {o : Operation} {m : Intent} {start now : Timestamp} {readings : List Timestamp}
    {f g : Farm} {c : Change} (ho : o.intent? start = some (.ok m)) (hnow : readings.getLast? = some now)
    (harea : f.area = .ofPolygon f.polygon) (hm : ∀ e, m ≠ .create e) (h : m.Planned now (some f) c (some g)) :
    Deed.isUpdate ⟨o, readings⟩ ∧ Deed.Amends ⟨o, readings⟩ f g := by
  cases o with
  | create i q =>
    obtain ⟨p, _, rfl⟩ := map_eq_ok_iff.mp (Option.some.inj ho)
    exact absurd rfl (hm _)
  | reshape q =>
    obtain ⟨p, hp, rfl⟩ := map_eq_ok_iff.mp (Option.some.inj ho)
    cases h with
    | reshape hg hc =>
      obtain ⟨v, hv, rfl⟩ := Farm.reshaped_eq_ok hg
      exact ⟨rfl, rfl, Polygon.ofRing_eq_ok_iff.mp hp, rfl, hv, rfl, rfl, hnow, rfl, rfl⟩
  | retire i =>
    cases ho
    cases h with
    | retire hactive hg hc =>
      obtain ⟨v, hv, rfl⟩ := Farm.retired_eq_ok hg
      have hstatus : Deed.status? ⟨.retire i, readings⟩ = some (.deleted now) := by
        rw [Deed.status?, Deed.moment?, hnow]
        rfl
      exact ⟨rfl, rfl, rfl, harea, hv, rfl, rfl, hnow, by rw [hstatus]; rfl, rfl⟩
  | restore i =>
    cases ho
    cases h with
    | restore hdeleted hg hc =>
      obtain ⟨v, hv, rfl⟩ := Farm.restored_eq_ok hg
      exact ⟨rfl, rfl, rfl, harea, hv, rfl, rfl, hnow, rfl, rfl⟩
  | erase i =>
    cases ho
    cases h
  | reassign q =>
    cases ho
    cases h with
    | reassign howner hg hc =>
      obtain ⟨v, hv, rfl⟩ := Farm.reassigned_eq_ok hg
      exact ⟨rfl, rfl, rfl, harea, hv, rfl, rfl, hnow, rfl, rfl⟩
  | _ => cases ho

namespace Intent

theorem update_ne_unchanged {f g : Farm} {revised : Except Overflow Farm} :
    (do
      let after ← revised
      return .commit (← Change.update f after) (some after) : Except Overflow Plan) ≠ .ok (.unchanged g) := by
  intro h
  obtain ⟨after, _, h⟩ := bind_eq_ok_iff.mp h
  obtain ⟨c, _, h⟩ := bind_eq_ok_iff.mp h
  cases h

theorem plan_unchanged {m : Intent} {farm : Option Farm} {g : Farm} {now : Timestamp} (hm : ∀ e, m ≠ .create e)
    (h : m.plan farm now = .ok (.unchanged g)) : ∃ f, farm = some f ∧ m.revise f now = .ok (.unchanged g) := by
  cases m with
  | create e => exact absurd rfl (hm e)
  | _ =>
    cases farm with
    | none => cases h
    | some f => exact ⟨f, rfl, Stop.ofOverflow_eq_ok_iff.mp h⟩

end Intent

namespace MemoryStore

variable {s : MemoryStore} {deeds : List Deed} {o : Operation} {m : Intent} {start now : Timestamp}
variable {readings : List Timestamp} {farm : Option Farm} {f : Farm} {c : Change}

theorem AccountedBy.result (h : s.AccountedBy deeds) (hs : s.Intact) (hintent : o.intent? start = some (.ok m))
    (hread : s.current m = .ok farm) {result : Option Farm} (hplanned : m.Planned now farm c result)
    (hfirst : readings.head? = some start) (hlast : readings.getLast? = some now) :
    Deed.Account m.farmId (deeds.filter (Deed.isOf m.farmId) ++ [⟨o, readings⟩]) result := by
  rcases hplanned.kinds with ⟨g, rfl, rfl, _⟩ | ⟨e, g, hne, rfl, rfl, _⟩ | ⟨_, i, rfl, _, rfl, _⟩
  · cases o with
    | create i r =>
      obtain ⟨p, hr, hf⟩ := map_eq_ok_iff.mp (Option.some.inj hintent)
      cases hf
      exact ⟨deeds.filter (Deed.isOf i), r, readings, [], rfl, List.forall_mem_nil _, .start hr hfirst⟩
    | reshape q =>
      obtain ⟨p, _, hf⟩ := map_eq_ok_iff.mp (Option.some.inj hintent)
      cases hf
    | _ => cases hintent
  · have hstored : s.farms[m.farmId]? = some e := Except.ok.inj ((current_eq_stored hs hne).symm.trans hread)
    have htold := h m.farmId
    rw [hstored] at htold
    obtain ⟨earlier, r, made, later, hdeeds, hupdates, hfarm⟩ := htold
    obtain ⟨hupdate, hamends⟩ := hplanned.amends hintent hlast hfarm.area hne
    refine ⟨earlier, r, made, later ++ [⟨o, readings⟩], ?_, ?_, hfarm.snoc hamends⟩
    · rw [hdeeds, List.append_assoc, List.cons_append]
    · intro d hd
      rcases List.mem_append.mp hd with hd | hd
      · exact hupdates d hd
      · rw [List.mem_singleton.mp hd]
        exact ⟨hupdate, Option.isSome_of_eq_some hlast⟩
  · intro d hd
    rw [List.getLast?_append, List.getLast?_singleton, Option.some_or] at hd
    cases hd
    cases o with
    | erase j =>
      cases hintent
      rfl
    | create j r | reshape r =>
      obtain ⟨p, _, hf⟩ := map_eq_ok_iff.mp (Option.some.inj hintent)
      cases hf
    | _ => cases hintent

theorem not_planned_of_met (hs : s.Intact) (hmet : o.IsMet s) (hintent : o.intent? start = some (.ok m))
    (hread : s.current m = .ok farm) {result : Option Farm} : ¬m.Planned now farm c result := by
  intro hplanned
  have hfarm : (∀ g, m ≠ .create g) → s.farms[m.farmId]? = farm :=
    fun hm => Except.ok.inj ((current_eq_stored hs hm).symm.trans hread)
  cases o with
  | retire i =>
    obtain ⟨f, hf, hinactive⟩ := hmet
    cases hintent
    cases hf.symm.trans (hfarm (by simp))
    cases hplanned with
    | retire hactive => exact hinactive hactive
  | restore i =>
    obtain ⟨f, hf, hactive⟩ := hmet
    cases hintent
    cases hf.symm.trans (hfarm (by simp))
    cases hplanned with
    | restore hdeleted => exact hdeleted hactive
  | reassign r =>
    obtain ⟨f, hf, howner⟩ := hmet
    cases hintent
    cases hf.symm.trans (hfarm (by simp))
    cases hplanned with
    | reassign hother => exact hother howner
  | _ => exact hmet

theorem met_of_unchanged (hs : s.Intact) (hintent : o.intent? start = some (.ok m)) (hread : s.current m = .ok farm)
    (hplan : m.plan farm now = .ok (.unchanged f)) : o.IsMet s := by
  have hfarm : (∀ e, m ≠ .create e) → ∃ g, s.farms[m.farmId]? = some g ∧ m.revise g now = .ok (.unchanged f) := by
    intro hm
    obtain ⟨g, rfl, hrevise⟩ := Intent.plan_unchanged hm hplan
    exact ⟨g, Except.ok.inj ((current_eq_stored hs hm).symm.trans hread), hrevise⟩
  cases o with
  | create i r =>
    obtain ⟨p, _, rfl⟩ := map_eq_ok_iff.mp (Option.some.inj hintent)
    rw [Intent.plan] at hplan
    obtain ⟨c, _, hc⟩ := map_eq_ok_iff.mp (Stop.ofOverflow_eq_ok_iff.mp hplan)
    cases hc
  | reshape r =>
    obtain ⟨p, _, rfl⟩ := map_eq_ok_iff.mp (Option.some.inj hintent)
    obtain ⟨g, _, hrevise⟩ := hfarm (by simp)
    exact absurd hrevise Intent.update_ne_unchanged
  | retire i =>
    cases hintent
    obtain ⟨g, hg, hrevise⟩ := hfarm (by simp)
    refine ⟨g, hg, ?_⟩
    intro hactive
    rw [Intent.revise, if_pos hactive] at hrevise
    exact Intent.update_ne_unchanged hrevise
  | restore i =>
    cases hintent
    obtain ⟨g, hg, hrevise⟩ := hfarm (by simp)
    refine ⟨g, hg, ?_⟩
    by_contra hdeleted
    rw [Intent.revise, if_neg hdeleted] at hrevise
    exact Intent.update_ne_unchanged hrevise
  | erase i =>
    cases hintent
    obtain ⟨g, _, hrevise⟩ := hfarm (by simp)
    obtain ⟨c, _, hc⟩ := bind_eq_ok_iff.mp hrevise
    cases hc
  | reassign r =>
    cases hintent
    obtain ⟨g, hg, hrevise⟩ := hfarm (by simp)
    refine ⟨g, hg, ?_⟩
    by_contra hother
    rw [Intent.revise, if_neg hother] at hrevise
    exact Intent.update_ne_unchanged hrevise
  | _ => cases hintent

end MemoryStore

namespace Service

open MemoryStore

variable (config : ServiceConfig) (jitter : Jitter) (clock : Nat → Timestamp)

section Steps

variable {config jitter clock} {w : World MemoryStore} {o : Operation}

theorem deed?_of_idle (h : Idle w.recorded (((service config jitter clock).recorded.perform o).outcome w.recorded).2) :
    (service config jitter clock).deed? w o = none := by
  rw [deed?]
  simp only [Recorded.uncommitted_iff.mp h.uncommitted]
  rfl

theorem deed?_of_changed {m : Intent} {k : Nat} {farm result : Option Farm} {c : Change}
    (h : Changed clock m { w.recorded with readings := w.readings + o.lead }
      (((service config jitter clock).recorded.perform o).outcome w.recorded).2 k farm c result) :
    ∃ readings, (service config jitter clock).deed? w o = some ⟨o, readings⟩ ∧
      readings.head? = some (clock w.readings) ∧ readings.getLast? = some (clock k) := by
  have hcommitted : (((service config jitter clock).recorded.perform o).outcome w.recorded).2.store.log.any
      Exchange.isCommitted = true := List.any_eq_true.mpr ⟨_, h.log, rfl⟩
  have hdeed : (service config jitter clock).deed? w o =
      some ⟨o, (List.range' w.readings (k + 1 - w.readings)).map clock⟩ := by
    rw [← h.last]
    exact if_pos hcommitted
  have hsince : w.readings + o.lead ≤ k := h.since
  have hlast : w.readings + (k + 1 - w.readings) - 1 = k := by omega
  refine ⟨_, hdeed, ?_, ?_⟩
  · rw [List.head?_map, List.head?_range', if_neg (by omega)]
    rfl
  · rw [List.getLast?_map, List.getLast?_range', if_neg (by omega), hlast]
    rfl

theorem accounted_snoc (hs : w.store.Balanced) {deeds : List Deed} (h : w.store.AccountedBy deeds) :
    (((service config jitter clock).perform o).outcome w).2.store.AccountedBy
      (deeds ++ ((service config jitter clock).deed? w o).toList) := by
  have hmirror := (service config jitter clock).perform_recorded o w.recorded
  have hstore : (((service config jitter clock).perform o).outcome w).2.store =
      (((service config jitter clock).recorded.perform o).outcome w.recorded).2.store.inner :=
    congrArg (fun r => r.2.store) hmirror.symm
  rw [hstore]
  intro i
  rcases (performed config jitter clock w hs o).idle_or_changed with
    hidle | ⟨m, k, farm, c, result, hintent, hchanged⟩
  · rw [deed?_of_idle hidle, Option.toList_none, List.append_nil, hidle.farms]
    exact h i
  · obtain ⟨readings, hdeed, hfirst, hlast⟩ := deed?_of_changed hchanged
    have htarget := (Operation.of_intent? hintent).2.1
    rw [hdeed, Option.toList_some, List.filter_append, hchanged.farms hs.toKeyed]
    by_cases hi : m.farmId = i
    · subst hi
      have hmine : [(⟨o, readings⟩ : Deed)].filter (Deed.isOf m.farmId) = [⟨o, readings⟩] := by
        simp [Deed.isOf, htarget]
      rw [if_pos rfl, hmine]
      exact h.result hs.toIntact hintent hchanged.read hchanged.planned hfirst hlast
    · have hothers : [(⟨o, readings⟩ : Deed)].filter (Deed.isOf i) = [] := by
        simp [Deed.isOf, htarget, hi]
      rw [if_neg hi, hothers, List.append_nil]
      exact h i

theorem accounted_after (hs : w.store.Balanced) {deeds : List Deed} (h : w.store.AccountedBy deeds)
    (ops : List Operation) :
    ((service config jitter clock).after w ops).store.AccountedBy
      (deeds ++ (service config jitter clock).history w ops) := by
  induction ops generalizing w deeds with
  | nil =>
    rw [history, List.append_nil]
    exact h
  | cons o ops ih =>
    rw [history, ← List.append_assoc]
    apply ih
    · exact keeps_perform (fun _ _ hs h => hs.advances h) o w hs
    · exact accounted_snoc hs h

end Steps

/-- After any run over an empty store each farm is what its history tells: what was asked for when it was created, and
since then by the updates that the store took, each dated by the clock. An operation adds nothing to the history, and
leaves all farms as they are, if and only if it fails, asks for what is so already, or is not about a farm. -/
theorem history_faithful (ops : List Operation) :
    let s := MemoryStore.service config jitter clock
    let w := s.after (.ofStore .empty) ops
    w.store.AccountedBy (s.history (.ofStore .empty) ops) ∧
      ∀ o : Operation,
        let r := ((s.recorded.perform o).outcome w.recorded).1
        let v := ((s.recorded.perform o).outcome w.recorded).2
        (r, v.bare) = (s.perform o).outcome w ∧
          (s.deed? w o = none ↔ (∃ e, r = .error e) ∨ o.IsMet w.store ∨ o.target? = none) ∧
          (s.deed? w o = none → v.bare.store.farms = w.store.farms) := by
  intro s w
  have hempty : (World.ofStore MemoryStore.empty).store.AccountedBy [] := by
    intro i
    have hnone : MemoryStore.empty.farms[i]? = none := Std.ExtTreeMap.getElem?_empty
    change Deed.Account i [] MemoryStore.empty.farms[i]?
    rw [hnone]
    exact fun _ => nofun
  refine ⟨accounted_after MemoryStore.Balanced.empty hempty ops, ?_⟩
  intro o r v
  have hs : w.store.Balanced := after_balanced config jitter clock ops
  refine ⟨s.perform_recorded o w.recorded, ?_⟩
  have hperformed : Performed clock o w v r := performed config jitter clock w hs o
  clear_value r
  cases hperformed with
  | @failed e hidle => exact ⟨iff_of_true (deed?_of_idle hidle) (.inl ⟨e, rfl⟩), fun _ => hidle.farms⟩
  | aside ho hidle => exact ⟨iff_of_true (deed?_of_idle hidle) (.inr (.inr ho)), fun _ => hidle.farms⟩
  | met hintent hread hplan hidle =>
    have hmet := met_of_unchanged hs.toIntact hintent hread hplan
    exact ⟨iff_of_true (deed?_of_idle hidle) (.inr (.inl hmet)), fun _ => hidle.farms⟩
  | changed hintent hchanged =>
    obtain ⟨readings, hdeed, _⟩ := deed?_of_changed hchanged
    have hsome : s.deed? w o ≠ none := by
      intro hnone
      cases hnone.symm.trans hdeed
    refine ⟨iff_of_false hsome ?_, fun hnone => absurd hnone hsome⟩
    rintro (⟨e, he⟩ | hmet | ho)
    · cases he
    · exact not_planned_of_met hs.toIntact hmet hintent hchanged.read hchanged.planned
    · cases ho.symm.trans (Operation.of_intent? hintent).2.1

end Service

end FarmRegistry
