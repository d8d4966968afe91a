import FarmRegistry.Proofs.Service.Sequential

namespace FarmRegistry

open Work

namespace MemoryStore

variable {s s' t t' : MemoryStore} {m : Intent} {now : Timestamp}

theorem groundFor_allow (s : MemoryStore) (m : Intent) (result : Option Farm) :
    s.groundFor .allow m result = .ok () := by
  unfold groundFor
  split
  · cases result.filter Farm.isActive with
    | none => rfl
    | some f =>
      rw [Option.elim_some, ground, if_neg]
      intro h
      cases h
  · rfl

theorem current_alike (hs : s.Intact) (hs' : s'.Intact) (hfarm : s'.farms[m.farmId]? = s.farms[m.farmId]?) :
    s'.current m = s.current m := by
  by_cases hcreate : ∃ f, m = .create f
  · obtain ⟨f, rfl⟩ := hcreate
    rfl
  · have hne : ∀ f, m ≠ .create f := fun f hf => hcreate ⟨f, hf⟩
    rw [current_eq_stored hs' hne, current_eq_stored hs hne, hfarm]

theorem checkOwner_alike (hfarmers : ∀ i, i ∈ s'.farmers ↔ i ∈ s.farmers) (w : Write) :
    s'.checkOwner w = s.checkOwner w := by
  unfold checkOwner
  cases w.farm? with
  | none => rfl
  | some f =>
    have hcontains : s'.farmers.contains f.farmerId = s.farmers.contains f.farmerId := by
      rw [Bool.eq_iff_iff, Std.ExtTreeMap.contains_iff_mem, Std.ExtTreeMap.contains_iff_mem]
      exact hfarmers f.farmerId
    change (if s'.farmers.contains f.farmerId then _ else _) = _
    rw [hcontains]

theorem Tried.of_commit {o : Except (Stop Setback) (Option Farm)} {farm result : Option Farm} {c : Change}
    (h : s.Tried .allow m now o t) (hread : s.current m = .ok farm)
    (hplan : m.plan farm now = .ok (.commit c result)) :
    o = ((s.commit c).outcome.mapError (Stop.map Setback.store)).map (fun _ => result) ∧ t = (s.commit c).state := by
  have hground := groundFor_allow s m result
  rcases commit_cases s c with ⟨moved, _, hok, _⟩ | ⟨e, _, herror, hstate⟩
  · obtain ⟨rfl, rfl⟩ := h.unique (.committed hread hplan hground hok)
    rw [hok]
    exact ⟨rfl, rfl⟩
  · obtain ⟨rfl, rfl⟩ := h.unique (.refused hread hplan hground herror)
    rw [herror, hstate]
    exact ⟨rfl, rfl⟩

def beyond (i : FarmerId) : Stop StoreError :=
  .refused (.query (TotalsError.overflow i).message)

theorem Tried.commit_within {o : Except (Stop Setback) (Option Farm)} {farm result : Option Farm} {c : Change}
    (h : s.Tried .allow m now o t) (hread : s.current m = .ok farm)
    (hplan : m.plan farm now = .ok (.commit c result)) (hrange : ∀ i, o ≠ .error ((beyond i).map .store))
    (i : FarmerId) : (s.commit c).outcome ≠ .error (beyond i) := by
  intro hbeyond
  apply hrange i
  rw [(h.of_commit hread hplan).1, hbeyond]
  rfl

theorem Tried.alike (hs : s.Balanced) (hs' : s'.Balanced) (hfarm : s'.farms[m.farmId]? = s.farms[m.farmId]?)
    (hfarmers : ∀ i, i ∈ s'.farmers ↔ i ∈ s.farmers) (hm : m.Requested)
    (hfresh : ∀ f, m = .create f → s.farms[f.id]? = none) {o o' : Except (Stop Setback) (Option Farm)}
    (h : s.Tried .allow m now o t) (h' : s'.Tried .allow m now o' t')
    (hrange : ∀ i, o ≠ .error ((beyond i).map .store)) (hrange' : ∀ i, o' ≠ .error ((beyond i).map .store)) :
    o' = o ∧ t'.farms[m.farmId]? = t.farms[m.farmId]? := by
  obtain ⟨farm, hread⟩ := current_of_intact hs.toIntact m
  have hread' := (current_alike hs.toIntact hs'.toIntact hfarm).trans hread
  cases hplan : m.plan farm now with
  | error e =>
    obtain ⟨rfl, rfl⟩ := h.unique (.unplanned hread hplan)
    obtain ⟨rfl, rfl⟩ := h'.unique (.unplanned hread' hplan)
    exact ⟨rfl, hfarm⟩
  | ok plan =>
    cases plan with
    | unchanged f =>
      obtain ⟨rfl, rfl⟩ := h.unique (.unchanged hread hplan)
      obtain ⟨rfl, rfl⟩ := h'.unique (.unchanged hread' hplan)
      exact ⟨rfl, hfarm⟩
    | commit c result =>
      have hplanned := Intent.planned_of_plan hplan
      have hfresh' : ∀ f, m = .create f → s'.farms[f.id]? = none := by
        rintro f rfl
        exact hfarm.trans (hfresh f rfl)
      obtain ⟨hcurrent, before, hturns⟩ := turns_of_fresh hs.toSound hm hfresh hread hplanned
      obtain ⟨hcurrent', before', hturns'⟩ := turns_of_fresh hs'.toSound hm hfresh' hread' hplanned
      have hcommit : (s'.commit c).outcome = (s.commit c).outcome := by
        rw [hs.commit_outcome hturns hcurrent (h.commit_within hread hplan hrange),
          hs'.commit_outcome hturns' hcurrent' (h'.commit_within hread' hplan hrange'), checkOwner_alike hfarmers]
      obtain ⟨rfl, rfl⟩ := h.of_commit hread hplan
      obtain ⟨rfl, rfl⟩ := h'.of_commit hread' hplan
      refine ⟨by rw [hcommit], ?_⟩
      by_cases hok : (s.commit c).outcome = .ok ()
      · rw [planned_farms hs.toKeyed hread hplanned hok, planned_farms hs'.toKeyed hread' hplanned (hcommit.trans hok),
          if_pos rfl, if_pos rfl]
      · rw [(commit_failed hok).2, (commit_failed (hcommit ▸ hok)).2]
        exact hfarm

structure Touches (s t : MemoryStore) (i : FarmId) : Prop where
  balanced : t.Balanced
  others : ∀ j, j ≠ i → t.farms[j]? = s.farms[j]?
  farmers : ∀ j, j ∈ t.farmers ↔ j ∈ s.farmers

theorem Tried.touches {policy : OverlapPolicy} {o : Except (Stop Setback) (Option Farm)} (hs : s.Balanced)
    (hm : m.Requested) (h : s.Tried policy m now o t) : s.Touches t m.farmId :=
  ⟨h.balanced hs hm, fun _ hj => h.others hs.toKeyed hj, h.registered hs.toSound hm⟩

theorem Touches.refl (hs : s.Balanced) (i : FarmId) : s.Touches s i :=
  ⟨hs, fun _ _ => rfl, fun _ => Iff.rfl⟩

theorem Touches.commute {i j : FarmId} {a b ab ba : MemoryStore} (hij : i ≠ j) (ha : s.Touches a i)
    (hb : s.Touches b j) (hab : a.Touches ab j) (hba : b.Touches ba i) (hi : ba.farms[i]? = a.farms[i]?)
    (hj : ab.farms[j]? = b.farms[j]?) : ab = ba := by
  apply hba.balanced.ext hab.balanced
  · intro k
    by_cases hki : k = i
    · subst hki
      rw [hab.others k hij, hi]
    · by_cases hkj : k = j
      · subst hkj
        rw [hba.others k hki, hj]
      · rw [hab.others k hkj, ha.others k hki, hba.others k hki, hb.others k hkj]
  · intro k
    rw [hab.farmers, ha.farmers, hba.farmers, hb.farmers]

end MemoryStore

namespace Service

open MemoryStore

def LeavesRange {α : Type} (r : Except (Stop ServiceError) α) : Prop :=
  ∃ i : FarmerId, r = .error (.refused (.repository (TotalsError.overflow i).message))

variable (config : ServiceConfig) (jitter : Jitter) (clock : Nat → Timestamp) {o : Operation} {i : FarmId}

theorem perform_touches {w : World MemoryStore} (hs : w.store.Balanced) (ho : o.target? = some i)
    (hfresh : ∀ r, o = .create i r → w.store.farms[i]? = none) :
    w.store.Touches (((service config jitter clock).perform o).outcome w).2.store i := by
  rcases perform_tried config jitter clock ho w.readings with ⟨e, hmisshapen⟩ | ⟨m, deliver, hm, rfl, hdecided⟩
  · rw [hmisshapen w rfl]
    exact .refl hs i
  · obtain ⟨_, a, t, htried, _, rfl⟩ := hdecided w rfl hs hfresh
    exact htried.touches hs hm

theorem perform_alike (hallow : config.overlaps = .allow) {w v : World MemoryStore} (hs : w.store.Balanced)
    (hs' : v.store.Balanced) (hclock : v.readings = w.readings) (ho : o.target? = some i)
    (hfarm : v.store.farms[i]? = w.store.farms[i]?) (hfarmers : ∀ j, j ∈ v.store.farmers ↔ j ∈ w.store.farmers)
    (hfresh : ∀ r, o = .create i r → w.store.farms[i]? = none)
    (hrange : ¬LeavesRange (((service config jitter clock).perform o).outcome w).1)
    (hrange' : ¬LeavesRange (((service config jitter clock).perform o).outcome v).1) :
    (((service config jitter clock).perform o).outcome v).1 = (((service config jitter clock).perform o).outcome w).1 ∧
      (((service config jitter clock).perform o).outcome v).2.store.farms[i]? =
        (((service config jitter clock).perform o).outcome w).2.store.farms[i]? := by
  have hfresh' : ∀ r, o = .create i r → v.store.farms[i]? = none := fun r hr => hfarm.trans (hfresh r hr)
  rcases perform_tried config jitter clock ho w.readings with ⟨e, hmisshapen⟩ | ⟨m, deliver, hm, rfl, hdecided⟩
  · rw [hmisshapen w rfl, hmisshapen v hclock]
    exact ⟨rfl, hfarm⟩
  · obtain ⟨hunused, a, t, htried, hanswer, hstore⟩ := hdecided w rfl hs hfresh
    obtain ⟨_, a', t', htried', hanswer', hstore'⟩ := hdecided v hclock hs' hfresh'
    rw [hanswer] at hrange ⊢
    rw [hanswer'] at hrange' ⊢
    have hwithin : ∀ j, a ≠ .error ((beyond j).map .store) := by
      rintro j rfl
      exact hrange ⟨j, rfl⟩
    have hwithin' : ∀ j, a' ≠ .error ((beyond j).map .store) := by
      rintro j rfl
      exact hrange' ⟨j, rfl⟩
    rw [hallow] at htried htried'
    obtain ⟨rfl, hsame⟩ := htried.alike hs hs' hfarm hfarmers hm hunused htried' hwithin hwithin'
    rw [hstore, hstore']
    exact ⟨rfl, hsame⟩

/-- Two operations on different farms give the same answers and lead to the same store in either order, each by its own
clock, unless a farmer's totals leave their range. -/
theorem independent_commute (config : ServiceConfig) (jitter : Jitter) (clock : Nat → Timestamp)
    (ops : List Operation) (retry₁ retry₂ : RetryPolicy) (jitter₁ jitter₂ : Jitter) (clock₁ clock₂ : Nat → Timestamp)
    {o q : Operation} {i j : FarmId} (hi : o.target? = some i) (hj : q.target? = some j) (hij : i ≠ j) :
    let s := ((service config jitter clock).after (.ofStore .empty) ops).store
    let first := fun t => ((service ⟨retry₁, .allow⟩ jitter₁ clock₁).perform o).outcome (.ofStore t)
    let second := fun t => ((service ⟨retry₂, .allow⟩ jitter₂ clock₂).perform q).outcome (.ofStore t)
    (∀ r, o = .create i r → s.farms[i]? = none) → (∀ r, q = .create j r → s.farms[j]? = none) →
      ¬LeavesRange (first s).1 → ¬LeavesRange (second (first s).2.store).1 →
      ¬LeavesRange (second s).1 → ¬LeavesRange (first (second s).2.store).1 →
      (first (second s).2.store).1 = (first s).1 ∧ (second (first s).2.store).1 = (second s).1 ∧
        (second (first s).2.store).2.store = (first (second s).2.store).2.store := by
  intro s first second hfresh₁ hfresh₂ h₁ h₂₁ h₂ h₁₂
  have hs : s.Balanced := after_balanced config jitter clock ops
  have hfirst : ∀ t : MemoryStore, t.Balanced → (∀ r, o = .create i r → t.farms[i]? = none) →
      t.Touches (first t).2.store i :=
    fun t ht hfresh => perform_touches ⟨retry₁, .allow⟩ jitter₁ clock₁ (w := .ofStore t) ht hi hfresh
  have hsecond : ∀ t : MemoryStore, t.Balanced → (∀ r, q = .create j r → t.farms[j]? = none) →
      t.Touches (second t).2.store j :=
    fun t ht hfresh => perform_touches ⟨retry₂, .allow⟩ jitter₂ clock₂ (w := .ofStore t) ht hj hfresh
  have ha := hfirst s hs hfresh₁
  have hb := hsecond s hs hfresh₂
  -- Each finds its own farm as it was, whether the other came before it or not.
  have hkept₁ : (second s).2.store.farms[i]? = s.farms[i]? := hb.others i hij
  have hkept₂ : (first s).2.store.farms[j]? = s.farms[j]? := ha.others j hij.symm
  have hab := hsecond (first s).2.store ha.balanced fun r hr => hkept₂.trans (hfresh₂ r hr)
  have hba := hfirst (second s).2.store hb.balanced fun r hr => hkept₁.trans (hfresh₁ r hr)
  obtain ⟨hanswer₁, hfarm₁⟩ := perform_alike ⟨retry₁, .allow⟩ jitter₁ clock₁ rfl
    (w := .ofStore s) (v := .ofStore (second s).2.store) hs hb.balanced rfl hi hkept₁ hb.farmers hfresh₁ h₁ h₁₂
  obtain ⟨hanswer₂, hfarm₂⟩ := perform_alike ⟨retry₂, .allow⟩ jitter₂ clock₂ rfl
    (w := .ofStore s) (v := .ofStore (first s).2.store) hs ha.balanced rfl hj hkept₂ ha.farmers hfresh₂ h₂ h₂₁
  exact ⟨hanswer₁, hanswer₂, ha.commute hij hb hab hba hfarm₁ hfarm₂⟩

section Creations

theorem insert_commits (hallow : config.overlaps = .allow) {w : World MemoryStore} (hs : w.store.Balanced) {f : Farm}
    (hm : (Intent.create f).Requested) (hfresh : w.store.farms[f.id]? = none) :
    ∃ c, Change.insert f = .ok c ∧
      (((service config jitter clock).runToFarm (.create f)).outcome w).1 =
        ((w.store.commit c).outcome.mapError (Stop.map ServiceError.ofStore)).map (fun _ => f) ∧
      (((service config jitter clock).runToFarm (.create f)).outcome w).2.store = (w.store.commit c).state := by
  obtain ⟨c, hc⟩ := Intent.insert_eq_ok f
  have hunused : ∀ g, Intent.create f = .create g → w.store.farms[g.id]? = none := by
    intro g hg
    exact Intent.create.inj hg ▸ hfresh
  obtain ⟨o, t, htried, hrun, hstore⟩ :=
    run_tried config jitter clock hs hm hunused
  rw [hallow] at htried
  obtain ⟨rfl, rfl⟩ := htried.of_commit rfl (Intent.Planned.create hc).plan_eq
  refine ⟨c, hc, ?_⟩
  rw [runToFarm_delivers, hrun]
  refine ⟨?_, hstore⟩
  rcases (w.store.commit c).outcome with ⟨e | o⟩ | _ <;> rfl

variable {r : CreateRequest} {p : Polygon} {w : World MemoryStore}
variable (hallow : config.overlaps = .allow) (hs : w.store.Balanced) (hfresh : w.store.farms[i]? = none)
variable (hr : Polygon.ofRing r.boundary = .ok p)

include hallow hs hfresh hr

theorem create_commits :
    ∃ c, Change.insert (.create i r.farmerId p r.metadata (clock w.readings)) = .ok c ∧
      (((service config jitter clock).perform (.create i r)).outcome w).1 =
        ((w.store.commit c).outcome.mapError (Stop.map ServiceError.ofStore)).map
          (fun _ => .create i r.farmerId p r.metadata (clock w.readings)) ∧
      (((service config jitter clock).perform (.create i r)).outcome w).2.store = (w.store.commit c).state := by
  have hm : (Intent.create (.create i r.farmerId p r.metadata (clock w.readings))).Requested := by
    intro f hf
    exact ⟨i, r.farmerId, p, r.metadata, _, (Intent.create.inj hf).symm⟩
  change ∃ c, _ ∧ ((Service.create _ i r).outcome w).1 = _ ∧ ((Service.create _ i r).outcome w).2.store = _
  rw [create_outcome _ w i hr]
  exact insert_commits config jitter clock hallow (w := { w with readings := w.readings + 1 }) hs hm hfresh

theorem create_owned (howner : r.farmerId ∈ w.store.farmers)
    (hfits : ∀ j, j ∈ w.store.farmers →
      Totals.Fits (w.store.holding j + (Farm.create i r.farmerId p r.metadata (clock w.readings)).share j)) :
    (((service config jitter clock).perform (.create i r)).outcome w).1 =
        .ok (.create i r.farmerId p r.metadata (clock w.readings)) ∧
      ∀ j, (((service config jitter clock).perform (.create i r)).outcome w).2.store.holding j =
        w.store.holding j + (Farm.create i r.farmerId p r.metadata (clock w.readings)).share j := by
  obtain ⟨c, hc, houtcome, hstore⟩ := create_commits config jitter clock hallow hs hfresh hr
  have hok := (hs.insert_absent (Area.ofPolygon_val_nonneg p) hfresh howner hfits hc).1
  obtain ⟨hwrite, hdeltas⟩ := Change.insert_eq_ok_iff.mp hc
  have hfollows := commit_follows (TotalsDelta.between_names hdeltas).1.nodup hok
  rw [houtcome, hstore, hok]
  refine ⟨rfl, ?_⟩
  intro j
  have habsent : w.store.farms[c.write.farmId]? = none := by
    rw [hwrite]
    exact hfresh
  rw [hfollows.holding, habsent, hwrite]
  exact congrArg _ (sub_zero _)

end Creations

def plot (k : FarmId) (owner : FarmerId) : Farm :=
  .create k owner parcel.polygon .empty ⟨0, 0⟩

def plotArea : Int :=
  (Area.ofPolygon parcel.polygon).val

theorem plotArea_nonneg : 0 ≤ plotArea :=
  Area.ofPolygon_val_nonneg _

theorem plot_share (k : FarmId) (owner j : FarmerId) :
    (plot k owner).share j = if owner = j then (plotArea, 1) else 0 := by
  simp only [Farm.share, Farm.isHeldBy, Bool.and_eq_true, decide_eq_true_eq]
  exact if_congr (and_iff_right rfl) rfl rfl

theorem plots_fit {k k' : FarmId} {owner owner' : FarmerId}
    (h : owner = owner' → plotArea + plotArea ≤ 9223372036854775807) (j : FarmerId) :
    Totals.Fits ((plot k owner).share j + (plot k' owner').share j) := by
  have hlo := plotArea_nonneg
  by_cases hj : owner = j
  · by_cases hj' : owner' = j
    · rw [plot_share, plot_share, if_pos hj, if_pos hj']
      exact ⟨⟨Int.add_nonneg hlo hlo, h (hj.trans hj'.symm)⟩, by decide, by decide⟩
    · rw [plot_share k', if_neg hj', add_zero]
      exact Totals.fits_share (f := plot k owner) hlo j
  · rw [plot_share k, if_neg hj, zero_add]
    exact Totals.fits_share (f := plot k' owner') hlo j

def entry (k : FarmId) (owner : FarmerId) (t : MemoryStore) :=
  ((service ⟨.standard, .allow⟩ .none fun _ => ⟨0, 0⟩).perform (.create k ⟨owner, parcel.polygon.ring, .empty⟩)).outcome
    (.ofStore t)

section Entry

variable {t : MemoryStore} {k : FarmId} {owner : FarmerId} (ht : t.Balanced) (hfresh : t.farms[k]? = none)

include ht hfresh

theorem entry_touches : t.Touches (entry k owner t).2.store k := by
  unfold entry
  exact perform_touches _ _ _ (o := .create k ⟨owner, parcel.polygon.ring, .empty⟩) (w := .ofStore t) ht rfl
    fun _ _ => hfresh

theorem entry_owned (howner : owner ∈ t.farmers) (hfits : ∀ j, Totals.Fits (t.holding j + (plot k owner).share j)) :
    (entry k owner t).1 = .ok (plot k owner) ∧
      ∀ j, (entry k owner t).2.store.holding j = t.holding j + (plot k owner).share j := by
  unfold entry
  exact create_owned _ _ _ (w := .ofStore t) (r := ⟨owner, parcel.polygon.ring, .empty⟩) (p := parcel.polygon)
    rfl ht hfresh (Polygon.ofRing_eq_ok_iff.mpr rfl) howner fun j _ => hfits j

theorem entries_owned {k' : FarmId} {owner' : FarmerId} (hk : k' ≠ k) (hfresh' : t.farms[k']? = none)
    (howner : owner ∈ t.farmers) (howner' : owner' ∈ t.farmers) (hheld : ∀ j, t.holding j = 0)
    (hfits : ∀ j, Totals.Fits ((plot k owner).share j + (plot k' owner').share j)) :
    (entry k owner t).1 = .ok (plot k owner) ∧
      (entry k' owner' (entry k owner t).2.store).1 = .ok (plot k' owner') ∧
      ∀ j, (entry k' owner' (entry k owner t).2.store).2.store.holding j =
        (plot k owner).share j + (plot k' owner').share j := by
  have htouch : t.Touches (entry k owner t).2.store k := entry_touches ht hfresh
  have hfirst : ∀ j, Totals.Fits (t.holding j + (plot k owner).share j) := by
    intro j
    rw [hheld, zero_add]
    exact Totals.fits_share (Area.ofPolygon_val_nonneg _) j
  obtain ⟨hok, hholds⟩ := entry_owned ht hfresh howner hfirst
  have hsum : ∀ j, (entry k owner t).2.store.holding j = (plot k owner).share j := by
    intro j
    rw [hholds, hheld, zero_add]
  obtain ⟨hok', hholds'⟩ := entry_owned htouch.balanced ((htouch.others k' hk).trans hfresh')
    ((htouch.farmers owner').mpr howner') (k := k') (by simpa only [hsum] using hfits)
  refine ⟨hok, hok', ?_⟩
  intro j
  rw [hholds', hsum]

end Entry

/-- Two plots are entered in either order. They go to one farmer if the sum of their areas is in range, which has to be
left open: areas come from sines and arctangents, which are computed outside the logic. -/
theorem entries_commute :
    let s := ((service ⟨.standard, .allow⟩ .none fun _ => ⟨0, 0⟩).after (.ofStore .empty)
      [.registerFarmer taker, .registerFarmer giver]).store
    let k : FarmId := ⟨⟨⟨4, by decide⟩⟩⟩
    let owner := if plotArea + plotArea ≤ 9223372036854775807 then taker else giver
    (entry parcel.id taker s).1 = .ok (plot parcel.id taker) ∧ (entry k owner s).1 = .ok (plot k owner) ∧
      (entry parcel.id taker (entry k owner s).2.store).1 = .ok (plot parcel.id taker) ∧
      (entry k owner (entry parcel.id taker s).2.store).1 = .ok (plot k owner) ∧
      (entry k owner (entry parcel.id taker s).2.store).2.store =
        (entry parcel.id taker (entry k owner s).2.store).2.store ∧
      (entry k owner (entry parcel.id taker s).2.store).2.store.holding taker =
        (plotArea, 1) + if owner = taker then (plotArea, 1) else 0 := by
  intro s k owner
  have hs : s.Balanced := after_balanced ⟨.standard, .allow⟩ .none (fun _ => ⟨0, 0⟩)
    [.registerFarmer taker, .registerFarmer giver]
  have hempty : ∀ i : FarmId, s.farms[i]? = none := fun _ => Std.ExtTreeMap.getElem?_empty
  have hheld : ∀ j, s.holding j = 0 := fun _ => rfl
  have htaker : taker ∈ s.farmers := mem_iff_exists_getElem?.mpr ⟨⟨.new taker, false⟩, by rfl⟩
  have hgiver : giver ∈ s.farmers := mem_iff_exists_getElem?.mpr ⟨⟨.new giver, false⟩, by rfl⟩
  have howner : owner ∈ s.farmers := by
    unfold owner
    split
    · exact htaker
    · exact hgiver
  have hkeys : parcel.id ≠ k := by decide
  have hfits : ∀ j, Totals.Fits ((plot parcel.id taker).share j + (plot k owner).share j) := by
    apply plots_fit
    intro htogether
    by_contra hboth
    have hapart : owner = giver := if_neg hboth
    rw [hapart] at htogether
    exact absurd htogether (by decide)
  obtain ⟨hfirst, hsecondLater, hholds⟩ :=
    entries_owned hs (hempty parcel.id) hkeys.symm (hempty k) htaker howner hheld hfits
  obtain ⟨hsecond, hfirstLater, _⟩ := entries_owned hs (hempty k) hkeys (hempty parcel.id) howner htaker hheld
    fun j => by rw [add_comm]; exact hfits j
  have hgranted : ∀ {r : Except (Stop ServiceError) Farm} {f : Farm}, r = .ok f → ¬LeavesRange r := by
    rintro _ f rfl ⟨j, hj⟩
    cases hj
  have hcommute := independent_commute ⟨.standard, .allow⟩ .none (fun _ => ⟨0, 0⟩)
    [.registerFarmer taker, .registerFarmer giver] .standard .standard .none .none (fun _ => ⟨0, 0⟩) (fun _ => ⟨0, 0⟩)
    (o := .create parcel.id ⟨taker, parcel.polygon.ring, .empty⟩)
    (q := .create k ⟨owner, parcel.polygon.ring, .empty⟩) rfl rfl hkeys (fun _ _ => hempty _) (fun _ _ => hempty _)
  have hstore : ((service ⟨.standard, .allow⟩ .none fun _ => ⟨0, 0⟩).after (.ofStore .empty)
      [.registerFarmer taker, .registerFarmer giver]).store = s := rfl
  dsimp only at hcommute
  rw [hstore] at hcommute
  clear_value s k owner
  rw [hholds, plot_share, plot_share, if_pos rfl]
  unfold entry at hfirst hsecond hfirstLater hsecondLater ⊢
  exact ⟨hfirst, hsecond, hfirstLater, hsecondLater,
    (hcommute (hgranted hfirst) (hgranted hsecondLater) (hgranted hsecond) (hgranted hfirstLater)).2.2, rfl⟩

end Service

end FarmRegistry
