import FarmRegistry.Proofs.Order.Outcomes
import FarmRegistry.Proofs.Store.Intact
import FarmRegistry.Proofs.Totals.Exact

namespace FarmRegistry

namespace MemoryStore

structure Admits (s : MemoryStore) (c : Change) : Prop where
  registered : ∀ d ∈ c.deltas, d.farmerId ∈ s.farmers
  current : s.farms[c.write.farmId]?.map Farm.version = c.write.expected?
  owned : ∀ f, c.write.farm? = some f → f.farmerId ∈ s.farmers
  inRange : ∀ d ∈ c.deltas, ∀ slot, s.farmers[d.farmerId]? = some slot →
    Totals.Fits (slot.farmer.standing + d.amount)

structure Follows (s : MemoryStore) (c : Change) (t : MemoryStore) : Prop where
  farms : ∀ i, t.farms[i]? = if c.write.farmId = i then c.write.farm? else s.farms[i]?
  moved : ∀ d ∈ c.deltas, ∀ slot, s.farmers[d.farmerId]? = some slot →
    ∃ g, t.farmers[d.farmerId]? = some ⟨g, false⟩ ∧ g.id = d.farmerId ∧
      g.standing = slot.farmer.standing + d.amount
  others : ∀ i, (∀ d ∈ c.deltas, d.farmerId ≠ i) → t.farmers[i]? = s.farmers[i]?
  farmsPoisoned : t.farmsPoisoned = s.farmsPoisoned

section Checks

variable {s : MemoryStore} {c : Change}

theorem usableFarms_eq_ok_iff {farms : Std.ExtTreeMap FarmId Farm} :
    s.usableFarms = .ok farms ↔ s.farmsPoisoned = false ∧ s.farms = farms := by
  unfold usableFarms
  cases s.farmsPoisoned <;> simp

theorem usableFarms_of_intact (hs : s.Intact) : s.usableFarms = .ok s.farms :=
  usableFarms_eq_ok_iff.mpr ⟨hs.farmsUsable, rfl⟩

theorem findFarm_of_intact (hs : s.Intact) (i : FarmId) : s.findFarm i = .ok s.farms[i]? := by
  rw [findFarm, usableFarms_of_intact hs]
  rfl

theorem checkWrite_eq_ok_iff {farms : Std.ExtTreeMap FarmId Farm} {w : Write} :
    checkWrite farms w = .ok () ↔ farms[w.farmId]?.map Farm.version = w.expected? := by
  simp only [checkWrite]
  cases hf : farms[w.farmId]? with
  | none => cases he : w.expected? <;> simp
  | some f =>
    cases he : w.expected? with
    | none => simp
    | some v =>
      by_cases hv : f.version = v <;> simp [hv]

theorem checkOwner_eq_ok_iff {w : Write} :
    s.checkOwner w = .ok () ↔ ∀ f, w.farm? = some f → f.farmerId ∈ s.farmers := by
  unfold checkOwner
  cases w.farm? with
  | none => simp
  | some f =>
    by_cases h : f.farmerId ∈ s.farmers <;> simp [h]

theorem moveTotals_eq_ok_iff {f g : Farmer} {d : TotalsDelta} : moveTotals f d = .ok g ↔ f.apply d = .ok g := by
  unfold moveTotals
  cases f.apply d <;> simp [Except.mapError]

theorem prepare_eq_ok_iff {moved : List Farmer} :
    s.prepare c = .ok moved ↔
      s.farmsPoisoned = false ∧ s.farms[c.write.farmId]?.map Farm.version = c.write.expected? ∧
        (∀ f, c.write.farm? = some f → f.farmerId ∈ s.farmers) ∧
        List.Forall₂ (fun d g => ∃ f, s.farmers[d.farmerId]? = some ⟨f, false⟩ ∧ f.apply d = .ok g)
          c.deltas moved := by
  have hpasses := forall₂_zip_right (l := c.deltas) (n := moved)
    (R := fun d f => s.farmerNamed d.farmerId = .ok f) (S := fun p g => moveTotals p.1 p.2 = .ok g)
  simp only [farmerNamed_eq_ok_iff, moveTotals_eq_ok_iff] at hpasses
  rw [← checkWrite_eq_ok_iff, ← checkOwner_eq_ok_iff, ← hpasses]
  simp only [← farmerNamed_eq_ok_iff, ← moveTotals_eq_ok_iff, ← mapM_eq_ok_iff, prepare, usableFarms_eq_ok_iff,
    bind_eq_ok_iff]
  constructor
  · rintro ⟨farmers, hnamed, _, ⟨husable, rfl⟩, _, hwrite, _, howner, hmoved⟩
    exact ⟨husable, hwrite, howner, farmers, hnamed, hmoved⟩
  · rintro ⟨husable, hwrite, howner, farmers, hnamed, hmoved⟩
    exact ⟨farmers, hnamed, s.farms, ⟨husable, rfl⟩, (), hwrite, (), howner, hmoved⟩

end Checks

section Commit

variable {s : MemoryStore} {c : Change}

theorem exists_prepare_iff (hs : s.Intact) : (∃ moved, s.prepare c = .ok moved) ↔ s.Admits c := by
  constructor
  · rintro ⟨moved, h⟩
    obtain ⟨_, hcurrent, howned, hmoved⟩ := prepare_eq_ok_iff.mp h
    refine ⟨?_, hcurrent, howned, ?_⟩
    · intro d hd
      obtain ⟨g, _, f, hf, _⟩ := forall₂_mem_left hmoved hd
      exact mem_iff_exists_getElem?.mpr ⟨_, hf⟩
    · intro d hd slot hslot
      obtain ⟨g, _, f, hf, hg⟩ := forall₂_mem_left hmoved hd
      obtain rfl := Option.some.inj (hslot.symm.trans hf)
      exact (Farmer.exists_apply_iff.mp ⟨g, hg⟩).2
  · rintro ⟨hreg, hcurrent, howned, hrange⟩
    have hmoved : ∀ d ∈ c.deltas, ∃ g f, s.farmers[d.farmerId]? = some ⟨f, false⟩ ∧ f.apply d = .ok g := by
      intro d hd
      obtain ⟨⟨f, poisoned⟩, hslot⟩ := mem_iff_exists_getElem?.mp (hreg d hd)
      obtain rfl : poisoned = false := hs.slotUsable _ _ hslot
      have hid : f.id = d.farmerId := hs.slotId _ _ hslot
      obtain ⟨g, hg⟩ := Farmer.exists_apply_iff.mpr ⟨hid.symm, hrange d hd _ hslot⟩
      exact ⟨g, f, hslot, hg⟩
    obtain ⟨moved, h⟩ := exists_forall₂ hmoved
    exact ⟨moved, prepare_eq_ok_iff.mpr ⟨hs.farmsUsable, hcurrent, howned, h⟩⟩

theorem applied_ids {P : TotalsDelta → Farmer → Prop} {deltas : List TotalsDelta} {moved : List Farmer}
    (h : List.Forall₂ (fun d g => ∃ f, P d f ∧ f.apply d = .ok g) deltas moved) :
    moved.map Farmer.id = deltas.map TotalsDelta.farmerId := by
  induction h with
  | nil => rfl
  | cons hR _ ih =>
    obtain ⟨f, _, hg⟩ := hR
    obtain ⟨hid, hgid, _⟩ := Farmer.apply_eq_ok_iff.mp hg
    rw [List.map_cons, List.map_cons, ih, hgid, hid]

theorem follows_of_prepare (hc : (c.deltas.map TotalsDelta.farmerId).Nodup) {moved : List Farmer}
    (h : s.prepare c = .ok moved) : s.Follows c (moved.foldl putFarmer (s.writeFarm c.write)) := by
  obtain ⟨_, _, _, hmoved⟩ := prepare_eq_ok_iff.mp h
  have hids := applied_ids hmoved
  refine ⟨?_, ?_, ?_, ?_⟩
  · intro i
    rw [foldl_putFarmer_farms, writeFarm_farms]
  · intro d hd slot hslot
    obtain ⟨g, hg, f, hf, happly⟩ := forall₂_mem_left hmoved hd
    obtain ⟨hid, hgid, hstand, _⟩ := Farmer.apply_eq_ok_iff.mp happly
    obtain rfl := Option.some.inj (hslot.symm.trans hf)
    refine ⟨g, ?_, hgid.trans hid.symm, hstand⟩
    rw [hid, ← hgid]
    exact foldl_putFarmer_mem (hids ▸ hc) hg
  · intro i hi
    rw [foldl_putFarmer_absent, writeFarm_farmers]
    intro g hg hgi
    have hmem : i ∈ c.deltas.map TotalsDelta.farmerId := hids ▸ hgi ▸ List.mem_map_of_mem hg
    obtain ⟨d, hd, hdi⟩ := List.mem_map.mp hmem
    exact hi d hd hdi
  · rw [foldl_putFarmer_farmsPoisoned, writeFarm_farmsPoisoned]

theorem commit_eq_ok_iff (hs : s.Intact) : (s.commit c).outcome = .ok () ↔ s.Admits c := by
  rw [← exists_prepare_iff hs]
  rcases commit_cases s c with ⟨moved, hp, hok, _⟩ | ⟨e, hp, herr, _⟩
  · simp [hp, hok]
  · simp [hp, herr]

theorem commit_follows (hc : (c.deltas.map TotalsDelta.farmerId).Nodup) (h : (s.commit c).outcome = .ok ()) :
    s.Follows c (s.commit c).state := by
  rcases commit_cases s c with ⟨moved, hp, _, hstate⟩ | ⟨e, _, herr, _⟩
  · rw [hstate]
    exact follows_of_prepare hc hp
  · rw [herr] at h
    cases h

theorem commit_failed (h : (s.commit c).outcome ≠ .ok ()) :
    (∃ e, (s.commit c).outcome = .error (.refused e)) ∧ (s.commit c).state = s := by
  rcases commit_cases s c with ⟨_, _, hok, _⟩ | ⟨e, _, herr, hstate⟩
  · exact absurd hok h
  · exact ⟨⟨e, herr⟩, hstate⟩

theorem commit_refused_cases {e : StoreError} (h : (s.commit c).outcome = .error (.refused e)) :
    (∃ d ∈ c.deltas, s.farmerNamed d.farmerId = .error e) ∨ s.usableFarms = .error e ∨
      checkWrite s.farms c.write = .error e ∨ s.checkOwner c.write = .error e ∨
      (checkWrite s.farms c.write = .ok () ∧
        ∃ d ∈ c.deltas, ∃ f, s.farmers[d.farmerId]? = some ⟨f, false⟩ ∧ moveTotals f d = .error e) := by
  have hprepare : s.prepare c = .error e := by
    rcases commit_cases s c with ⟨moved, _, hok, _⟩ | ⟨f, hf, herror, _⟩
    · rw [hok] at h
      cases h
    · rw [herror] at h
      cases h
      exact hf
  rcases bind_eq_error_iff.mp hprepare with hnamed | ⟨farmers, hnamed, hprepare⟩
  · exact .inl (mapM_eq_error hnamed)
  rcases bind_eq_error_iff.mp hprepare with husable | ⟨farms, hfarms, hprepare⟩
  · exact .inr (.inl husable)
  obtain ⟨_, rfl⟩ := usableFarms_eq_ok_iff.mp hfarms
  rcases bind_eq_error_iff.mp hprepare with hwrite | ⟨_, hwrite, hprepare⟩
  · exact .inr (.inr (.inl hwrite))
  rcases bind_eq_error_iff.mp hprepare with howner | ⟨_, _, hmove⟩
  · exact .inr (.inr (.inr (.inl howner)))
  obtain ⟨⟨f, d⟩, hmem, hfail⟩ := mapM_eq_error hmove
  have hpairs := List.forall₂_iff_zip.mp (mapM_eq_ok_iff.mp hnamed).flip
  exact .inr (.inr (.inr (.inr
    ⟨hwrite, d, (List.of_mem_zip hmem).2, f, farmerNamed_eq_ok_iff.mp (hpairs.2 hmem), hfail⟩)))

/-- A commit is all or nothing, whatever the change: it happens exactly where the store admits it, then does
what the change says and nothing else, and otherwise is refused and leaves the store as it is. -/
theorem commit_all_or_nothing (hs : s.Intact) (hc : (c.deltas.map TotalsDelta.farmerId).Nodup) :
    ((store (.commit c) s).outcome = .ok () ↔ s.Admits c) ∧
      ((store (.commit c) s).outcome = .ok () → s.Follows c (store (.commit c) s).state) ∧
      ((store (.commit c) s).outcome ≠ .ok () →
        (∃ e, (store (.commit c) s).outcome = .error (.refused e)) ∧ (store (.commit c) s).state = s) :=
  ⟨commit_eq_ok_iff hs, commit_follows hc, commit_failed⟩

def giver : FarmerId := ⟨⟨⟨1, by decide⟩⟩⟩

def taker : FarmerId := ⟨⟨⟨2, by decide⟩⟩⟩

def greatest : Signed64 := ⟨9223372036854775807, by decide, by decide⟩

def parcel : Farm :=
  .create ⟨⟨⟨3, by decide⟩⟩⟩ taker ⟨[⟨0, 0⟩, ⟨1, 0⟩, ⟨1, 1⟩, ⟨0, 1⟩, ⟨0, 0⟩], by decide +kernel⟩ .empty ⟨0, 0⟩

def newcomers : MemoryStore :=
  (empty.putFarmer (.new taker)).putFarmer (.new giver)

def handover (lost : Area) : Change :=
  ⟨.insert parcel, [⟨taker, .ofNat 5, TotalsDelta.oneFarm⟩, ⟨giver, lost, TotalsDelta.noFarm⟩]⟩

theorem commit_handover :
    let lost : Area := ⟨⟨-3, by decide, by decide⟩⟩
    newcomers.Intact ∧ (∀ a, ((handover a).deltas.map TotalsDelta.farmerId).Nodup) ∧
      newcomers.Admits (handover .zero) ∧
      newcomers.Follows (handover .zero) (store (.commit (handover .zero)) newcomers).state ∧
      ¬newcomers.Admits (handover lost) ∧ (store (.commit (handover lost)) newcomers).state = newcomers := by
  intro lost
  have hs : newcomers.Intact := (Intact.empty.putFarmer _).putFarmer _
  have hc : ∀ a, ((handover a).deltas.map TotalsDelta.farmerId).Nodup := by
    intro a
    change [taker, giver].Nodup
    decide
  have hok : (store (.commit (handover .zero)) newcomers).outcome = .ok () := by rfl
  have hnegative : (store (.commit (handover lost)) newcomers).outcome =
      .error (.refused (.negativeAggregate giver)) := by rfl
  have hrefused : (store (.commit (handover lost)) newcomers).outcome ≠ .ok () := by
    rw [hnegative]
    exact nofun
  obtain ⟨hadmits, hfollows, _⟩ := commit_all_or_nothing hs (hc .zero)
  obtain ⟨hbars, _, hfailed⟩ := commit_all_or_nothing hs (hc lost)
  exact ⟨hs, hc, hadmits.mp hok, hfollows hok, mt hbars.mpr hrefused, (hfailed hrefused).2⟩

end Commit

end MemoryStore

end FarmRegistry
