import FarmRegistry.Proofs.Farm.Revisions
import FarmRegistry.Proofs.Store.Commit

namespace FarmRegistry

namespace MemoryStore

def farmsOf (farms : Std.ExtTreeMap FarmId Farm) : List Farm :=
  farms.toList.map (·.2)

def holding (s : MemoryStore) (i : FarmerId) : Int × Int :=
  Farm.holding i (farmsOf s.farms)

theorem mem_farmsOf {farms : Std.ExtTreeMap FarmId Farm} {f : Farm} :
    f ∈ farmsOf farms ↔ ∃ i : FarmId, farms[i]? = some f := by
  simp only [farmsOf, List.mem_map, Prod.exists, Std.ExtTreeMap.mem_toList_iff_getElem?_eq_some, exists_eq_right]

theorem farmList_of_intact {s : MemoryStore} (hs : s.Intact) : s.farmList = .ok (farmsOf s.farms) := by
  rw [farmList, usableFarms_of_intact hs]
  rfl

theorem registerFarmer_farms (s : MemoryStore) (i : FarmerId) : (s.registerFarmer i).state.farms = s.farms := by
  unfold registerFarmer
  split <;> rfl

theorem holding_erase (i : FarmerId) (farms : Std.ExtTreeMap FarmId Farm) (k : FarmId) :
    Farm.holding i (farmsOf farms) = Farm.shareOf i farms[k]? + Farm.holding i (farmsOf (farms.erase k)) := by
  cases h : farms[k]? with
  | none =>
    rw [erase_of_absent h]
    exact (zero_add _).symm
  | some f =>
    have hperm := (toList_perm_cons_erase h).map Prod.snd
    exact (Farm.holding_perm i hperm).trans (Farm.holding_cons i f _)

theorem holding_insert (i : FarmerId) (farms : Std.ExtTreeMap FarmId Farm) (k : FarmId) (f : Farm) :
    Farm.holding i (farmsOf (farms.insert k f)) = f.share i + Farm.holding i (farmsOf (farms.erase k)) := by
  rw [holding_erase i (farms.insert k f) k, erase_insert, insert_getElem?, if_pos rfl]
  rfl

theorem holding_writeFarm (s : MemoryStore) (w : Write) (i : FarmerId) :
    (s.writeFarm w).holding i = s.holding i + (Farm.shareOf i w.farm? - Farm.shareOf i s.farms[w.farmId]?) := by
  have hsplit := holding_erase i s.farms w.farmId
  cases w with
  | insert f =>
    simp only [holding, hsplit, writeFarm, holding_insert, Write.farm?, Write.farmId, Farm.shareOf, Option.elim_some]
    abel
  | update f v =>
    simp only [holding, hsplit, writeFarm, holding_insert, Write.farm?, Write.farmId, Farm.shareOf, Option.elim_some]
    abel
  | remove k v =>
    simp only [holding, hsplit, writeFarm, Write.farm?, Write.farmId, Farm.shareOf, Option.elim_none]
    abel

section Follows

variable {s t : MemoryStore} {c : Change}

theorem Follows.holding (h : s.Follows c t) (i : FarmerId) :
    t.holding i = s.holding i + (Farm.shareOf i c.write.farm? - Farm.shareOf i s.farms[c.write.farmId]?) := by
  have hfarms : t.farms = (s.writeFarm c.write).farms := by
    ext j
    rw [h.farms, writeFarm_farms]
  rw [← holding_writeFarm, MemoryStore.holding, MemoryStore.holding, hfarms]

theorem Follows.standing (h : s.Follows c t) (hc : (c.deltas.map TotalsDelta.farmerId).Nodup) {i : FarmerId}
    {slot : FarmerSlot} (hi : s.farmers[i]? = some slot) :
    ∃ moved, t.farmers[i]? = some moved ∧
      moved.farmer.standing = slot.farmer.standing + TotalsDelta.sumFor i c.deltas := by
  by_cases hnamed : ∃ d ∈ c.deltas, d.farmerId = i
  · obtain ⟨d, hd, rfl⟩ := hnamed
    obtain ⟨g, hg, _, hstand⟩ := h.moved d hd slot hi
    exact ⟨_, hg, by rw [TotalsDelta.sumFor_of_mem hc hd, hstand]⟩
  · have hother : ∀ d ∈ c.deltas, d.farmerId ≠ i := fun d hd hdi => hnamed ⟨d, hd, hdi⟩
    exact ⟨slot, (h.others i hother).trans hi, by rw [TotalsDelta.sumFor_absent hother, add_zero]⟩

theorem Follows.unregistered (h : s.Follows c t) (ha : s.Admits c) {i : FarmerId} (hi : s.farmers[i]? = none) :
    t.farmers[i]? = none := by
  rw [h.others i, hi]
  rintro d hd rfl
  obtain ⟨slot, hslot⟩ := mem_iff_exists_getElem?.mp (ha.registered d hd)
  rw [hi] at hslot
  cases hslot

theorem Follows.mem_farmers (h : s.Follows c t) (ha : s.Admits c) (hc : (c.deltas.map TotalsDelta.farmerId).Nodup)
    (i : FarmerId) : i ∈ t.farmers ↔ i ∈ s.farmers := by
  rw [mem_iff_exists_getElem?, mem_iff_exists_getElem?]
  constructor
  · rintro ⟨moved, hmoved⟩
    cases hi : s.farmers[i]? with
    | some slot => exact ⟨slot, rfl⟩
    | none =>
      rw [h.unregistered ha hi] at hmoved
      cases hmoved
  · rintro ⟨slot, hslot⟩
    obtain ⟨moved, hmoved, _⟩ := h.standing hc hslot
    exact ⟨moved, hmoved⟩

end Follows

structure Sound (s : MemoryStore) : Prop extends Intact s where
  areas : ∀ (i : FarmId) (f : Farm), s.farms[i]? = some f → 0 ≤ f.area.val
  owned : ∀ (i : FarmId) (f : Farm), s.farms[i]? = some f → f.farmerId ∈ s.farmers

/-- A sound store whose totals are exact. -/
structure Balanced (s : MemoryStore) : Prop extends Sound s where
  exact : ∀ (i : FarmerId) (slot : FarmerSlot), s.farmers[i]? = some slot → slot.farmer.standing = s.holding i

namespace Sound

variable {s : MemoryStore}

theorem empty : MemoryStore.empty.Sound := by
  refine ⟨Intact.empty, ?_, ?_⟩ <;> intro i x h <;> cases h

theorem farmsOf_nonneg (hs : s.Sound) : ∀ f ∈ farmsOf s.farms, 0 ≤ f.area.val := by
  intro f hf
  obtain ⟨i, hi⟩ := mem_farmsOf.mp hf
  exact hs.areas i f hi

theorem holding_eq_zero (hs : s.Sound) {i : FarmerId} (hi : s.farmers[i]? = none) : s.holding i = 0 := by
  unfold holding Farm.holding Farm.heldArea Farm.heldCount
  have hnone : (farmsOf s.farms).filter (Farm.isHeldBy i) = [] := by
    rw [List.filter_eq_nil_iff]
    intro f hf hheld
    obtain ⟨k, hk⟩ := mem_farmsOf.mp hf
    simp only [Farm.isHeldBy, Bool.and_eq_true, decide_eq_true_eq] at hheld
    obtain ⟨slot, hslot⟩ := mem_iff_exists_getElem?.mp (hs.owned k f hk)
    rw [hheld.2, hi] at hslot
    cases hslot
  rw [hnone]
  rfl

theorem without_nonneg (hs : s.Sound) (k : FarmId) (i : FarmerId) :
    0 ≤ (s.holding i - Farm.shareOf i s.farms[k]?).1 ∧ 0 ≤ (s.holding i - Farm.shareOf i s.farms[k]?).2 := by
  have hrest : s.holding i - Farm.shareOf i s.farms[k]? = Farm.holding i (farmsOf (s.farms.erase k)) := by
    rw [holding, holding_erase i s.farms k]
    exact add_sub_cancel_left _ _
  rw [hrest]
  apply Farm.holding_nonneg
  intro g hg
  obtain ⟨j, hj⟩ := mem_farmsOf.mp hg
  rw [erase_getElem?] at hj
  split at hj
  · cases hj
  · exact hs.areas j g hj

theorem registerFarmer (hs : s.Sound) (i : FarmerId) : (s.registerFarmer i).state.Sound := by
  cases hi : s.farmers[i]? with
  | some slot =>
    simp only [MemoryStore.registerFarmer, hi]
    exact hs
  | none =>
    simp only [MemoryStore.registerFarmer, hi]
    refine ⟨hs.toIntact.putFarmer (.new i), hs.areas, ?_⟩
    intro k f hk
    exact Std.ExtTreeMap.mem_insert.mpr (.inr (hs.owned k f hk))

end Sound

namespace Balanced

variable {s : MemoryStore}

theorem empty : MemoryStore.empty.Balanced := by
  refine ⟨Sound.empty, ?_⟩
  intro i x h
  cases h

theorem fits (hs : s.Balanced) {i : FarmerId} {slot : FarmerSlot} (h : s.farmers[i]? = some slot) :
    Totals.Fits (s.holding i) := by
  have hn := Farm.holding_nonneg i hs.farmsOf_nonneg
  have hexact := hs.exact i slot h
  have harea : slot.farmer.totalArea.val = (s.holding i).1 := congrArg Prod.fst hexact
  have hcount : slot.farmer.farmCount.val = (s.holding i).2 := congrArg Prod.snd hexact
  exact ⟨⟨hn.1, harea ▸ slot.farmer.totalArea.le_hi⟩, hn.2, hcount ▸ slot.farmer.farmCount.le_hi⟩

theorem fits_without (hs : s.Balanced) {k : FarmId} {f : Farm} (hf : s.farms[k]? = some f) {i : FarmerId}
    (hi : i ∈ s.farmers) : Totals.Fits (s.holding i - f.share i) := by
  obtain ⟨slot, hslot⟩ := mem_iff_exists_getElem?.mp hi
  obtain ⟨⟨_, harea⟩, _, hcount⟩ := hs.fits hslot
  have hshare := Farm.share_nonneg i (hs.areas k f hf)
  have hn := hs.without_nonneg k i
  rw [hf] at hn
  change 0 ≤ (s.holding i - f.share i).1 ∧ 0 ≤ (s.holding i - f.share i).2 at hn
  simp only [Prod.fst_sub, Prod.snd_sub] at hn
  refine ⟨⟨hn.1, ?_⟩, hn.2, ?_⟩
  · rw [Prod.fst_sub]
    omega
  · rw [Prod.snd_sub]
    omega

theorem registerFarmer (hs : s.Balanced) (i : FarmerId) : (s.registerFarmer i).state.Balanced := by
  refine ⟨hs.toSound.registerFarmer i, ?_⟩
  intro j slot hj
  have hholding : (s.registerFarmer i).state.holding j = s.holding j := by
    rw [holding, registerFarmer_farms]
    rfl
  rw [hholding]
  cases hi : s.farmers[i]? with
  | some held =>
    simp only [MemoryStore.registerFarmer, hi] at hj
    exact hs.exact j slot hj
  | none =>
    simp only [MemoryStore.registerFarmer, hi] at hj
    change (s.putFarmer (.new i)).farmers[j]? = some slot at hj
    rw [putFarmer_getElem?] at hj
    split at hj
    · rename_i hij
      change i = j at hij
      subst hij
      rw [← Option.some.inj hj]
      exact (hs.holding_eq_zero hi).symm
    · exact hs.exact j slot hj

theorem ofFarms_registered (hs : s.Balanced) {i : FarmerId} {slot : FarmerSlot} (h : s.farmers[i]? = some slot) :
    ∃ t, Totals.ofFarms i (farmsOf s.farms) = .ok t ∧ Farmer.reconciled i t = slot.farmer := by
  obtain ⟨t, ht, hsums⟩ := Totals.ofFarms_eq_holding hs.farmsOf_nonneg (hs.fits h)
  refine ⟨t, ht, Farmer.ext_standing ?_ ?_⟩
  · exact (hs.slotId i _ h).symm
  · exact hsums.trans (hs.exact i _ h).symm

theorem reconcile_registered (hs : s.Balanced) {i : FarmerId} {slot : FarmerSlot} (h : s.farmers[i]? = some slot) :
    s.reconcileFarmer i = .ok slot.farmer s := by
  obtain ⟨t, ht, hsame⟩ := hs.ofFarms_registered h
  obtain ⟨f, poisoned⟩ := slot
  obtain rfl : poisoned = false := hs.slotUsable i _ h
  have hput : s.putFarmer f = s := by
    have hid : f.id = i := hs.slotId i _ h
    unfold putFarmer
    rw [hid, insert_of_getElem? h]
  simp only [reconcileFarmer, farmerNamed_eq_ok_iff.mpr h, farmList_of_intact hs.toIntact, ht, hsame, hput]

theorem reconcile_absent {i : FarmerId} (h : s.farmers[i]? = none) :
    s.reconcileFarmer i = .refused (.farmerNotFound i) s := by
  simp only [reconcileFarmer, farmerNamed, h]

theorem reconcile_state (hs : s.Balanced) (i : FarmerId) : (s.reconcileFarmer i).state = s := by
  cases h : s.farmers[i]? with
  | none =>
    rw [reconcile_absent h]
    rfl
  | some slot =>
    rw [hs.reconcile_registered h]
    rfl

end Balanced

structure Turns (s : MemoryStore) (c : Change) (before after : Option Farm) : Prop where
  deltas : TotalsDelta.between before after = .ok c.deltas
  stored : s.farms[c.write.farmId]? = before
  written : c.write.farm? = after
  area : Farm.AreaNonneg after

section Turns

variable {s : MemoryStore} {c : Change} {f g : Farm}

theorem insert_turns (hf : 0 ≤ f.area.val) (hc : Change.insert f = .ok c)
    (hcurrent : s.farms[c.write.farmId]?.map Farm.version = c.write.expected?) : s.Turns c none (some f) := by
  obtain ⟨hw, hd⟩ := Change.insert_eq_ok_iff.mp hc
  refine ⟨hd, ?_, ?_, Farm.areaNonneg_some hf⟩
  · rw [hw] at hcurrent ⊢
    exact Option.map_eq_none_iff.mp hcurrent
  · rw [hw]
    rfl

theorem update_turns (hid : g.id = f.id) (hg : 0 ≤ g.area.val) (hc : Change.update f g = .ok c)
    (hstored : s.farms[f.id]? = some f) : s.Turns c (some f) (some g) := by
  obtain ⟨hw, hd⟩ := Change.update_eq_ok_iff.mp hc
  refine ⟨hd, ?_, ?_, Farm.areaNonneg_some hg⟩
  · rw [hw, Write.farmId, hid]
    exact hstored
  · rw [hw]
    rfl

theorem remove_turns (hc : Change.remove f = .ok c) (hstored : s.farms[f.id]? = some f) :
    s.Turns c (some f) none := by
  obtain ⟨hw, hd⟩ := Change.remove_eq_ok_iff.mp hc
  refine ⟨hd, ?_, ?_, Farm.areaNonneg_none⟩
  · rw [hw]
    exact hstored
  · rw [hw]
    rfl

end Turns

namespace Sound

variable {s : MemoryStore} {c : Change} {before after : Option Farm}

theorem ordered_sum (hs : s.Sound) (hc : s.Turns c before after) :
    TotalsDelta.Ordered c.deltas ∧
      (∀ d ∈ c.deltas, Farm.OwnedBy d.farmerId before ∨ Farm.OwnedBy d.farmerId after) ∧
      ∀ i, TotalsDelta.sumFor i c.deltas = Farm.shareOf i after - Farm.shareOf i before := by
  have hbefore : Farm.AreaNonneg before := fun f hf => hs.areas _ f (hc.stored.trans hf)
  obtain ⟨ds, hds, hsum⟩ := TotalsDelta.exists_between hbefore hc.area
  obtain rfl := Except.ok.inj (hds.symm.trans hc.deltas)
  obtain ⟨hord, hnames⟩ := TotalsDelta.between_names hds
  exact ⟨hord, hnames, hsum⟩

theorem follows (hs : s.Sound) (hc : s.Turns c before after) (hok : (s.commit c).outcome = .ok ()) :
    s.Follows c (s.commit c).state :=
  commit_follows (hs.ordered_sum hc).1.nodup hok

theorem commit_farms (hs : s.Sound) (hc : s.Turns c before after) (hok : (s.commit c).outcome = .ok ())
    (i : FarmId) : (s.commit c).state.farms[i]? = if c.write.farmId = i then after else s.farms[i]? := by
  rw [(hs.follows hc hok).farms, hc.written]

theorem commit_farmers (hs : s.Sound) (hc : s.Turns c before after) (hok : (s.commit c).outcome = .ok ())
    (i : FarmerId) : i ∈ (s.commit c).state.farmers ↔ i ∈ s.farmers :=
  (hs.follows hc hok).mem_farmers ((commit_eq_ok_iff hs.toIntact).mp hok) (hs.ordered_sum hc).1.nodup i

theorem of_follows (hs : s.Sound) {t : MemoryStore} (ht : t.Intact) (h : s.Follows c t) (ha : s.Admits c)
    (hc : (c.deltas.map TotalsDelta.farmerId).Nodup) (harea : Farm.AreaNonneg c.write.farm?) : t.Sound := by
  refine ⟨ht, ?_, ?_⟩
  · intro i f hf
    rw [h.farms] at hf
    split at hf
    · exact harea f hf
    · exact hs.areas i f hf
  · intro i f hf
    rw [h.mem_farmers ha hc]
    rw [h.farms] at hf
    split at hf
    · exact ha.owned f hf
    · exact hs.owned i f hf

theorem commit (hs : s.Sound) (hc : s.Turns c before after) (hok : (s.commit c).outcome = .ok ()) :
    (s.commit c).state.Sound := by
  have hadmits := (commit_eq_ok_iff hs.toIntact).mp hok
  have harea : Farm.AreaNonneg c.write.farm? := hc.written ▸ hc.area
  exact hs.of_follows (hs.toIntact.commit c) (hs.follows hc hok) hadmits (hs.ordered_sum hc).1.nodup harea

end Sound

namespace Balanced

variable {s : MemoryStore} {c : Change} {before after : Option Farm}

theorem admits (hs : s.Balanced) (hc : s.Turns c before after)
    (hcurrent : before.map Farm.version = c.write.expected?) (howned : ∀ f, after = some f → f.farmerId ∈ s.farmers)
    (hfits : ∀ i, i ∈ s.farmers → Totals.Fits (s.holding i + (Farm.shareOf i after - Farm.shareOf i before))) :
    s.Admits c := by
  obtain ⟨hord, hnames, hsum⟩ := hs.ordered_sum hc
  have hregistered : ∀ d ∈ c.deltas, d.farmerId ∈ s.farmers := by
    intro d hd
    rcases hnames d hd with ⟨f, hf, hid⟩ | ⟨f, hf, hid⟩
    · rw [← hid]
      exact hs.owned _ f (hc.stored.trans hf)
    · rw [← hid]
      exact howned f hf
  refine ⟨hregistered, ?_, ?_, ?_⟩
  · rw [hc.stored]
    exact hcurrent
  · intro f hf
    exact howned f (hc.written.symm.trans hf)
  · intro d hd slot hslot
    rw [hs.exact _ slot hslot, ← TotalsDelta.sumFor_of_mem hord.nodup hd, hsum]
    exact hfits d.farmerId (hregistered d hd)

theorem commit (hs : s.Balanced) (hc : s.Turns c before after) (hok : (s.commit c).outcome = .ok ()) :
    (s.commit c).state.Balanced := by
  obtain ⟨hord, _, hsum⟩ := hs.ordered_sum hc
  have hfollows := hs.follows hc hok
  have hadmits := (commit_eq_ok_iff hs.toIntact).mp hok
  refine ⟨hs.toSound.commit hc hok, ?_⟩
  intro i moved hmoved
  cases hi : s.farmers[i]? with
  | none =>
    rw [hfollows.unregistered hadmits hi] at hmoved
    cases hmoved
  | some slot =>
    obtain ⟨moved', hmoved', hstand⟩ := hfollows.standing hord.nodup hi
    obtain rfl := Option.some.inj (hmoved.symm.trans hmoved')
    rw [hstand, hs.exact i slot hi, hfollows.holding i, hc.written, hc.stored, hsum]

theorem insert_absent {f : Farm} (hs : s.Balanced) (hf : 0 ≤ f.area.val) (habsent : s.farms[f.id]? = none)
    (howner : f.farmerId ∈ s.farmers) (hfits : ∀ i, i ∈ s.farmers → Totals.Fits (s.holding i + f.share i))
    (hc : Change.insert f = .ok c) : (s.commit c).outcome = .ok () ∧ (s.commit c).state.farms[f.id]? = some f := by
  obtain ⟨hwrite, hdeltas⟩ := Change.insert_eq_ok_iff.mp hc
  have hturns : s.Turns c none (some f) := by
    refine ⟨hdeltas, ?_, ?_, Farm.areaNonneg_some hf⟩
    · rw [hwrite]
      exact habsent
    · rw [hwrite]
      rfl
  have hok : (s.commit c).outcome = .ok () := by
    refine (commit_eq_ok_iff hs.toIntact).mpr (hs.admits hturns ?_ ?_ ?_)
    · rw [hwrite]
      rfl
    · intro g hg
      exact Option.some.inj hg ▸ howner
    · intro i hi
      exact (congrArg Totals.Fits (congrArg _ (sub_zero _))).mpr (hfits i hi)
  refine ⟨hok, ?_⟩
  rw [hs.commit_farms hturns hok, hwrite]
  exact if_pos rfl

theorem remove_stored {f : Farm} (hs : s.Balanced) (hstored : s.farms[f.id]? = some f) (hc : Change.remove f = .ok c) :
    (s.commit c).outcome = .ok () ∧ (s.commit c).state.farms[f.id]? = none := by
  have hwrite := (Change.remove_eq_ok_iff.mp hc).1
  have hturns := remove_turns hc hstored
  have hok : (s.commit c).outcome = .ok () := by
    refine (commit_eq_ok_iff hs.toIntact).mpr (hs.admits hturns ?_ (fun _ => nofun) ?_)
    · rw [hwrite]
      rfl
    · intro i hi
      exact (congrArg Totals.Fits (add_zero_sub _ _)).mpr (hs.fits_without hstored hi)
  refine ⟨hok, ?_⟩
  rw [hs.commit_farms hturns hok, hwrite]
  exact if_pos rfl

end Balanced

end MemoryStore

end FarmRegistry
