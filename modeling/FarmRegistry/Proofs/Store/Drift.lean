import FarmRegistry.Proofs.Store.Footprint
import FarmRegistry.Proofs.Totals.Refusals

namespace FarmRegistry

namespace Farm

theorem shareOf_nonneg (i : FarmerId) {f : Option Farm} (h : AreaNonneg f) :
    0 ≤ (shareOf i f).1 ∧ 0 ≤ (shareOf i f).2 := by
  cases f with
  | none => exact ⟨Int.le_refl 0, Int.le_refl 0⟩
  | some f => exact share_nonneg i (h f rfl)

theorem shareOf_eq_zero {i : FarmerId} {f : Option Farm} (h : ¬OwnedBy i f) : shareOf i f = 0 := by
  cases f with
  | none => rfl
  | some f =>
    have hother : f.farmerId ≠ i := fun hi => h ⟨f, rfl, hi⟩
    simp [shareOf, share, isHeldBy, hother]

end Farm

namespace Farmer

theorem apply_eq_negative {f : Farmer} {d : TotalsDelta} {i : FarmerId} (h : f.apply d = .error (.negative i)) :
    d.farmerId = f.id ∧ i = f.id ∧ ((f.standing + d.amount).1 < 0 ∨ (f.standing + d.amount).2 < 0) := by
  have hid : d.farmerId = f.id := by
    by_contra hother
    rw [apply_foreign hother] at h
    cases h
  rcases apply_refused hid h with ⟨he, hshort⟩ | ⟨he, _⟩
  · cases he
    exact ⟨hid, rfl, hshort⟩
  · cases he

end Farmer

namespace MemoryStore

variable {s t : MemoryStore}

def drift? (s : MemoryStore) (i : FarmerId) : Option (Int × Int) :=
  s.farmers[i]?.map fun slot => slot.farmer.standing - s.holding i

/-- A sound store whose totals may be wrong, but are not below zero, and whose holdings are in range. -/
structure Repairable (s : MemoryStore) : Prop extends Sound s where
  standings : ∀ (i : FarmerId) (slot : FarmerSlot), s.farmers[i]? = some slot → 0 ≤ slot.farmer.totalArea.val
  inRange : ∀ i, Totals.Fits (s.holding i)

theorem drift?_eq_none_iff {i : FarmerId} : s.drift? i = none ↔ s.farmers[i]? = none :=
  Option.map_eq_none_iff

theorem drift?_of_slot {i : FarmerId} {slot : FarmerSlot} (h : s.farmers[i]? = some slot) :
    s.drift? i = some (slot.farmer.standing - s.holding i) := by
  rw [drift?, h]
  rfl

section Commit

variable {c : Change} {before after : Option Farm}

theorem Sound.commit_drift (hs : s.Sound) (hc : s.Turns c before after) (hok : (s.commit c).outcome = .ok ())
    (i : FarmerId) : (s.commit c).state.drift? i = s.drift? i := by
  obtain ⟨hord, _, hsum⟩ := hs.ordered_sum hc
  have hfollows := hs.follows hc hok
  cases hi : s.farmers[i]? with
  | none =>
    have hadmits := (commit_eq_ok_iff hs.toIntact).mp hok
    rw [drift?_eq_none_iff.mpr hi, drift?_eq_none_iff.mpr (hfollows.unregistered hadmits hi)]
  | some slot =>
    obtain ⟨moved, hmoved, hstand⟩ := hfollows.standing hord.nodup hi
    rw [drift?_of_slot hi, drift?_of_slot hmoved, hstand, hfollows.holding i, hc.written, hc.stored, hsum]
    congr 1
    abel

theorem farmerNamed_ne_negative (i j : FarmerId) : s.farmerNamed i ≠ .error (.negativeAggregate j) := by
  unfold farmerNamed usable poisonedError
  split
  · nofun
  · split <;> nofun

theorem moveTotals_eq_negative {f : Farmer} {d : TotalsDelta} {i : FarmerId}
    (h : moveTotals f d = .error (.negativeAggregate i)) : f.apply d = .error (.negative i) := by
  unfold moveTotals at h
  cases happly : f.apply d with
  | ok g =>
    rw [happly] at h
    cases h
  | error e =>
    rw [happly] at h
    cases e <;> cases h
    rfl

theorem commit_negative {i : FarmerId} (h : (s.commit c).outcome = .error (.refused (.negativeAggregate i))) :
    s.farms[c.write.farmId]?.map Farm.version = c.write.expected? ∧
      ∃ d ∈ c.deltas, ∃ f, s.farmers[d.farmerId]? = some ⟨f, false⟩ ∧ f.apply d = .error (.negative i) := by
  rcases commit_refused_cases h with ⟨d, _, hnamed⟩ | husable | hwrite | howner | ⟨hwrite, d, hd, f, hslot, hmove⟩
  · exact absurd hnamed (farmerNamed_ne_negative d.farmerId i)
  · unfold usableFarms poisonedError at husable
    split at husable <;> cases husable
  · simp only [checkWrite] at hwrite
    split at hwrite
    case h_4 => split at hwrite <;> cases hwrite
    all_goals cases hwrite
  · unfold checkOwner at howner
    split at howner
    · cases howner
    · split at howner <;> cases howner
  · exact ⟨checkWrite_eq_ok_iff.mp hwrite, d, hd, f, hslot, moveTotals_eq_negative hmove⟩

theorem Repairable.negative_owned (hs : s.Repairable) (hc : s.Turns c before after) {i : FarmerId}
    (h : (s.commit c).outcome = .error (.refused (.negativeAggregate i))) :
    Farm.OwnedBy i before ∧ s.drift? i ≠ some 0 := by
  obtain ⟨_, d, hd, f, hslot, happly⟩ := commit_negative h
  obtain ⟨hid, hi, hnegative⟩ := Farmer.apply_eq_negative happly
  obtain rfl : d.farmerId = i := hid.trans hi.symm
  obtain ⟨hord, _, hsum⟩ := hs.ordered_sum hc
  have hamount : d.amount = Farm.shareOf d.farmerId after - Farm.shareOf d.farmerId before := by
    rw [← hsum, TotalsDelta.sumFor_of_mem hord.nodup hd]
  have hafter := Farm.shareOf_nonneg d.farmerId hc.area
  rw [hamount] at hnegative
  simp only [Prod.fst_add, Prod.snd_add, Prod.fst_sub, Prod.snd_sub] at hnegative
  refine ⟨?_, ?_⟩
  · -- A farm that was not theirs can only add to what they hold.
    by_contra hother
    have harea : 0 ≤ f.standing.1 := hs.standings _ _ hslot
    have hcount : 0 ≤ f.standing.2 := f.farmCount.lo_le
    rw [Farm.shareOf_eq_zero hother] at hnegative
    simp only [Prod.fst_zero, Prod.snd_zero] at hnegative
    omega
  · -- Exact totals cover the farm that is taken off, since no other is worth less than nothing.
    intro hdrift
    have hexact : f.standing = s.holding d.farmerId := by
      rw [drift?_of_slot hslot] at hdrift
      exact sub_eq_zero.mp (Option.some.inj hdrift)
    have hrest := hs.without_nonneg c.write.farmId d.farmerId
    rw [hc.stored, ← hexact] at hrest
    simp only [Prod.fst_sub, Prod.snd_sub] at hrest
    omega

end Commit

theorem Repairable.reconcile (hs : s.Repairable) {i : FarmerId} (hi : i ∈ s.farmers) :
    (∃ f, (s.reconcileFarmer i).outcome = .ok f) ∧ (s.reconcileFarmer i).state.Repairable ∧
      ∀ j, (s.reconcileFarmer i).state.drift? j = if j = i then some 0 else s.drift? j := by
  obtain ⟨sums, hsums, hexact⟩ := Totals.ofFarms_eq_holding hs.farmsOf_nonneg (hs.inRange i)
  obtain ⟨⟨f, poisoned⟩, hslot⟩ := mem_iff_exists_getElem?.mp hi
  obtain rfl : poisoned = false := hs.slotUsable i _ hslot
  have hput : s.reconcileFarmer i = .ok (.reconciled i sums) (s.putFarmer (.reconciled i sums)) := by
    simp only [reconcileFarmer, farmerNamed_eq_ok_iff.mpr hslot, farmList_of_intact hs.toIntact, hsums]
  have hstanding : (Farmer.reconciled i sums).standing = s.holding i := hexact
  have hslots : ∀ j : FarmerId, (s.putFarmer (.reconciled i sums)).farmers[j]? =
      if i = j then some ⟨.reconciled i sums, false⟩ else s.farmers[j]? := fun j => putFarmer_getElem? _
  rw [hput]
  refine ⟨⟨_, rfl⟩, ⟨⟨hs.toIntact.putFarmer _, hs.areas, ?_⟩, ?_, hs.inRange⟩, ?_⟩
  · intro k g hk
    exact Std.ExtTreeMap.mem_insert.mpr (.inr (hs.owned k g hk))
  · intro j slot hj
    change (s.putFarmer (.reconciled i sums)).farmers[j]? = some slot at hj
    rw [hslots] at hj
    split at hj
    · have harea : sums.area.val = (s.holding i).1 := congrArg Prod.fst hexact
      rw [← Option.some.inj hj]
      exact harea ▸ (hs.inRange i).1.1
    · exact hs.standings j slot hj
  · intro j
    change (s.putFarmer (.reconciled i sums)).drift? j = _
    have hholding : (s.putFarmer (.reconciled i sums)).holding j = s.holding j := rfl
    rw [drift?, hslots, hholding]
    by_cases hij : i = j
    · subst hij
      rw [if_pos rfl, if_pos rfl, Option.map_some, hstanding, sub_self]
    · rw [if_neg hij, if_neg (Ne.symm hij)]
      rfl

end MemoryStore

end FarmRegistry
