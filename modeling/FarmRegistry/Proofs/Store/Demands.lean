import FarmRegistry.Proofs.Sql.Records
import FarmRegistry.Proofs.Store.Footprint

namespace FarmRegistry

def StoreError.wordless : StoreError → StoreError
  | .connection _ => .connection ""
  | .query _ => .query ""
  | .conflict _ => .conflict ""
  | e => e

inductive Change.Drawn (c : Change) : Prop where
  | insert {f : Farm} (hf : 0 ≤ f.area.val) (h : Change.insert f = .ok c)
  | update {f g : Farm} (hf : 0 ≤ f.area.val) (hg : 0 ≤ g.area.val) (h : Change.update f g = .ok c)
  | remove {f : Farm} (hf : 0 ≤ f.area.val) (h : Change.remove f = .ok c)

namespace Change.Drawn

variable {c : Change}

theorem nodup (h : c.Drawn) : (c.deltas.map TotalsDelta.farmerId).Nodup := by
  cases h with
  | insert hf h => exact (TotalsDelta.between_names (Change.insert_eq_ok_iff.mp h).2).1.nodup
  | update hf hg h => exact (TotalsDelta.between_names (Change.update_eq_ok_iff.mp h).2).1.nodup
  | remove hf h => exact (TotalsDelta.between_names (Change.remove_eq_ok_iff.mp h).2).1.nodup

theorem area (h : c.Drawn) : Farm.AreaNonneg c.write.farm? := by
  cases h with
  | insert hf h =>
    rw [(Change.insert_eq_ok_iff.mp h).1]
    exact Farm.areaNonneg_some hf
  | update hf hg h =>
    rw [(Change.update_eq_ok_iff.mp h).1]
    exact Farm.areaNonneg_some hg
  | remove hf h =>
    rw [(Change.remove_eq_ok_iff.mp h).1]
    exact Farm.areaNonneg_none

end Change.Drawn

/-- What the storing of a change can fail by. -/
inductive Demand where
  | vacant
  | stored
  | current
  | registered (farmerId : FarmerId)
  | notNegative (farmerId : FarmerId)
  | inRange (farmerId : FarmerId)
deriving DecidableEq

namespace Demand

def Violated (t : Sql.Tables) (c : Change) : Demand → Prop
  | .vacant => c.write.expected? = none ∧ t.version? c.write.farmId ≠ none
  | .stored => c.write.expected? ≠ none ∧ t.version? c.write.farmId = none
  | .current => ∃ v held, c.write.expected? = some v ∧ t.version? c.write.farmId = some held ∧ held ≠ v
  | .registered i =>
    i ∉ t.farmers ∧ ((∃ f, c.write.farm? = some f ∧ f.farmerId = i) ∨ ∃ d ∈ c.deltas, d.farmerId = i)
  | .notNegative i => ∃ d ∈ c.deltas, d.farmerId = i ∧
      ∃ r, t.farmers[i]? = some r ∧ (r.totalArea.val + d.area.val < 0 ∨ r.farmCount.val + d.farmCount.val < 0)
  | .inRange i => ∃ d ∈ c.deltas, d.farmerId = i ∧
      ∃ r, t.farmers[i]? = some r ∧ 9223372036854775807 < r.totalArea.val + d.area.val

def refusal (c : Change) : Demand → StoreError
  | .vacant => .conflict ""
  | .stored => .farmNotFound c.write.farmId
  | .current => .conflict ""
  | .registered i => .farmerNotFound i
  | .notNegative i => .negativeAggregate i
  | .inRange _ => .query ""

end Demand

namespace Sql.Tables

def written (t : Tables) : Write → Tables
  | .insert f => t.putFarm (.ofFarm f)
  | .update f _ => t.putFarm (.ofFarm f)
  | .remove i _ => t.dropFarm i

def adjusted? (t : Tables) (d : TotalsDelta) : Option Tables := do
  let r ← t.farmers[d.farmerId]?
  return t.putFarmer (← r.plus? d)

theorem adjusted?_of_plus? {t : Tables} {d : TotalsDelta} {r q : StoredFarmer} (hr : t.farmers[d.farmerId]? = some r)
    (hq : r.plus? d = some q) : t.adjusted? d = some (t.putFarmer q) := by
  rw [adjusted?, hr]
  change (r.plus? d).bind _ = _
  rw [hq]
  rfl

def changed? (t : Tables) (c : Change) : Option Tables :=
  c.deltas.foldlM adjusted? (t.written c.write)

def Moves (t : Tables) (d : TotalsDelta) : Prop :=
  ∃ r q, t.farmers[d.farmerId]? = some r ∧ r.plus? d = some q ∧ ∀ rule, q.breaks rule = false

structure Admits (t : Tables) (c : Change) : Prop where
  current : t.version? c.write.farmId = c.write.expected?
  owned : ∀ f, c.write.farm? = some f → f.farmerId ∈ t.farmers
  moves : ∀ d ∈ c.deltas, t.Moves d

end Sql.Tables

namespace Sql.StoredFarmer

variable {r q : StoredFarmer} {d : TotalsDelta}

theorem plus?_eq_some_iff :
    r.plus? d = some q ↔ q.id = d.farmerId ∧ q.totalArea.val = r.totalArea.val + d.area.val ∧
      q.farmCount.val = r.farmCount.val + d.farmCount.val := by
  obtain ⟨i, area, count⟩ := q
  simp only [plus?, Option.pure_def, Option.bind_eq_bind, Option.bind_eq_some_iff, Option.some.injEq,
    StoredFarmer.mk.injEq, Area.add?_eq_some_iff, Bounded.ofInt?_eq_some_iff]
  constructor
  · rintro ⟨a, ha, n, hn, rfl, rfl, rfl⟩
    exact ⟨rfl, ha, hn⟩
  · rintro ⟨rfl, ha, hn⟩
    exact ⟨area, ha, count, hn, rfl, rfl, rfl⟩

theorem plus?_eq_none (h : r.plus? d = none) :
    ¬(-9223372036854775808 ≤ r.totalArea.val + d.area.val ∧ r.totalArea.val + d.area.val ≤ 9223372036854775807) ∨
      ¬(-9223372036854775808 ≤ r.farmCount.val + d.farmCount.val ∧
        r.farmCount.val + d.farmCount.val ≤ 9223372036854775807) := by
  simp only [plus?] at h
  cases harea : r.totalArea.add? d.area with
  | none => exact .inl (Area.ofInt?_eq_none_iff.mp harea)
  | some a =>
    right
    apply Bounded.ofInt?_eq_none_iff.mp
    cases hcount : (Bounded.ofInt? (r.farmCount.val + d.farmCount.val) : Option Signed64) with
    | none => rfl
    | some n =>
      rw [harea, hcount] at h
      cases h

theorem plus?_ofFarmer {f g : Farmer} (h : f.apply d = .ok g) : (ofFarmer f).plus? d = some (ofFarmer g) := by
  obtain ⟨hid, hgid, hstand, _⟩ := Farmer.apply_eq_ok_iff.mp h
  apply plus?_eq_some_iff.mpr
  exact ⟨hgid.trans hid.symm, congrArg Prod.fst hstand, congrArg Prod.snd hstand⟩

end Sql.StoredFarmer

theorem Sql.Tables.Admits.meets {t : Tables} {c : Change} (h : t.Admits c) (d : Demand) : ¬d.Violated t c := by
  cases d with
  | vacant =>
    rintro ⟨hnone, hsome⟩
    exact hsome (h.current.trans hnone)
  | stored =>
    rintro ⟨hsome, hnone⟩
    exact hsome (h.current.symm.trans hnone)
  | current =>
    rintro ⟨v, held, hv, hheld, hne⟩
    have hversion := h.current
    rw [hheld, hv] at hversion
    exact hne (Option.some.inj hversion)
  | registered i =>
    rintro ⟨habsent, ⟨f, hf, rfl⟩ | ⟨d, hd, rfl⟩⟩
    · exact habsent (h.owned f hf)
    · obtain ⟨r, _, hr, _⟩ := h.moves d hd
      exact habsent (mem_iff_exists_getElem?.mpr ⟨r, hr⟩)
  | notNegative i =>
    rintro ⟨d, hd, rfl, r, hr, hneg⟩
    obtain ⟨_, q, hheld, hq, hrules⟩ := h.moves d hd
    obtain rfl := Option.some.inj (hr.symm.trans hheld)
    obtain ⟨_, harea, hcount⟩ := StoredFarmer.plus?_eq_some_iff.mp hq
    have hnonneg := StoredFarmer.breaks_eq_false_iff.mp hrules
    omega
  | inRange i =>
    rintro ⟨d, hd, rfl, r, hr, hlarge⟩
    obtain ⟨_, q, hheld, hq, _⟩ := h.moves d hd
    obtain rfl := Option.some.inj (hr.symm.trans hheld)
    obtain ⟨_, harea, _⟩ := StoredFarmer.plus?_eq_some_iff.mp hq
    have hhi := q.totalArea.le_hi
    omega

theorem Farmer.apply_eq_error {f : Farmer} {d : TotalsDelta} {e : TotalsError} (hid : d.farmerId = f.id)
    (harea : 0 ≤ f.totalArea.val) (hcount : f.farmCount.val + d.farmCount.val ≤ 4294967295)
    (h : f.apply d = .error e) :
    (e = .overflow f.id ∧ 9223372036854775807 < f.totalArea.val + d.area.val) ∨
      (e = .negative f.id ∧ (f.totalArea.val + d.area.val < 0 ∨ f.farmCount.val + d.farmCount.val < 0)) := by
  rcases apply_refused_of_nonneg harea hid h with ⟨he, hshort⟩ | ⟨he, hlarge | hmany⟩
  · exact .inr ⟨he, hshort⟩
  · exact .inl ⟨he, hlarge⟩
  · exact absurd hmany (Int.not_lt.mpr hcount)

namespace MemoryStore

variable {s : MemoryStore} {c : Change}

def tables (s : MemoryStore) : Sql.Tables :=
  ⟨s.farms.map fun _ f => .ofFarm f, s.farmers.map fun _ slot => .ofFarmer slot.farmer⟩

structure Solvent (s : MemoryStore) : Prop extends Sound s where
  standings : ∀ (i : FarmerId) (slot : FarmerSlot), s.farmers[i]? = some slot → 0 ≤ slot.farmer.totalArea.val

def CountsFit (s : MemoryStore) (c : Change) : Prop :=
  ∀ d ∈ c.deltas, ∀ slot, s.farmers[d.farmerId]? = some slot →
    slot.farmer.farmCount.val + d.farmCount.val ≤ 4294967295

section Tables

theorem tables_farms (s : MemoryStore) (i : FarmId) : s.tables.farms[i]? = s.farms[i]?.map .ofFarm :=
  Std.ExtTreeMap.getElem?_map

theorem tables_farmers (s : MemoryStore) (i : FarmerId) :
    s.tables.farmers[i]? = s.farmers[i]?.map fun slot => .ofFarmer slot.farmer :=
  Std.ExtTreeMap.getElem?_map

theorem tables_version? (s : MemoryStore) (i : FarmId) : s.tables.version? i = s.farms[i]?.map Farm.version := by
  rw [Sql.Tables.version?, tables_farms, Option.map_map]
  rfl

theorem mem_tables_farmers {i : FarmerId} : i ∈ s.tables.farmers ↔ i ∈ s.farmers :=
  Std.ExtTreeMap.mem_map

theorem tables_farmers_of_slot {i : FarmerId} {slot : FarmerSlot} (h : s.farmers[i]? = some slot) :
    s.tables.farmers[i]? = some (.ofFarmer slot.farmer) := by
  rw [tables_farmers, h]
  rfl

theorem exists_slot_of_tables {i : FarmerId} {r : Sql.StoredFarmer} (h : s.tables.farmers[i]? = some r) :
    ∃ slot, s.farmers[i]? = some slot ∧ r = .ofFarmer slot.farmer := by
  rw [tables_farmers] at h
  obtain ⟨slot, hslot, hr⟩ := Option.map_eq_some_iff.mp h
  exact ⟨slot, hslot, hr.symm⟩

theorem tables_putFarmer (s : MemoryStore) (g : Farmer) :
    (s.putFarmer g).tables = s.tables.putFarmer (.ofFarmer g) := by
  rw [tables, putFarmer, map_insert]
  rfl

theorem tables_writeFarm (s : MemoryStore) (w : Write) : (s.writeFarm w).tables = s.tables.written w := by
  cases w with
  | insert f =>
    rw [tables, writeFarm, map_insert]
    rfl
  | update f v =>
    rw [tables, writeFarm, map_insert]
    rfl
  | remove i v =>
    rw [tables, writeFarm, map_erase]
    rfl

end Tables

section Success

theorem adjusted?_tables {d : TotalsDelta} {f g : Farmer} {poisoned : Bool}
    (hslot : s.farmers[d.farmerId]? = some ⟨f, poisoned⟩) (h : f.apply d = .ok g) :
    s.tables.adjusted? d = some (s.putFarmer g).tables := by
  rw [tables_putFarmer]
  exact Sql.Tables.adjusted?_of_plus? (tables_farmers_of_slot hslot) (Sql.StoredFarmer.plus?_ofFarmer h)

theorem foldlM_adjusted? {u : MemoryStore} {ds : List TotalsDelta} {moved : List Farmer}
    (h : List.Forall₂ (fun d g => ∃ f, s.farmers[d.farmerId]? = some ⟨f, false⟩ ∧ f.apply d = .ok g) ds moved)
    (hnodup : (ds.map TotalsDelta.farmerId).Nodup)
    (hsame : ∀ d ∈ ds, u.farmers[d.farmerId]? = s.farmers[d.farmerId]?) :
    ds.foldlM Sql.Tables.adjusted? u.tables = some (moved.foldl putFarmer u).tables := by
  induction h generalizing u with
  | nil => rfl
  | @cons d g ds moved hhead hrest ih =>
    obtain ⟨f, hslot, happly⟩ := hhead
    obtain ⟨hid, hgid, _⟩ := Farmer.apply_eq_ok_iff.mp happly
    obtain ⟨hd, hothers⟩ := List.forall_mem_cons.mp hsame
    rw [List.map_cons, List.nodup_cons] at hnodup
    rw [List.foldlM_cons, adjusted?_tables (hd.trans hslot) happly]
    apply ih hnodup.2
    intro e he
    have hne : g.id ≠ e.farmerId := by
      intro hge
      apply hnodup.1
      rw [hid, ← hgid, hge]
      exact List.mem_map_of_mem he
    rw [putFarmer_getElem?, if_neg hne, hothers e he]

theorem commit_changed? (hc : c.Drawn) (hok : (s.commit c).outcome = .ok ()) :
    s.tables.changed? c = some (s.commit c).state.tables := by
  rcases commit_cases s c with ⟨moved, hprepare, _, hstate⟩ | ⟨e, _, herror, _⟩
  · obtain ⟨_, _, _, hmoved⟩ := prepare_eq_ok_iff.mp hprepare
    rw [hstate, Sql.Tables.changed?, ← tables_writeFarm]
    apply foldlM_adjusted? hmoved hc.nodup
    intro d _
    rw [writeFarm_farmers]
  · rw [herror] at hok
    cases hok

theorem commit_admits (hok : (s.commit c).outcome = .ok ()) : s.tables.Admits c := by
  rcases commit_cases s c with ⟨moved, hprepare, _, _⟩ | ⟨e, _, herror, _⟩
  · obtain ⟨_, hcurrent, howned, hmoved⟩ := prepare_eq_ok_iff.mp hprepare
    refine ⟨(s.tables_version? _).trans hcurrent, ?_, ?_⟩
    · intro f hf
      exact mem_tables_farmers.mpr (howned f hf)
    · intro d hd
      obtain ⟨g, _, f, hslot, happly⟩ := forall₂_mem_left hmoved hd
      obtain ⟨_, _, _, hfits⟩ := Farmer.apply_eq_ok_iff.mp happly
      refine ⟨_, _, tables_farmers_of_slot hslot, Sql.StoredFarmer.plus?_ofFarmer happly, ?_⟩
      exact Sql.StoredFarmer.breaks_eq_false_iff.mpr ⟨hfits.1.1, hfits.2.1⟩
  · rw [herror] at hok
    cases hok

theorem Solvent.commit (hs : s.Solvent) (hc : c.Drawn) (hok : (s.commit c).outcome = .ok ()) :
    (s.commit c).state.Solvent := by
  have hadmits := (commit_eq_ok_iff hs.toIntact).mp hok
  have hfollows := commit_follows hc.nodup hok
  refine ⟨hs.of_follows (hs.toIntact.commit c) hfollows hadmits hc.nodup hc.area, ?_⟩
  intro i moved hmoved
  by_cases hnamed : ∃ d ∈ c.deltas, d.farmerId = i
  · obtain ⟨d, hd, rfl⟩ := hnamed
    obtain ⟨slot, hslot⟩ := mem_iff_exists_getElem?.mp (hadmits.registered d hd)
    obtain ⟨g, hg, _, hstand⟩ := hfollows.moved d hd slot hslot
    obtain rfl := Option.some.inj (hmoved.symm.trans hg)
    have hfits := hadmits.inRange d hd slot hslot
    rw [← hstand] at hfits
    exact hfits.1.1
  · have hother : ∀ d ∈ c.deltas, d.farmerId ≠ i := fun d hd hdi => hnamed ⟨d, hd, hdi⟩
    rw [hfollows.others i hother] at hmoved
    exact hs.standings i moved hmoved

end Success

section Upkeep

variable {i : FarmerId}

theorem Intact.exists_registered (hs : s.Intact) (i : FarmerId) :
    ∃ slot, (s.registerFarmer i).state.farmers[i]? = some slot ∧ (s.registerFarmer i).outcome = .ok slot.farmer := by
  unfold registerFarmer
  cases hi : s.farmers[i]? with
  | none => exact ⟨_, (putFarmer_getElem? _).trans (if_pos rfl), rfl⟩
  | some slot =>
    refine ⟨slot, hi, ?_⟩
    simp only [usable, hs.slotUsable i slot hi, Bool.false_eq_true, if_false]
    rfl

theorem Solvent.empty : MemoryStore.empty.Solvent := by
  refine ⟨Sound.empty, ?_⟩
  intro i slot h
  cases h

theorem Solvent.putFarmer (hs : s.Solvent) {g : Farmer} (hg : 0 ≤ g.totalArea.val) : (s.putFarmer g).Solvent := by
  refine ⟨⟨hs.toIntact.putFarmer g, hs.areas, ?_⟩, ?_⟩
  · intro k f hk
    exact Std.ExtTreeMap.mem_insert.mpr (.inr (hs.owned k f hk))
  · intro j slot hj
    rw [putFarmer_getElem?] at hj
    split at hj
    · rw [← Option.some.inj hj]
      exact hg
    · exact hs.standings j slot hj

theorem Solvent.registerFarmer (hs : s.Solvent) (i : FarmerId) : (s.registerFarmer i).state.Solvent := by
  unfold MemoryStore.registerFarmer
  cases s.farmers[i]? with
  | some slot => exact hs
  | none => exact hs.putFarmer (Int.le_refl 0)

theorem Intact.reconcileFarmer_ok (hs : s.Intact) (hi : i ∈ s.farmers) {sums : Totals}
    (hsums : Totals.ofFarms i (farmsOf s.farms) = .ok sums) :
    s.reconcileFarmer i = .ok (.reconciled i sums) (s.putFarmer (.reconciled i sums)) := by
  obtain ⟨⟨f, poisoned⟩, hslot⟩ := mem_iff_exists_getElem?.mp hi
  obtain rfl : poisoned = false := hs.slotUsable i _ hslot
  simp only [reconcileFarmer, farmerNamed_eq_ok_iff.mpr hslot, farmList_of_intact hs, hsums]

theorem Intact.reconcileFarmer_overflow (hs : s.Intact) (hi : i ∈ s.farmers) {o : Overflow}
    (hsums : Totals.ofFarms i (farmsOf s.farms) = .error o) :
    (s.reconcileFarmer i).outcome = .error (.overflow o) := by
  obtain ⟨⟨f, poisoned⟩, hslot⟩ := mem_iff_exists_getElem?.mp hi
  obtain rfl : poisoned = false := hs.slotUsable i _ hslot
  simp only [reconcileFarmer, farmerNamed_eq_ok_iff.mpr hslot, farmList_of_intact hs, hsums]

theorem Solvent.reconcileFarmer (hs : s.Solvent) (h : ∀ o, (s.reconcileFarmer i).outcome ≠ .error (.overflow o)) :
    (s.reconcileFarmer i).state.Solvent := by
  rcases reconcileFarmer_cases s i with ⟨sums, _, hsums, hput⟩ | ⟨e, hrefused⟩ | ⟨farmer, o, _, hover⟩
  · rw [hput]
    exact hs.putFarmer (Totals.ofFarms_nonneg hs.farmsOf_nonneg hsums)
  · rw [hrefused]
    exact hs
  · exact absurd (congrArg Reply.outcome hover) (h o)

end Upkeep

section Refusal

variable {e : StoreError}

theorem Intact.farmerNamed_eq_error (hs : s.Intact) {i : FarmerId} (h : s.farmerNamed i = .error e) :
    i ∉ s.farmers ∧ e = .farmerNotFound i := by
  unfold farmerNamed at h
  cases hi : s.farmers[i]? with
  | none =>
    rw [hi] at h
    cases h
    refine ⟨?_, rfl⟩
    intro hmem
    obtain ⟨slot, hslot⟩ := mem_iff_exists_getElem?.mp hmem
    rw [hi] at hslot
    cases hslot
  | some slot =>
    rw [hi] at h
    simp only [usable, hs.slotUsable i slot hi, Bool.false_eq_true, if_false] at h
    cases h

theorem checkWrite_violates (h : checkWrite s.farms c.write = .error e) :
    ∃ d : Demand, d.Violated s.tables c ∧ e.wordless = d.refusal c := by
  have hversion := s.tables_version? c.write.farmId
  simp only [checkWrite] at h
  split at h
  case h_1 => cases h
  case h_2 f hf hexpected =>
    cases h
    exact ⟨.vacant, ⟨hexpected, by simp [hversion, hf]⟩, rfl⟩
  case h_3 v hf hexpected =>
    cases h
    exact ⟨.stored, ⟨by simp [hexpected], by simp [hversion, hf]⟩, rfl⟩
  case h_4 f v hf hexpected =>
    split at h
    case isTrue => cases h
    case isFalse hne =>
      cases h
      exact ⟨.current, ⟨v, f.version, hexpected, by simp [hversion, hf], hne⟩, rfl⟩

theorem checkOwner_violates (h : s.checkOwner c.write = .error e) :
    ∃ d : Demand, d.Violated s.tables c ∧ e.wordless = d.refusal c := by
  unfold checkOwner at h
  split at h
  case h_1 => cases h
  case h_2 f hf =>
    split at h
    case isTrue => cases h
    case isFalse habsent =>
      cases h
      exact ⟨.registered f.farmerId, ⟨mt mem_tables_farmers.mp habsent, .inl ⟨f, hf, rfl⟩⟩, rfl⟩

theorem Solvent.moveTotals_violates (hs : s.Solvent) (hfit : s.CountsFit c) {d : TotalsDelta} (hd : d ∈ c.deltas)
    {f : Farmer} (hslot : s.farmers[d.farmerId]? = some ⟨f, false⟩) (h : moveTotals f d = .error e) :
    ∃ d : Demand, d.Violated s.tables c ∧ e.wordless = d.refusal c := by
  have hid : f.id = d.farmerId := hs.slotId _ _ hslot
  have hrow := tables_farmers_of_slot hslot
  obtain ⟨cause, happly, rfl⟩ := mapError_eq_error_iff.mp h
  rcases Farmer.apply_eq_error hid.symm (hs.standings _ _ hslot) (hfit d hd _ hslot) happly with
    ⟨rfl, hlarge⟩ | ⟨rfl, hneg⟩
  · exact ⟨.inRange d.farmerId, ⟨d, hd, rfl, _, hrow, hlarge⟩, rfl⟩
  · refine ⟨.notNegative d.farmerId, ⟨d, hd, rfl, _, hrow, hneg⟩, ?_⟩
    rw [hid]
    rfl

theorem Solvent.commit_violates (hs : s.Solvent) (hfit : s.CountsFit c)
    (h : (s.commit c).outcome = .error (.refused e)) :
    ∃ d : Demand, d.Violated s.tables c ∧ e.wordless = d.refusal c := by
  rcases commit_refused_cases h with ⟨d, hd, hnamed⟩ | husable | hwrite | howner | ⟨_, d, hd, f, hslot, hmove⟩
  · obtain ⟨habsent, rfl⟩ := hs.toIntact.farmerNamed_eq_error hnamed
    exact ⟨.registered d.farmerId, ⟨mt mem_tables_farmers.mp habsent, .inr ⟨d, hd, rfl⟩⟩, rfl⟩
  · rw [usableFarms_of_intact hs.toIntact] at husable
    cases husable
  · exact checkWrite_violates hwrite
  · exact checkOwner_violates howner
  · exact hs.moveTotals_violates hfit hd hslot hmove

end Refusal

end MemoryStore

end FarmRegistry
