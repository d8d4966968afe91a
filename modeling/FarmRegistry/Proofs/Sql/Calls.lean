import FarmRegistry.Proofs.Sql.Leads
import FarmRegistry.Proofs.Store.Demands
import FarmRegistry.Proofs.Store.Footprint

namespace FarmRegistry.Sql

open Session

section Reading

variable {α β : Type} {read : Row → Option β} {row : α → Row} {f : α → β}

theorem Answer.first?_rows (h : ∀ a, read (row a) = some (f a)) (o : Option α) :
    (Answer.rows (o.map row).toList).first? read = .ok (o.map f) := by
  cases o with
  | none => rfl
  | some a => simp [first?, toRows, h]

theorem Answer.all_rows (h : ∀ a, read (row a) = some (f a)) (l : List α) :
    (Answer.rows (l.map row)).all read = .ok (l.map f) := by
  apply mapM_eq_ok_iff.mpr
  apply List.forall₂_map_left_iff.mpr
  apply List.forall₂_map_right_iff.mpr
  apply List.forall₂_same.mpr
  intro a _
  rw [Row.decoded, h]

end Reading

variable {δ : Type} {db : Database δ} {view : δ → Server} {s : MemoryStore} {t : Tables}

theorem first?_leads {α β : Type} {read : Row → Option β} {row : α → Row} {f : α → β} {o : Option α}
    (hdb : Postgres db view) (q : Statement) (hq : q.IsQuery) (hread : ∀ a, read (row a) = some (f a))
    (hmeaning : ∀ a u, Executes t q a u → a = .rows (o.map row).toList ∧ u = t) :
    Leads view (plain (first? db read q)) ⟨t, .idle⟩ fun r after => r = .ok (o.map f) ∧ after = ⟨t, .idle⟩ := by
  refine .explained _ (.asks hdb (asks_first? db read q) hq ?_)
  intro a u ha
  obtain ⟨rfl, rfl⟩ := hmeaning a u ha
  refine ⟨?_, rfl⟩
  change ((Answer.rows _).first? read).mapError _ = _
  rw [Answer.first?_rows hread]
  rfl

theorem findFarm_leads (hdb : Postgres db view) (i : FarmId) :
    Leads view (findFarm db i) ⟨s.tables, .idle⟩ fun r after => r = .ok s.farms[i]? ∧ after = ⟨s.tables, .idle⟩ := by
  have hrow : Leads view (plain (first? db StoredFarm.ofRow? (.findFarm i))) ⟨s.tables, .idle⟩ fun r after =>
      r = .ok (s.tables.farms[i]?.map (·.toStoredFarm)) ∧ after = ⟨s.tables, .idle⟩ := by
    refine first?_leads hdb _ trivial (fun e => e.toStoredFarm.ofRow?_row) ?_
    intro a u ha
    cases ha
    exact ⟨rfl, rfl⟩
  refine .bind_ok hrow (.settled ⟨?_, rfl⟩)
  rw [MemoryStore.tables_farms]
  cases s.farms[i]? with
  | none => rfl
  | some f =>
    change (some <$> (StoredFarm.ofFarm f).toFarm).mapError Stop.refused = _
    rw [StoredFarm.toFarm_ofFarm]
    rfl

theorem findFarmer_leads (hdb : Postgres db view) (hs : s.Solvent) (i : FarmerId) :
    Leads view (findFarmer db i) ⟨s.tables, .idle⟩ fun r after =>
      r = .ok (s.farmers[i]?.map FarmerSlot.farmer) ∧ after = ⟨s.tables, .idle⟩ := by
  have hrow : Leads view (plain (first? db StoredFarmer.ofRow? (.findFarmer i))) ⟨s.tables, .idle⟩ fun r after =>
      r = .ok (s.tables.farmers[i]?.map id) ∧ after = ⟨s.tables, .idle⟩ := by
    refine first?_leads hdb _ trivial StoredFarmer.ofRow?_row ?_
    intro a u ha
    cases ha
    exact ⟨rfl, rfl⟩
  refine .bind_ok hrow (.settled ⟨?_, rfl⟩)
  rw [MemoryStore.tables_farmers]
  cases hslot : s.farmers[i]? with
  | none => rfl
  | some slot =>
    change (some <$> (StoredFarmer.ofFarmer slot.farmer).toFarmer).mapError Stop.refused = _
    rw [StoredFarmer.toFarmer_ofFarmer (hs.standings i slot hslot)]
    rfl

theorem registerFarmer_leads (hdb : Postgres db view) (hs : s.Solvent) (i : FarmerId) :
    Leads view (registerFarmer db i) ⟨s.tables, .idle⟩ fun r after =>
      r = (s.registerFarmer i).outcome ∧ after = ⟨(s.registerFarmer i).state.tables, .idle⟩ := by
  have hcount : Leads view (plain (count db (.registerFarmer i))) ⟨s.tables, .idle⟩ fun r after =>
      (∃ n, r = .ok n) ∧ after = ⟨(s.registerFarmer i).state.tables, .idle⟩ := by
    refine .explained _ (.asks hdb (asks_count db _) trivial ?_)
    intro a u hmeaning
    cases hmeaning with
    | registers h =>
      have hslot : s.farmers[i]? = none := Std.ExtTreeMap.getElem?_eq_none (mt MemoryStore.mem_tables_farmers.mpr h)
      refine ⟨⟨1, rfl⟩, ?_⟩
      simp only [MemoryStore.registerFarmer, hslot, Reply.ok, MemoryStore.tables_putFarmer]
      rfl
    | knows h =>
      obtain ⟨slot, hslot⟩ := mem_iff_exists_getElem?.mp (MemoryStore.mem_tables_farmers.mp h)
      refine ⟨⟨0, rfl⟩, ?_⟩
      simp only [MemoryStore.registerFarmer, hslot, Reply.ofExcept]
  obtain ⟨slot, hslot, houtcome⟩ := hs.toIntact.exists_registered i
  have hstanding := (hs.registerFarmer i).standings i slot hslot
  have hfind : Leads view (plain (first db StoredFarmer.ofRow? (.findFarmer i)))
      ⟨(s.registerFarmer i).state.tables, .idle⟩ fun r after =>
      r = .ok (.ofFarmer slot.farmer) ∧ after = ⟨(s.registerFarmer i).state.tables, .idle⟩ := by
    refine .explained _ (.asks hdb (asks_first db _ _) trivial ?_)
    intro a u hmeaning
    cases hmeaning
    rw [MemoryStore.tables_farmers_of_slot hslot]
    exact ⟨rfl, rfl⟩
  have hread : Leads view (do ofExcept (← plain (first db StoredFarmer.ofRow? (.findFarmer i))).toFarmer)
      ⟨(s.registerFarmer i).state.tables, .idle⟩ fun r after =>
      r = (s.registerFarmer i).outcome ∧ after = ⟨(s.registerFarmer i).state.tables, .idle⟩ := by
    refine .bind_ok hfind (.settled ⟨?_, rfl⟩)
    rw [StoredFarmer.toFarmer_ofFarmer hstanding, houtcome]
    rfl
  refine .bind hcount ?_ ?_
  · rintro e after ⟨⟨n, hn⟩, _⟩
    cases hn
  · rintro n _ ⟨_, rfl⟩
    by_cases hn : 0 < n
    · rw [if_pos hn]
      exact .bind_ok (.tell _ ⟨rfl, rfl⟩) hread
    · rw [if_neg hn]
      exact hread

theorem entries_tables (s : MemoryStore) :
    s.tables.entries = (MemoryStore.farmsOf s.farms).map FarmWriting.ofFarm := by
  rw [Tables.entries, MemoryStore.tables, Std.ExtTreeMap.toList_map, MemoryStore.farmsOf, List.map_map, List.map_map]
  rfl

theorem listActiveFarms_leads (hdb : Postgres db view) (bounds : Option BoundingBox) :
    Leads view (listActiveFarms db bounds) ⟨s.tables, .idle⟩ fun r after =>
      r = .ok ((MemoryStore.farmsOf s.farms).filter fun f => f.isActive && bounds.all f.boundingBox.intersects) ∧
        after = ⟨s.tables, .idle⟩ := by
  let listed := (MemoryStore.farmsOf s.farms).filter fun f => f.isActive && bounds.all f.boundingBox.intersects
  have hlisted : s.tables.entries.filter (FarmWriting.isListed bounds) = listed.map FarmWriting.ofFarm := by
    rw [entries_tables, List.filter_map]
    congr 1
    apply List.filter_congr
    intro f _
    exact FarmWriting.isListed_ofFarm bounds f
  have hrows : Leads view (plain (all db StoredFarm.ofRow? (.listActiveFarms bounds))) ⟨s.tables, .idle⟩
      fun r after => r = .ok (listed.map StoredFarm.ofFarm) ∧ after = ⟨s.tables, .idle⟩ := by
    refine .explained _ (.asks hdb (asks_all db _ _) trivial ?_)
    intro a u hmeaning
    cases hmeaning
    refine ⟨?_, rfl⟩
    change ((Answer.rows _).all _).mapError _ = _
    rw [Answer.all_rows (fun e => e.toStoredFarm.ofRow?_row), hlisted, List.map_map]
    rfl
  refine .bind_ok hrows (.settled ⟨?_, rfl⟩)
  rw [mapM_toFarm_ofFarm]
  rfl

inductive Resums (s : MemoryStore) (i : FarmerId) : Except (Stop StoreError) Totals → Server → Prop where
  | stored {sums : Totals} (hi : i ∈ s.farmers) (hsums : Totals.ofFarms i (MemoryStore.farmsOf s.farms) = .ok sums) :
      Resums s i (.ok sums) ⟨s.tables, .working (s.tables.putFarmer (.ofTotals i sums))⟩
  | absent (hi : s.farmers[i]? = none) :
      Resums s i (.error (.refused (.farmerNotFound i))) ⟨s.tables, .working s.tables⟩
  | overflowed {o : Overflow} (hi : i ∈ s.farmers)
      (hsums : Totals.ofFarms i (MemoryStore.farmsOf s.farms) = .error o) :
      Resums s i (.error (.overflow o)) ⟨s.tables, .working s.tables⟩

theorem farmerFarms_leads (hdb : Postgres db view) (hs : s.Sound) (i : FarmerId) :
    Leads view (adapt TransactionError.storeError (queried (all db StoredFarm.ofRow? (.farmerFarms i))))
      ⟨s.tables, .working s.tables⟩ fun r after =>
        (∃ farms : List Farm, r = .ok (farms.map StoredFarm.ofFarm) ∧
          Totals.ofFarms i farms = Totals.ofFarms i (MemoryStore.farmsOf s.farms)) ∧
        after = ⟨s.tables, .working s.tables⟩ := by
  have hheld : s.tables.entries.filter (FarmWriting.isHeldBy i) =
      ((MemoryStore.farmsOf s.farms).filter (Farm.isHeldBy i)).map FarmWriting.ofFarm := by
    rw [entries_tables, List.filter_map]
    congr 1
    apply List.filter_congr
    intro f _
    exact FarmWriting.isHeldBy_ofFarm i f
  refine .queried (.asksWithin hdb (asks_all db _ _) trivial ?_)
  intro a u hmeaning
  cases hmeaning with
  | @gathers _ held h =>
    rw [hheld] at h
    obtain ⟨farms, rfl, hperm⟩ := exists_map_of_perm h
    refine ⟨⟨farms, ?_, ?_⟩, rfl⟩
    · change ((Answer.rows _).all _).mapError _ = _
      rw [Answer.all_rows (fun e => e.toStoredFarm.ofRow?_row), List.map_map]
      rfl
    · apply Totals.ofFarms_perm
      · intro f hf
        exact hs.farmsOf_nonneg f (List.mem_of_mem_filter (hperm.mem_iff.mp hf))
      · simpa only [List.filter_filter, Bool.and_self] using hperm.filter (Farm.isHeldBy i)

theorem setFarmer_leads (hdb : Postgres db view) {i : FarmerId} (hi : i ∈ t.farmers) {sums : Totals}
    (hsums : 0 ≤ sums.area.val) {u : Tables} :
    Leads view (adapt TransactionError.storeError (queried (act db (.setFarmer i sums)))) ⟨u, .working t⟩
      fun r after => r = .ok () ∧ after = ⟨u, .working (t.putFarmer (.ofTotals i sums))⟩ := by
  refine .queried (.asksWithin hdb (asks_act db _) trivial ?_)
  intro a u hmeaning
  cases hmeaning with
  | sets => exact ⟨rfl, rfl⟩
  | setBreaks m _ hbroken =>
    rw [StoredFarmer.breaks_eq_false_iff.mpr ⟨hsums, sums.farmCount.lo_le⟩] at hbroken
    cases hbroken
  | setMisses habsent => exact absurd hi habsent

theorem storeTotals_leads (hdb : Postgres db view) (hs : s.Solvent) (i : FarmerId) :
    Leads view (adapt TransactionError.storeError (storeTotals db i)) ⟨s.tables, .working s.tables⟩ (Resums s i) := by
  have hlock : Leads view (adapt TransactionError.storeError (queried (first? db (·.uuid? "id") (.lockFarmer i))))
      ⟨s.tables, .working s.tables⟩ fun r after =>
        r = .ok (s.tables.farmers[i]?.map fun r => r.id.uuid) ∧ after = ⟨s.tables, .working s.tables⟩ := by
    refine .queried (.asksWithin hdb (asks_first? db _ _) trivial ?_)
    intro a u hmeaning
    cases hmeaning
    refine ⟨?_, rfl⟩
    change ((Answer.rows _).first? _).mapError _ = _
    rw [Answer.first?_rows (f := fun r : StoredFarmer => r.id.uuid) fun r => rfl]
    rfl
  rw [storeTotals, adapt_bind]
  refine .bind_ok hlock ?_
  cases hslot : s.farmers[i]? with
  | none =>
    rw [MemoryStore.tables_farmers, hslot]
    exact .settled (.absent hslot)
  | some slot =>
    have hi : i ∈ s.farmers := mem_iff_exists_getElem?.mpr ⟨slot, hslot⟩
    rw [MemoryStore.tables_farmers, hslot]
    change Leads _ (adapt _ (queried _ >>= _)) _ _
    rw [adapt_bind]
    refine .bind (farmerFarms_leads hdb hs.toSound i) (fun _ _ h => ?_) ?_
    · obtain ⟨⟨farms, h, _⟩, _⟩ := h
      cases h
    · rintro records _ ⟨⟨farms, hrecords, hsame⟩, rfl⟩
      cases hrecords
      rw [mapM_toFarm_ofFarm, adapt_bind, adapt_store]
      refine .bind_ok (.settled ⟨rfl, rfl⟩) ?_
      rw [hsame, adapt_bind]
      cases hsums : Totals.ofFarms i (MemoryStore.farmsOf s.farms) with
      | error o =>
        refine .settled_bind ?_ ?_
        · rintro _ hover
          cases hover
          exact .overflowed hi hsums
        · intro _ hok
          cases hok
      | ok sums =>
        have hmem : i ∈ s.tables.farmers := MemoryStore.mem_tables_farmers.mpr hi
        have hset := setFarmer_leads (u := s.tables) hdb hmem (Totals.ofFarms_nonneg hs.farmsOf_nonneg hsums)
        refine .bind_ok (.settled ⟨rfl, rfl⟩) ?_
        rw [adapt_bind]
        exact .bind_ok hset (.settled (.stored hi hsums))

theorem reconcileFarmer_leads (hdb : Postgres db view) (hs : s.Solvent) (i : FarmerId) :
    Leads view (reconcileFarmer db i) ⟨s.tables, .idle⟩ fun r after => r = (s.reconcileFarmer i).outcome ∧
      ((∀ o, r ≠ .error (.overflow o)) → after = ⟨(s.reconcileFarmer i).state.tables, .idle⟩) := by
  have htransaction : Leads view (concluded (transaction db .query (storeTotals db i))) ⟨s.tables, .idle⟩ fun r after =>
      (∃ sums, i ∈ s.farmers ∧ Totals.ofFarms i (MemoryStore.farmsOf s.farms) = .ok sums ∧ r = .ok sums ∧
        after = ⟨s.tables.putFarmer (.ofTotals i sums), .idle⟩) ∨
      (s.farmers[i]? = none ∧ r = .error (.refused (.farmerNotFound i)) ∧ after = ⟨s.tables, .idle⟩) ∨
      ∃ o, i ∈ s.farmers ∧ Totals.ofFarms i (MemoryStore.farmsOf s.farms) = .error o ∧ r = .error (.overflow o) := by
    refine .transaction hdb (storeTotals_leads hdb hs i) ?_ ?_ ?_
    · intro _ after h
      cases h with
      | stored hi hsums => exact ⟨_, rfl, .inl ⟨_, hi, hsums, rfl, rfl⟩⟩
    · intro e after h
      cases h with
      | absent hi => exact ⟨.working s.tables, nofun, rfl, .inr (.inl ⟨hi, rfl, rfl⟩)⟩
    · intro o after h
      cases h with
      | overflowed hi hsums => exact .inr (.inr ⟨o, hi, hsums, rfl⟩)
  refine .bind htransaction ?_ ?_
  · rintro e after (⟨_, _, _, he, _⟩ | ⟨hi, he, rfl⟩ | ⟨o, hi, hsums, he⟩)
    · cases he
    · cases he
      rw [MemoryStore.Balanced.reconcile_absent hi]
      exact ⟨rfl, fun _ => rfl⟩
    · cases he
      refine ⟨(hs.toIntact.reconcileFarmer_overflow hi hsums).symm, ?_⟩
      intro h
      exact absurd rfl (h o)
  · rintro sums _ (⟨_, hi, hsums, h, rfl⟩ | ⟨_, h, _⟩ | ⟨_, _, _, h⟩)
    · cases h
      rw [hs.toIntact.reconcileFarmer_ok hi hsums]
      refine .bind_ok (.tell _ ⟨rfl, rfl⟩) (.settled ⟨rfl, ?_⟩)
      intro _
      change _ = (⟨(s.putFarmer (.reconciled i sums)).tables, .idle⟩ : Server)
      rw [MemoryStore.tables_putFarmer]
      rfl
    · cases h
    · cases h

theorem rebuildIndex_leads (hdb : Postgres db view) :
    Leads view (rebuildIndex db) ⟨t, .idle⟩ fun r after => r = .ok () ∧ after = ⟨t, .idle⟩ := by
  have hact : ∀ q : Statement, q.IsQuery → (∀ a u, Executes t q a u → a = .nothing ∧ u = t) →
      Leads view (plain (act db q)) ⟨t, .idle⟩ fun r after => r = .ok () ∧ after = ⟨t, .idle⟩ := by
    intro q hq hmeaning
    refine .explained _ (.asks hdb (asks_act db q) hq ?_)
    intro a u ha
    obtain ⟨rfl, rfl⟩ := hmeaning a u ha
    exact ⟨rfl, rfl⟩
  have hreindex := hact .reindex trivial fun a u ha => by cases ha; exact ⟨rfl, rfl⟩
  have hanalyze := hact .analyze trivial fun a u ha => by cases ha; exact ⟨rfl, rfl⟩
  exact .bind_ok hreindex (.bind_ok hanalyze (.tell _ ⟨rfl, rfl⟩))

end FarmRegistry.Sql
