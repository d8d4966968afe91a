import FarmRegistry.Proofs.Sql.Leads
import FarmRegistry.Proofs.Store.Demands

namespace FarmRegistry.Sql

open Session

structure Tables.Counted (t : Tables) : Prop where
  area : ∀ (i : FarmerId) (r : StoredFarmer), t.farmers[i]? = some r → 0 ≤ r.totalArea.val
  count : ∀ (i : FarmerId) (r : StoredFarmer), t.farmers[i]? = some r →
    0 ≤ r.farmCount.val ∧ r.farmCount.val ≤ 4294967295

inductive Stands (t : Tables) (c : Change) (done : Tables → Prop) : Except (Stop StoreError) Unit → Server → Prop where
  | done {u : Tables} (h : done u) : Stands t c done (.ok ()) ⟨t, .working u⟩
  | refused {e : StoreError} {phase : Phase} {d : Demand} (hphase : phase ≠ .idle) (hd : d.Violated t c)
      (he : e.wordless = d.refusal c) : Stands t c done (.error (.refused e)) ⟨t, phase⟩

variable {δ : Type} {db : Database δ} {view : δ → Server} {t u : Tables} {c : Change}

theorem Stands.bind {first second : Tables → Prop} {x : Session δ StoreError Unit}
    {f : Unit → Session δ StoreError Unit} (hx : Leads view x ⟨t, .working u⟩ (Stands t c first))
    (hf : ∀ v, first v → Leads view (f ()) ⟨t, .working v⟩ (Stands t c second)) :
    Leads view (x >>= f) ⟨t, .working u⟩ (Stands t c second) := by
  refine Leads.bind hx ?_ ?_
  · intro e after h
    cases h with
    | refused hphase hd he => exact .refused hphase hd he
  · intro _ mid h
    cases h with
    | done h => exact hf _ h

inductive Meets (t u : Tables) (c : Change) (met : Tables → Prop) (missed : Prop) :
    Except (Stop StoreError) Nat → Server → Prop where
  | met {v : Tables} (h : met v) : Meets t u c met missed (.ok 1) ⟨t, .working v⟩
  | missed (h : missed) : Meets t u c met missed (.ok 0) ⟨t, .working u⟩
  | refused {e : StoreError} {d : Demand} (hd : d.Violated t c) (he : e.wordless = d.refusal c) :
      Meets t u c met missed (.error (.refused e)) ⟨t, .aborted⟩

theorem Meets.bind {met done : Tables → Prop} {missed : Prop} {x : Session δ StoreError Nat}
    {f : Nat → Session δ StoreError Unit} (hx : Leads view x ⟨t, .working u⟩ (Meets t u c met missed))
    (hmet : ∀ v, met v → Leads view (f 1) ⟨t, .working v⟩ (Stands t c done))
    (hmissed : missed → Leads view (f 0) ⟨t, .working u⟩ (Stands t c done)) :
    Leads view (x >>= f) ⟨t, .working u⟩ (Stands t c done) := by
  refine Leads.bind hx ?_ ?_
  · intro e after h
    cases h with
    | refused hd he => exact .refused nofun hd he
  · intro n mid h
    cases h with
    | met h => exact hmet _ h
    | missed h => exact hmissed h

section Write

variable {P : Tables → Prop}

theorem confirmMatch_stands (hdb : Postgres db view) {v : Signed64} (hexpected : c.write.expected? = some v)
    (hmissed : t.version? c.write.farmId ≠ some v) :
    Leads view (adapt TransactionError.storeError (confirmMatch db c.write.farmId v 0)) ⟨t, .working t⟩
      (Stands t c P) := by
  have hprobe : Leads view
      (adapt TransactionError.storeError (queried (first db (·.truth? "exists") (.farmExists c.write.farmId))))
      ⟨t, .working t⟩ fun r after => r = .ok (t.farms.contains c.write.farmId) ∧ after = ⟨t, .working t⟩ := by
    refine .queried (.asksWithin hdb (asks_first db _ _) trivial ?_)
    intro a w hmeaning
    cases hmeaning
    exact ⟨rfl, rfl⟩
  rw [confirmMatch, if_pos rfl, adapt_bind]
  refine .bind_ok hprobe ?_
  cases hversion : t.version? c.write.farmId with
  | none =>
    have hfarm : t.farms.contains c.write.farmId = false := by
      rw [Std.ExtTreeMap.contains_eq_isSome_getElem?, Option.map_eq_none_iff.mp hversion]
      rfl
    rw [hfarm]
    exact .settled (.refused (d := .stored) nofun ⟨by simp [hexpected], hversion⟩ rfl)
  | some held =>
    obtain ⟨e, he, _⟩ := Option.map_eq_some_iff.mp hversion
    have hfarm : t.farms.contains c.write.farmId = true := by
      rw [Std.ExtTreeMap.contains_eq_isSome_getElem?, he]
      rfl
    have hstale : held ≠ v := by
      rintro rfl
      exact hmissed hversion
    rw [hfarm]
    exact .settled (.refused (d := .current) nofun ⟨v, held, hexpected, hversion, hstale⟩ rfl)

theorem versioned_stands (hdb : Postgres db view) {v : Signed64} (hexpected : c.write.expected? = some v)
    {x : Session δ TransactionError Nat} (hx : Leads view (adapt TransactionError.storeError x) ⟨t, .working t⟩
      (Meets t t c P (t.version? c.write.farmId ≠ some v))) :
    Leads view (adapt TransactionError.storeError (x >>= confirmMatch db c.write.farmId v)) ⟨t, .working t⟩
      (Stands t c P) := by
  rw [adapt_bind]
  exact Meets.bind hx (fun _ h => .settled (.done h)) (confirmMatch_stands hdb hexpected)

theorem write_stands (hdb : Postgres db view) (hc : c.Drawn) :
    Leads view (adapt TransactionError.storeError (write db c.write)) ⟨t, .working t⟩
      (Stands t c fun u => u = t.written c.write ∧ t.version? c.write.farmId = c.write.expected? ∧
        ∀ f, c.write.farm? = some f → f.farmerId ∈ t.farmers) := by
  have harea := hc.area
  obtain ⟨w, ds⟩ := c
  cases w with
  | insert f =>
    have hf : 0 ≤ f.area.val := harea f rfl
    refine .owned (.asksWithin hdb (asks_act db _) trivial ?_)
    intro a u hmeaning
    cases hmeaning with
    | inserts hfree hrules =>
      refine .done ⟨rfl, Tables.version?_eq_none hfree, ?_⟩
      rintro g hg
      cases hg
      exact Tables.owner_of_unbroken hf hrules
    | insertTaken m htaken => exact .refused (d := .vacant) nofun ⟨rfl, Tables.version?_ne_none htaken⟩ rfl
    | insertBreaks m hbroken =>
      obtain ⟨rfl, habsent⟩ := (Tables.breaks_ofFarm hf _).mp hbroken
      exact .refused (d := .registered f.farmerId) nofun ⟨habsent, .inl ⟨f, rfl, rfl⟩⟩ rfl
  | update f v =>
    have hf : 0 ≤ f.area.val := harea f rfl
    refine versioned_stands (c := ⟨.update f v, ds⟩) hdb rfl ?_
    refine .owned (.asksWithin hdb (asks_count db _) trivial ?_)
    intro a u hmeaning
    cases hmeaning with
    | updates hcurrent hrules =>
      refine .met ⟨rfl, hcurrent, ?_⟩
      rintro g hg
      cases hg
      exact Tables.owner_of_unbroken hf hrules
    | updateBreaks m hcurrent hbroken =>
      obtain ⟨rfl, habsent⟩ := (Tables.breaks_ofFarm hf _).mp hbroken
      exact .refused (d := .registered f.farmerId) ⟨habsent, .inl ⟨f, rfl, rfl⟩⟩ rfl
    | updateMisses hmissed => exact .missed hmissed
  | remove i v =>
    refine versioned_stands (c := ⟨.remove i v, ds⟩) hdb rfl ?_
    refine .queried (.asksWithin hdb (asks_count db _) trivial ?_)
    intro a u hmeaning
    cases hmeaning with
    | removes hcurrent =>
      refine .met ⟨rfl, hcurrent, ?_⟩
      rintro g hg
      cases hg
    | removeMisses hmissed => exact .missed hmissed

end Write

section Totals

theorem plus?_overflows (ht : t.Counted) {d : TotalsDelta} {r : StoredFarmer} (hr : t.farmers[d.farmerId]? = some r)
    (h : r.plus? d = none) : 9223372036854775807 < r.totalArea.val + d.area.val := by
  have harea := ht.area _ _ hr
  have hrange := ht.count _ _ hr
  have hlo := d.area.lo_le
  have hcountLo := d.farmCount.lo_le
  have hcountHi := d.farmCount.le_hi
  rcases StoredFarmer.plus?_eq_none h with h | h <;> omega

theorem plus?_breaks {d : TotalsDelta} {r q : StoredFarmer} {rule : FarmerRule} (hq : r.plus? d = some q)
    (h : q.breaks rule = true) : r.totalArea.val + d.area.val < 0 ∨ r.farmCount.val + d.farmCount.val < 0 := by
  obtain ⟨_, harea, hcount⟩ := StoredFarmer.plus?_eq_some_iff.mp hq
  rw [← harea, ← hcount]
  cases rule with
  | totalArea => exact .inl (of_decide_eq_true h)
  | farmCount => exact .inr (of_decide_eq_true h)

theorem adjust_stands (hdb : Postgres db view) (ht : t.Counted) {d : TotalsDelta} (hd : d ∈ c.deltas)
    (hsame : u.farmers[d.farmerId]? = t.farmers[d.farmerId]?) :
    Leads view (adapt TransactionError.storeError (adjust db d)) ⟨t, .working u⟩
      (Stands t c fun v => u.adjusted? d = some v ∧ t.Moves d) := by
  have hcount : Leads view (adapt TransactionError.storeError (owned d.farmerId (count db (.adjustFarmer d))))
      ⟨t, .working u⟩ (Meets t u c (fun v => u.adjusted? d = some v ∧ t.Moves d) (d.farmerId ∉ t.farmers)) := by
    refine .owned (.asksWithin hdb (asks_count db _) trivial ?_)
    intro a v hmeaning
    cases hmeaning with
    | @adjusts _ r q hr hq hrules =>
      exact .met ⟨Tables.adjusted?_of_plus? hr hq, r, q, hsame ▸ hr, hq, hrules⟩
    | @adjustOverflows _ r hr hq =>
      rw [hsame] at hr
      exact .refused (d := .inRange d.farmerId) ⟨d, hd, rfl, r, hr, plus?_overflows ht hr hq⟩ rfl
    | @adjustBreaks _ r q rule m hr hq hbroken =>
      rw [hsame] at hr
      refine .refused (d := .notNegative d.farmerId) ⟨d, hd, rfl, r, hr, plus?_breaks hq hbroken⟩ ?_
      cases rule <;> rfl
    | adjustMisses habsent =>
      refine .missed ?_
      rw [Std.ExtTreeMap.mem_iff_isSome_getElem?] at habsent ⊢
      rw [← hsame]
      exact habsent
  rw [adjust, adapt_bind]
  refine Meets.bind hcount (fun _ h => .settled (.done h)) ?_
  intro habsent
  exact .settled (.refused (d := .registered d.farmerId) nofun ⟨habsent, .inr ⟨d, hd, rfl⟩⟩ rfl)

theorem adjusted?_others {v : Tables} {d : TotalsDelta} (h : u.adjusted? d = some v) {i : FarmerId}
    (hi : i ≠ d.farmerId) : v.farmers[i]? = u.farmers[i]? := by
  obtain ⟨r, _, h⟩ := Option.bind_eq_some_iff.mp h
  obtain ⟨q, hq, h⟩ := Option.bind_eq_some_iff.mp h
  have hid := (StoredFarmer.plus?_eq_some_iff.mp hq).1
  obtain rfl := Option.some.inj h
  have hne : q.id ≠ i := fun hqi => hi (hqi.symm.trans hid)
  exact (insert_getElem? i).trans (if_neg hne)

theorem adjustments_stand (hdb : Postgres db view) (ht : t.Counted) {ds : List TotalsDelta} (hds : ∀ d ∈ ds, d ∈ c.deltas)
    (hnodup : (ds.map TotalsDelta.farmerId).Nodup)
    (hsame : ∀ d ∈ ds, u.farmers[d.farmerId]? = t.farmers[d.farmerId]?) :
    Leads view (adapt TransactionError.storeError (ds.forM (adjust db))) ⟨t, .working u⟩
      (Stands t c fun v => ds.foldlM Tables.adjusted? u = some v ∧ ∀ d ∈ ds, t.Moves d) := by
  induction ds generalizing u with
  | nil => exact .settled (.done ⟨rfl, List.forall_mem_nil _⟩)
  | cons d ds ih =>
    obtain ⟨hd, hrest⟩ := List.forall_mem_cons.mp hds
    obtain ⟨hdSame, hrestSame⟩ := List.forall_mem_cons.mp hsame
    rw [List.map_cons, List.nodup_cons] at hnodup
    change Leads _ (adapt _ (adjust db d >>= fun _ => ds.forM (adjust db))) _ _
    rw [adapt_bind]
    refine Stands.bind (adjust_stands hdb ht hd hdSame) ?_
    rintro v ⟨hv, hmoves⟩
    have hlater : ∀ e ∈ ds, v.farmers[e.farmerId]? = t.farmers[e.farmerId]? := by
      intro e he
      have hne : e.farmerId ≠ d.farmerId := by
        intro hed
        exact hnodup.1 (hed ▸ List.mem_map_of_mem he)
      rw [adjusted?_others hv hne, hrestSame e he]
    refine (ih hrest hnodup.2 hlater).imp ?_
    intro r after h
    cases h with
    | done h =>
      refine .done ⟨?_, List.forall_mem_cons.mpr ⟨hmoves, h.2⟩⟩
      rw [List.foldlM_cons, hv]
      exact h.1
    | refused hphase hk he => exact .refused hphase hk he

end Totals

inductive Settled (t : Tables) (c : Change) : Except (Stop StoreError) Unit → Server → Prop where
  | stored {u : Tables} (hmade : t.changed? c = some u) (hadmits : t.Admits c) : Settled t c (.ok ()) ⟨u, .idle⟩
  | refused {e : StoreError} {d : Demand} (hd : d.Violated t c) (he : e.wordless = d.refusal c) :
      Settled t c (.error (.refused e)) ⟨t, .idle⟩

theorem commit_settled (hdb : Postgres db view) (ht : t.Counted) (hc : c.Drawn) :
    Leads view (commit db c) ⟨t, .idle⟩ (Settled t c) := by
  have hwork : Leads view (adapt TransactionError.storeError do write db c.write; c.deltas.forM (adjust db))
      ⟨t, .working t⟩ (Stands t c fun u => t.changed? c = some u ∧ t.Admits c) := by
    rw [adapt_bind]
    refine Stands.bind (write_stands hdb hc) ?_
    rintro _ ⟨rfl, hcurrent, howned⟩
    have hfarmers : (t.written c.write).farmers = t.farmers := by
      cases c.write <;> rfl
    refine (adjustments_stand hdb ht (fun _ hd => hd) hc.nodup fun d _ => by rw [hfarmers]).imp ?_
    intro r after h
    cases h with
    | done h => exact .done ⟨h.1, hcurrent, howned, h.2⟩
    | refused hphase hk he => exact .refused hphase hk he
  have htransaction : Leads view
      (concluded (transaction db .query (do write db c.write; c.deltas.forM (adjust db)))) ⟨t, .idle⟩
      (Settled t c) := by
    refine .transaction hdb hwork ?_ ?_ ?_
    · intro _ after h
      cases h with
      | done h => exact ⟨_, rfl, .stored h.1 h.2⟩
    · intro e after h
      cases h with
      | refused hphase hk he => exact ⟨_, hphase, rfl, .refused hk he⟩
    · intro o after h
      cases h
  refine .bind htransaction (fun _ _ h => ?_) (fun _ _ h => ?_)
  · cases h with
    | refused hk he => exact .refused hk he
  · cases h with
    | stored hmade hadmits => exact .tell _ (.stored hmade hadmits)

end FarmRegistry.Sql
