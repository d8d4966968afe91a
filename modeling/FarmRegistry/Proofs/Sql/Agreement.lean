import FarmRegistry.Proofs.Sql.Calls
import FarmRegistry.Proofs.Sql.Commits

namespace FarmRegistry.Sql

open Session

/-- A store in memory and a server that hold the same farms and the same farmers. -/
structure Corresponds (s : MemoryStore) (server : Server) : Prop extends MemoryStore.Solvent s where
  same : server = ⟨s.tables, .idle⟩

variable {δ : Type} {db : Database δ} {view : δ → Server} {s : MemoryStore} {d : δ}

theorem counted_tables (hs : s.Solvent) : s.tables.Counted := by
  refine ⟨?_, ?_⟩
  · intro i r hr
    obtain ⟨slot, hslot, rfl⟩ := MemoryStore.exists_slot_of_tables hr
    exact hs.standings i slot hslot
  · intro i r hr
    obtain ⟨slot, _, rfl⟩ := MemoryStore.exists_slot_of_tables hr
    exact ⟨slot.farmer.farmCount.lo_le, slot.farmer.farmCount.le_hi⟩

section Commit

variable {c : Change}

theorem store_commit_cases (hdb : Postgres db view) (h : Corresponds s (view d)) (hc : c.Drawn) :
    (∃ u, (store db (.commit c) d).outcome = .ok () ∧ view (store db (.commit c) d).state = ⟨u, .idle⟩ ∧
      s.tables.changed? c = some u ∧ s.tables.Admits c) ∨
    ∃ e k, (store db (.commit c) d).outcome = .error (.refused e) ∧
      view (store db (.commit c) d).state = ⟨s.tables, .idle⟩ ∧ Demand.Violated s.tables c k ∧
      e.wordless = k.refusal c := by
  have hsettled : Settled s.tables c (store db (.commit c) d).outcome (view (store db (.commit c) d).state) :=
    commit_settled hdb (counted_tables h.toSolvent) hc ⟨d, []⟩ h.same
  generalize (store db (.commit c) d).outcome = r at hsettled ⊢
  generalize view (store db (.commit c) d).state = after at hsettled ⊢
  cases hsettled with
  | stored hmade hadmits => exact .inl ⟨_, rfl, rfl, hmade, hadmits⟩
  | refused hk he => exact .inr ⟨_, _, rfl, rfl, hk, he⟩

theorem store_commit_ok_iff (hdb : Postgres db view) (h : Corresponds s (view d)) (hc : c.Drawn)
    (hfit : s.CountsFit c) :
    (MemoryStore.store (.commit c) s).outcome = .ok () ↔ (store db (.commit c) d).outcome = .ok () := by
  rcases store_commit_cases hdb h hc with ⟨u, hok, _, _, hadmits⟩ | ⟨e, k, herror, _, hk, _⟩
  · refine iff_of_true ?_ hok
    by_contra hfailed
    obtain ⟨⟨e, he⟩, _⟩ := MemoryStore.commit_failed hfailed
    obtain ⟨k, hk, _⟩ := h.toSolvent.commit_violates hfit he
    exact hadmits.meets k hk
  · refine iff_of_false ?_ ?_
    · intro hok
      exact (MemoryStore.commit_admits hok).meets k hk
    · rw [herror]
      exact nofun

theorem store_commit_corresponds (hdb : Postgres db view) (h : Corresponds s (view d)) (hc : c.Drawn)
    (hok : (MemoryStore.store (.commit c) s).outcome = .ok ()) :
    Corresponds (MemoryStore.store (.commit c) s).state (view (store db (.commit c) d).state) := by
  rcases store_commit_cases hdb h hc with ⟨u, _, hafter, hmade, _⟩ | ⟨e, k, _, _, hk, _⟩
  · refine ⟨h.toSolvent.commit hc hok, ?_⟩
    obtain rfl := Option.some.inj (hmade.symm.trans (MemoryStore.commit_changed? hc hok))
    exact hafter
  · exact absurd hk ((MemoryStore.commit_admits hok).meets k)

theorem store_commit_refusals (hdb : Postgres db view) (h : Corresponds s (view d)) (hc : c.Drawn)
    (hfit : s.CountsFit c) (hfailed : (MemoryStore.store (.commit c) s).outcome ≠ .ok ()) :
    (MemoryStore.store (.commit c) s).state = s ∧ view (store db (.commit c) d).state = view d ∧
      ∃ e f j k, (MemoryStore.store (.commit c) s).outcome = .error (.refused e) ∧
        (store db (.commit c) d).outcome = .error (.refused f) ∧ Demand.Violated s.tables c j ∧
        Demand.Violated s.tables c k ∧ e.wordless = j.refusal c ∧ f.wordless = k.refusal c := by
  obtain ⟨⟨e, he⟩, hstate⟩ := MemoryStore.commit_failed hfailed
  obtain ⟨j, hj, hewords⟩ := h.toSolvent.commit_violates hfit he
  rcases store_commit_cases hdb h hc with ⟨u, hok, _⟩ | ⟨f, k, hf, hafter, hk, hfwords⟩
  · exact absurd ((store_commit_ok_iff hdb h hc hfit).mpr hok) hfailed
  · exact ⟨hstate, hafter.trans h.same.symm, e, f, j, k, he, hf, hj, hk, hewords, hfwords⟩

end Commit

theorem calls_agree (hdb : Postgres db view) (h : Corresponds s (view d)) (call : Call) (hcall : ∀ c, call ≠ .commit c) :
    (store db call d).outcome = (MemoryStore.store call s).outcome ∧
      ((∀ o, (MemoryStore.store call s).outcome ≠ .error (.overflow o)) →
        Corresponds (MemoryStore.store call s).state (view (store db call d).state)) := by
  have hintact := h.toIntact
  cases call with
  | findFarm i =>
    obtain ⟨houtcome, hafter⟩ := findFarm_leads hdb i ⟨d, []⟩ h.same
    refine ⟨houtcome.trans ?_, fun _ => ⟨h.toSolvent, hafter⟩⟩
    change _ = (s.findFarm i).mapError _
    rw [MemoryStore.findFarm_of_intact hintact]
    rfl
  | findFarmer i =>
    obtain ⟨houtcome, hafter⟩ := findFarmer_leads hdb h.toSolvent i ⟨d, []⟩ h.same
    refine ⟨houtcome.trans ?_, fun _ => ⟨h.toSolvent, hafter⟩⟩
    change _ = (s.findFarmer i).mapError _
    unfold MemoryStore.findFarmer
    cases hslot : s.farmers[i]? with
    | none => rfl
    | some slot =>
      have husable : MemoryStore.usable slot = .ok slot.farmer := by
        rw [MemoryStore.usable, hintact.slotUsable i slot hslot]
        rfl
      change _ = (some <$> MemoryStore.usable slot).mapError _
      rw [husable]
      rfl
  | registerFarmer i =>
    obtain ⟨houtcome, hafter⟩ := registerFarmer_leads hdb h.toSolvent i ⟨d, []⟩ h.same
    exact ⟨houtcome, fun _ => ⟨h.toSolvent.registerFarmer i, hafter⟩⟩
  | commit c => exact absurd rfl (hcall c)
  | listActiveFarms bounds =>
    obtain ⟨houtcome, hafter⟩ := listActiveFarms_leads hdb bounds ⟨d, []⟩ h.same
    refine ⟨houtcome.trans ?_, fun _ => ⟨h.toSolvent, hafter⟩⟩
    change _ = (s.listActiveFarms bounds).mapError _
    rw [MemoryStore.listActiveFarms, MemoryStore.farmList_of_intact hintact]
    rfl
  | reconcileFarmer i =>
    obtain ⟨houtcome, hafter⟩ := reconcileFarmer_leads hdb h.toSolvent i ⟨d, []⟩ h.same
    refine ⟨houtcome, fun hover => ⟨h.toSolvent.reconcileFarmer hover, hafter ?_⟩⟩
    intro o ho
    exact hover o (houtcome.symm.trans ho)
  | rebuildIndex =>
    obtain ⟨houtcome, hafter⟩ := rebuildIndex_leads hdb ⟨d, []⟩ h.same
    exact ⟨houtcome, fun _ => ⟨h.toSolvent, hafter⟩⟩

/-- The store in a database does what the store in memory does. -/
theorem stores_agree (hdb : Postgres db view) (h : Corresponds s (view d)) :
    (∀ c : Change, c.Drawn → s.CountsFit c →
      let memory := MemoryStore.store (.commit c) s
      let sql := store db (.commit c) d
      (memory.outcome = .ok () ↔ sql.outcome = .ok ()) ∧
        (memory.outcome = .ok () → Corresponds memory.state (view sql.state)) ∧
        (memory.outcome ≠ .ok () → memory.state = s ∧ view sql.state = view d) ∧
        ∀ demand : Demand, demand.Violated s.tables c →
          (∀ other : Demand, other.Violated s.tables c → other = demand) →
          ∃ e f, memory.outcome = .error (.refused e) ∧ sql.outcome = .error (.refused f) ∧
            e.wordless = demand.refusal c ∧ f.wordless = demand.refusal c) ∧
      ∀ call : Call, (∀ c, call ≠ .commit c) →
        (store db call d).outcome = (MemoryStore.store call s).outcome ∧
          ((∀ o, (MemoryStore.store call s).outcome ≠ .error (.overflow o)) →
            Corresponds (MemoryStore.store call s).state (view (store db call d).state)) := by
  refine ⟨?_, calls_agree hdb h⟩
  intro c hc hfit memory sql
  refine ⟨store_commit_ok_iff hdb h hc hfit, store_commit_corresponds hdb h hc, ?_, ?_⟩
  · intro hfailed
    obtain ⟨hmemory, hsql, _⟩ := store_commit_refusals hdb h hc hfit hfailed
    exact ⟨hmemory, hsql⟩
  · intro demand hviolated honly
    have hfailed : memory.outcome ≠ .ok () := by
      intro hok
      exact (MemoryStore.commit_admits hok).meets demand hviolated
    obtain ⟨_, _, e, f, j, k, he, hf, hj, hk, hewords, hfwords⟩ := store_commit_refusals hdb h hc hfit hfailed
    rw [honly j hj] at hewords
    rw [honly k hk] at hfwords
    exact ⟨e, f, he, hf, hewords, hfwords⟩

theorem parcel_stored_alike :
    let p : Farm := { MemoryStore.parcel with area := .ofNat 5 }
    let c : Change := ⟨.insert p, [.gain p.farmerId p.area]⟩
    let settled : Server := ⟨MemoryStore.newcomers.tables, .idle⟩
    let vacant : Server := ⟨MemoryStore.empty.tables, .idle⟩
    c.Drawn ∧ (store Server.database (.commit c) settled).outcome = .ok () ∧
      Corresponds (MemoryStore.store (.commit c) MemoryStore.newcomers).state
        (store Server.database (.commit c) settled).state ∧
      ∃ e, (store Server.database (.commit c) vacant).outcome = .error (.refused e) ∧
        e.wordless = .farmerNotFound p.farmerId := by
  intro p c settled vacant
  have hdrawn : c.Drawn := .insert (f := p) (by decide) rfl
  have hsettled : Corresponds MemoryStore.newcomers (id settled) := by
    refine ⟨(MemoryStore.Solvent.empty.putFarmer ?_).putFarmer ?_, rfl⟩
    · exact Int.le_refl 0
    · exact Int.le_refl 0
  have hvacant : Corresponds MemoryStore.empty (id vacant) := ⟨.empty, rfl⟩
  have hfit : MemoryStore.newcomers.CountsFit c := by
    intro d hd slot hslot
    obtain rfl := List.mem_singleton.mp hd
    cases hslot
    decide
  have hempty : MemoryStore.empty.CountsFit c := by
    intro d _ slot hslot
    cases hslot
  have habsent : ∀ i, i ∉ MemoryStore.empty.tables.farmers := fun i =>
    mt MemoryStore.mem_tables_farmers.mp Std.ExtTreeMap.not_mem_empty
  have hmissing : (Demand.registered p.farmerId).Violated MemoryStore.empty.tables c :=
    ⟨habsent p.farmerId, .inl ⟨p, rfl, rfl⟩⟩
  have honly : ∀ other : Demand, other.Violated MemoryStore.empty.tables c → other = .registered p.farmerId := by
    intro other hother
    cases other with
    | vacant => exact absurd (MemoryStore.empty.tables_version? p.id) hother.2
    | stored => exact absurd rfl hother.1
    | current =>
      obtain ⟨v, _, hv, _⟩ := hother
      cases hv
    | registered i =>
      obtain ⟨_, ⟨f, hf, rfl⟩ | ⟨d, hd, rfl⟩⟩ := hother
      · cases hf
        rfl
      · cases List.mem_singleton.mp hd
        rfl
    | notNegative i =>
      obtain ⟨_, _, _, r, hr, _⟩ := hother
      exact absurd (mem_iff_exists_getElem?.mpr ⟨r, hr⟩) (habsent i)
    | inRange i =>
      obtain ⟨_, _, _, r, hr, _⟩ := hother
      exact absurd (mem_iff_exists_getElem?.mpr ⟨r, hr⟩) (habsent i)
  obtain ⟨hiff, hcorresponds, _, _⟩ := (stores_agree Server.postgres hsettled).1 c hdrawn hfit
  obtain ⟨_, _, _, hrefused⟩ := (stores_agree Server.postgres hvacant).1 c hdrawn hempty
  obtain ⟨_, e, _, he, _, hwords⟩ := hrefused _ hmissing honly
  have hstored : (MemoryStore.store (.commit c) MemoryStore.newcomers).outcome = .ok () := by rfl
  exact ⟨hdrawn, hiff.mp hstored, hcorresponds hstored, e, he, hwords⟩

end FarmRegistry.Sql
