import FarmRegistry.Proofs.Sql.Discipline
import FarmRegistry.Proofs.Sql.Recounts

namespace FarmRegistry.Sql

open Session

section Speaking

variable {δ : Type} (db : Database δ) {i : FarmerId} {front : List Turn}

theorem speaks_setTotals {sums : Totals} (hs : Due i front (.setFarmer i sums)) :
    Speaks (fun later => Recounts i (front ++ later)) (adapt TransactionError.storeError do
      queried (act (Watched.database db) (.setFarmer i sums))
      return sums) := by
  rw [adapt_bind]
  refine Answered.bind_ok (speaks_queried db (asks_act _ _)) (fun _ => .raised hs .failed) ?_
  exact fun c hsound => .settled (.stored hs hsound)

theorem speaks_sumFarms (hs : Due i front (.farmerFarms i)) :
    Speaks (fun later => Recounts i (front ++ later)) (adapt TransactionError.storeError do
      let records ← queried (all (Watched.database db) StoredFarm.ofRow? (.farmerFarms i))
      let farms ← adapt .store (Session.ofExcept (records.mapM StoredFarm.toFarm))
      let totals ← settled (Stop.ofOverflow (Totals.ofFarms i farms))
      queried (act (Watched.database db) (.setFarmer i totals))
      return totals) := by
  rw [adapt_bind]
  refine Answered.bind (speaks_queried db (asks_all _ _ _)) (fun _ => .raised hs .failed) ?_ ?_
  · intro b e _ he
    obtain ⟨⟨row, hrow, hnull⟩, rfl⟩ := Answer.all_eq_error he
    exact .raised hs (.nullFarm hrow hnull)
  · intro b records hsound hread
    have hrecords := Answer.all_eq_ok_iff.mp hread
    rw [adapt_bind, adapt_store]
    cases hfarms : records.mapM StoredFarm.toFarm with
    | error e =>
      obtain ⟨r, hr, he⟩ := mapM_eq_error hfarms
      obtain ⟨m, rfl⟩ := StoredFarm.toFarm_query he
      obtain ⟨row, hrow, hrecord⟩ := forall₂_mem_left hrecords.flip hr
      have hquiet : Turn.Quiet ⟨.farmerFarms i, b⟩ := by
        apply Turn.Quiet.farms hsound
        intro row hrow
        obtain ⟨r, _, hr⟩ := forall₂_mem_left hrecords hrow
        exact ⟨r, hr⟩
      have hcorrupt : ∀ f, ¬Row.Tells row f := by
        rintro f ⟨s, hs, hf⟩
        cases hs.symm.trans hrecord
        rw [hf] at he
        cases he
      exact .settled (.corrupt hs hquiet ⟨row, hrow, hcorrupt⟩)
    | ok farms =>
      have htold := Row.tells_of_records hrecords (mapM_eq_ok_iff.mp hfarms)
      change Speaks _ (adapt _ (settled (Stop.ofOverflow (Totals.ofFarms i farms)) >>= fun totals => do
        queried (act (Watched.database db) (.setFarmer i totals))
        return totals))
      cases hsums : Totals.ofFarms i farms with
      | error o => exact .settled (.overflowed hs hsound htold hsums)
      | ok sums =>
        have hset := speaks_setTotals db (.sums hs hsound htold hsums)
        simp only [List.append_assoc] at hset
        exact hset

theorem speaks_storeTotals (i : FarmerId) :
    Speaks (Recounts i) (adapt TransactionError.storeError (storeTotals (Watched.database db) i)) := by
  rw [storeTotals, adapt_bind]
  refine Answered.bind (speaks_queried db (asks_first? _ _ (.lockFarmer i))) (fun _ => .raised .lock .failed) ?_ ?_
  · intro a e _ he
    obtain ⟨hrow, rfl⟩ := Answer.first?_eq_error_iff.mp he
    obtain ⟨row, hrow, hnull⟩ := Option.map_eq_some_iff.mp hrow
    exact .raised .lock (.nullFarmer hrow hnull)
  · intro a found hsound hread
    have hquiet : Turn.Quiet ⟨.lockFarmer i, a⟩ := .lock hsound hread
    have hfound := Answer.first?_eq_ok_iff.mp hread
    cases found with
    | none => exact .settled (.unregistered hquiet (by simpa using hfound))
    | some u =>
      refine speaks_sumFarms db (.farms hquiet ?_)
      intro hnone
      rw [hnone] at hfound
      cases hfound

theorem speaks_reconcileFarmer (i : FarmerId) :
    Speaks (fun turns r => ∃ s, Enclosed (Recounts i) turns s ∧ r = s.map (Farmer.reconciled i))
      (reconcileFarmer (Watched.database db) i) := by
  refine .bind (speaks_transaction db (speaks_storeTotals db i)) ?_ ?_
  · intro turns e h
    exact ⟨_, h, rfl⟩
  · intro sums turns h
    refine .bind (.tell _ (P := fun later r => later = [] ∧ r = .ok ()) ⟨rfl, rfl⟩) ?_ ?_
    · rintro later e ⟨_, he⟩
      cases he
    · rintro _ later ⟨rfl, _⟩
      refine .settled ⟨.ok sums, ?_, rfl⟩
      rw [List.append_nil, List.append_nil]
      exact h

theorem reconcileFarmer_mirrors (i : FarmerId) :
    Mirrors (reconcileFarmer (Watched.database db) i) (reconcileFarmer db i) := by
  have hwork : Mirrors (storeTotals (Watched.database db) i) (storeTotals db i) := by
    refine .bind (.adapt _ (.first? db _ _)) ?_
    intro found
    cases found with
    | none => exact .refuse _
    | some u =>
      refine .bind (.adapt _ (.all db _ _)) ?_
      intro records
      refine .bind (.adapt _ (.settled _)) ?_
      intro farms
      refine .bind (.settled _) ?_
      intro sums
      exact .bind (.adapt _ (.act db _)) fun _ => .pure _
  refine .bind (.concluded (.transaction _ hwork)) ?_
  intro sums
  exact .bind (.tell _) fun _ => .pure _

end Speaking

/-- A rollback, if one was sent, raised no error. -/
def Reverts (log : List Turn) : Prop :=
  ∀ b, ⟨.rollback, b⟩ ∈ log → b.failure? = none

/-- The course of a reconciliation, as it is read off what was sent and what was answered. A failed begin opens nothing,
and a failed commit leaves nothing open, so neither is followed by a rollback. A rollback that fails hides what went
wrong before it. -/
structure Reconciles (i : FarmerId) (log : List Turn) (r : Except (Stop StoreError) Farmer) : Prop where
  order : ∃ sums front, front <+: [.begin, .lockFarmer i, .farmerFarms i, .setFarmer i sums, .commit] ∧
    (log.map Turn.statement = front ∨ log.map Turn.statement = front ++ [.rollback])
  asks : ∃ a, ⟨.begin, a⟩ ∈ log ∧ (a.failure? = none → ∃ b, ⟨.lockFarmer i, b⟩ ∈ log ∧
    (Turn.Quiet ⟨.lockFarmer i, b⟩ → b.toRows ≠ [] → ∃ c, ⟨.farmerFarms i, c⟩ ∈ log))
  unregistered : ∀ a, ⟨.lockFarmer i, a⟩ ∈ log → a.failure? = none → a.toRows = [] →
    (Reverts log → r = .error (.refused (.farmerNotFound i))) ∧
      log.map Turn.statement = [.begin, .lockFarmer i, .rollback]
  corrupt : ∀ a row, ⟨.farmerFarms i, a⟩ ∈ log → row ∈ a.toRows → (∀ f, ¬row.Tells f) →
    (Reverts log → ∃ m, r = .error (.refused (.query m))) ∧
      log.map Turn.statement = [.begin, .lockFarmer i, .farmerFarms i, .rollback]
  summed : ∀ a farms, ⟨.farmerFarms i, a⟩ ∈ log → a.failure? = none → List.Forall₂ Row.Tells a.toRows farms →
    Farm.Summable i farms → ∃ sums closing c, Totals.ofFarms i farms = .ok sums ∧
      (sums.area.val = Farm.heldArea i farms ∧ sums.farmCount.val = min (Farm.heldCount i farms) 4294967295) ∧
      (log.map Turn.statement = [.begin, .lockFarmer i, .farmerFarms i, .setFarmer i sums, closing] ∧ closing.Ends) ∧
      ⟨.setFarmer i sums, c⟩ ∈ log ∧ (c.failure? = none → ∃ b, ⟨.commit, b⟩ ∈ log ∧
        (b.failure? = none → r = .ok (.reconciled i sums)))
  overflowed : ∀ a farms, ⟨.farmerFarms i, a⟩ ∈ log → a.failure? = none → List.Forall₂ Row.Tells a.toRows farms →
    ¬Farm.Summable i farms →
    (∃ o, r = .error (.overflow o)) ∧ log.map Turn.statement = [.begin, .lockFarmer i, .farmerFarms i]
  raised : ∀ t q, t ∈ log → t.statement ≠ .rollback → t.Raises q →
    (Reverts log → r = .error (.refused q.storeError)) ∧
      ((t.statement = .begin ∨ t.statement = .commit) ∧ (∃ front, log = front ++ [t]) ∨
        ∃ front b, log = front ++ [t, ⟨.rollback, b⟩])
  unreverted : ∀ f, ⟨.rollback, .failed f⟩ ∈ log → r = .error (.refused (QueryError.failed f).storeError)
  returned : ∀ f, r = .ok f ↔ ∃ sums, f = .reconciled i sums ∧
    (∃ c, ⟨.setFarmer i sums, c⟩ ∈ log ∧ c.failure? = none) ∧ ∃ b, ⟨.commit, b⟩ ∈ log ∧ b.failure? = none

section Reconciles

variable {i : FarmerId} {log : List Turn} {s : Except (Stop StoreError) Totals}

theorem reconciled_order (h : Enclosed (Recounts i) log s) :
    ∃ sums front, front <+: [.begin, .lockFarmer i, .farmerFarms i, .setFarmer i sums, .commit] ∧
      (log.map Turn.statement = front ∨ log.map Turn.statement = front ++ [.rollback]) := by
  have hopened : ∀ {sums : Totals} {l : List Statement}, l <+: [.lockFarmer i, .farmerFarms i, .setFarmer i sums] →
      .begin :: l <+: [.begin, .lockFarmer i, .farmerFarms i, .setFarmer i sums, .commit] := by
    intro sums l hl
    exact (List.prefix_cons_inj _).mpr (hl.trans (List.prefix_append _ [Statement.commit]))
  cases h with
  | unopened => exact ⟨.zero, _, ⟨_, rfl⟩, .inl rfl⟩
  | @opened a work rest s r ha hwork hrest =>
    rw [List.map_cons, List.map_append]
    cases hrest with
    | undone | unreverted =>
      obtain ⟨sums, hsent⟩ := hwork.sent
      exact ⟨sums, _, hopened hsent, .inr rfl⟩
    | abandoned =>
      obtain ⟨sums, hsent⟩ := hwork.sent
      refine ⟨sums, _, hopened hsent, .inl ?_⟩
      rw [List.map_nil, List.append_nil]
    | @unacknowledged v f =>
      rw [hwork.stored_of_ok.1]
      exact ⟨v, _, List.prefix_refl _, .inl rfl⟩
    | @acknowledged v b hb =>
      rw [hwork.stored_of_ok.1]
      exact ⟨v, _, List.prefix_refl _, .inl rfl⟩

theorem reconciled_asks (h : Enclosed (Recounts i) log s) :
    ∃ a, ⟨.begin, a⟩ ∈ log ∧ (a.failure? = none → ∃ b, ⟨.lockFarmer i, b⟩ ∈ log ∧
      (Turn.Quiet ⟨.lockFarmer i, b⟩ → b.toRows ≠ [] → ∃ c, ⟨.farmerFarms i, c⟩ ∈ log)) := by
  cases h with
  | unopened => exact ⟨_, List.mem_cons_self, fun ha => nomatch ha⟩
  | @opened a work rest s r ha hwork hrest =>
    have hin : ∀ {t : Turn}, t ∈ work → t ∈ ⟨.begin, a⟩ :: (work ++ rest) :=
      fun ht => List.mem_cons_of_mem _ (List.mem_append_left _ ht)
    obtain ⟨b, hb, hnext⟩ := hwork.asks
    refine ⟨a, List.mem_cons_self, fun _ => ⟨b, hin hb, ?_⟩⟩
    intro hquiet hrow
    obtain ⟨c, hc⟩ := hnext hquiet hrow
    exact ⟨c, hin hc⟩

theorem reconciled_raised (h : Enclosed (Recounts i) log s) {t : Turn} {q : QueryError} (ht : t ∈ log)
    (hne : t.statement ≠ .rollback) (hq : t.Raises q) : (Reverts log → s = .error (.refused q.storeError)) ∧
      ((t.statement = .begin ∨ t.statement = .commit) ∧ (∃ front, log = front ++ [t]) ∨
        ∃ front b, log = front ++ [t, ⟨.rollback, b⟩]) := by
  cases h with
  | unopened =>
    obtain rfl := List.mem_singleton.mp ht
    cases hq
    exact ⟨fun _ => rfl, .inl ⟨.inl rfl, [], rfl⟩⟩
  | @opened a work rest s r ha hwork hrest =>
    rcases List.mem_cons.mp ht with rfl | ht
    · cases hq
      cases ha
    · rcases List.mem_append.mp ht with ht | ht
      · obtain ⟨rfl, front, rfl⟩ := hwork.of_raises ht hq
        obtain ⟨b, rfl, hreverted⟩ := hrest.rollsBack
        refine ⟨?_, .inr ⟨⟨.begin, a⟩ :: front, b, ?_⟩⟩
        · exact fun hreverts => hreverted (hreverts b (List.mem_cons_of_mem _ List.mem_concat_self))
        · rw [List.append_assoc]
          rfl
      · cases hrest with
        | undone | unreverted =>
          obtain rfl := List.mem_singleton.mp ht
          exact absurd rfl hne
        | abandoned => cases ht
        | unacknowledged =>
          obtain rfl := List.mem_singleton.mp ht
          cases hq
          exact ⟨fun _ => rfl, .inl ⟨.inr rfl, _ :: work, rfl⟩⟩
        | acknowledged hb =>
          obtain rfl := List.mem_singleton.mp ht
          cases hq
          cases hb

theorem reconciled_unreverted (h : Enclosed (Recounts i) log s) {f : Failure} (hf : ⟨.rollback, .failed f⟩ ∈ log) :
    s = .error (.refused (QueryError.failed f).storeError) := by
  cases h with
  | unopened => cases List.mem_singleton.mp hf
  | opened ha hwork hrest =>
    rcases List.mem_cons.mp hf with hf | hf
    · cases hf
    · rcases List.mem_append.mp hf with hf | hf
      · exact absurd trivial (hwork.work_open _ hf)
      · cases hrest with
        | undone hb =>
          cases List.mem_singleton.mp hf
          cases hb
        | unreverted =>
          cases List.mem_singleton.mp hf
          rfl
        | abandoned => cases hf
        | unacknowledged => cases List.mem_singleton.mp hf
        | acknowledged => cases List.mem_singleton.mp hf

theorem reconciled_returned (h : Enclosed (Recounts i) log s) {f : Farmer} :
    s.map (Farmer.reconciled i) = .ok f ↔ ∃ sums, f = .reconciled i sums ∧
      (∃ c, ⟨.setFarmer i sums, c⟩ ∈ log ∧ c.failure? = none) ∧ ∃ b, ⟨.commit, b⟩ ∈ log ∧ b.failure? = none := by
  constructor
  · intro hf
    obtain ⟨v, rfl, rfl⟩ := map_eq_ok_iff.mp hf
    cases h with
    | opened _ hwork hrest =>
      cases hrest with
      | acknowledged hb =>
        obtain ⟨_, c, hc, hsound⟩ := hwork.stored_of_ok
        refine ⟨v, rfl, ⟨c, List.mem_cons_of_mem _ (List.mem_append_left _ hc), hsound⟩, _, ?_, hb⟩
        exact List.mem_cons_of_mem _ List.mem_concat_self
  · rintro ⟨sums, rfl, ⟨c, hc, _⟩, b, hb, hsound⟩
    obtain ⟨a, work, r, rest, rfl, hset, hwork, hrest⟩ := h.of_mem hc nofun id
    -- The work sends no commit, so this one closes it, and only work that came to totals is closed so.
    have hcommit : ⟨.commit, b⟩ ∈ rest := by
      rcases List.mem_cons.mp hb with hb | hb
      · cases hb
      · rcases List.mem_append.mp hb with hb | hb
        · exact absurd trivial (hwork.work_open _ hb)
        · exact hb
    cases hrest with
    | undone | unreverted => cases List.mem_singleton.mp hcommit
    | abandoned => cases hcommit
    | unacknowledged =>
      cases List.mem_singleton.mp hcommit
      cases hsound
    | @acknowledged v _ _ =>
      have hsame : Statement.setFarmer i sums ∈ [.lockFarmer i, .farmerFarms i, .setFarmer i v] :=
        hwork.stored_of_ok.1 ▸ List.mem_map_of_mem hset
      have hv : sums = v := by simpa using hsame
      rw [hv]
      rfl

theorem Enclosed.reconciles (h : Enclosed (Recounts i) log s) : Reconciles i log (s.map (Farmer.reconciled i)) where
  order := reconciled_order h
  asks := reconciled_asks h
  unregistered := by
    intro a ha hsound hnone
    obtain ⟨b, work, r, rest, rfl, hmem, hwork, hrest⟩ := h.of_mem ha nofun id
    obtain ⟨rfl, hsent⟩ := hwork.of_unregistered hmem hsound hnone
    obtain ⟨d, rfl, hreverted⟩ := hrest.rollsBack
    rw [List.map_cons, List.map_append, hsent]
    refine ⟨fun hreverts => ?_, rfl⟩
    rw [hreverted (hreverts d (List.mem_cons_of_mem _ List.mem_concat_self))]
    rfl
  corrupt := by
    intro a row ha hrow hcorrupt
    obtain ⟨b, work, r, rest, rfl, hmem, hwork, hrest⟩ := h.of_mem ha nofun id
    obtain ⟨⟨m, rfl⟩, hsent⟩ := hwork.of_corrupt hmem hrow hcorrupt
    obtain ⟨d, rfl, hreverted⟩ := hrest.rollsBack
    rw [List.map_cons, List.map_append, hsent]
    refine ⟨fun hreverts => ⟨m, ?_⟩, rfl⟩
    rw [hreverted (hreverts d (List.mem_cons_of_mem _ List.mem_concat_self))]
    rfl
  summed := by
    intro a farms ha hsound hfarms hsummable
    obtain ⟨b, work, r, rest, rfl, hmem, hwork, hrest⟩ := h.of_mem ha nofun id
    obtain ⟨t, ht⟩ := Totals.exists_ofFarms_iff.mpr hsummable
    rcases hwork.of_told hmem hsound hfarms with ⟨o, hover, _⟩ | ⟨sums, c, hsums, hc, hsent, hdone⟩
    · rw [ht] at hover
      cases hover
    · have hset : ⟨.setFarmer i sums, c⟩ ∈ ⟨.begin, b⟩ :: (work ++ rest) :=
        List.mem_cons_of_mem _ (List.mem_append_left _ hc)
      rw [List.map_cons, List.map_append, hsent]
      rcases hdone with rfl | ⟨f, rfl, rfl⟩
      · obtain ⟨d, rfl, hok⟩ := hrest.commits
        refine ⟨sums, .commit, c, hsums, Totals.ofFarms_exact hsums, ⟨rfl, trivial⟩, hset, fun _ => ⟨d, ?_, ?_⟩⟩
        · exact List.mem_cons_of_mem _ List.mem_concat_self
        · intro hd
          rw [hok hd]
          rfl
      · obtain ⟨d, rfl, _⟩ := hrest.rollsBack
        exact ⟨sums, .rollback, _, hsums, Totals.ofFarms_exact hsums, ⟨rfl, trivial⟩, hset, nofun⟩
  overflowed := by
    intro a farms ha hsound hfarms hover
    obtain ⟨b, work, r, rest, rfl, hmem, hwork, hrest⟩ := h.of_mem ha nofun id
    rcases hwork.of_told hmem hsound hfarms with ⟨o, _, rfl, hsent⟩ | ⟨sums, _, hsums, _⟩
    · -- Nothing closes a transaction whose work overflowed.
      cases hrest
      rw [List.map_cons, List.map_append, hsent]
      exact ⟨⟨o, rfl⟩, rfl⟩
    · exact absurd (Totals.exists_ofFarms_iff.mp ⟨sums, hsums⟩) hover
  raised := by
    intro t q ht hne hq
    obtain ⟨herror, hcourse⟩ := reconciled_raised h ht hne hq
    refine ⟨fun hreverts => ?_, hcourse⟩
    rw [herror hreverts]
    rfl
  unreverted := by
    intro f hf
    obtain rfl := reconciled_unreverted h hf
    rfl
  returned := fun f => reconciled_returned h

theorem Reconciles.sets_iff {r : Except (Stop StoreError) Farmer} (h : Reconciles i log r) {a : Answer}
    (ha : ⟨.farmerFarms i, a⟩ ∈ log) (hsound : a.failure? = none) {farms : List Farm}
    (hfarms : List.Forall₂ Row.Tells a.toRows farms) {sums : Totals} :
    .setFarmer i sums ∈ log.map Turn.statement ↔ Totals.ofFarms i farms = .ok sums := by
  by_cases hsummable : Farm.Summable i farms
  · obtain ⟨t, closing, c, ht, _, ⟨hsent, hends⟩, hc, _⟩ := h.summed a farms ha hsound hfarms hsummable
    constructor
    · intro hset
      rw [hsent] at hset
      have hclosing : closing ≠ .setFarmer i sums := by
        rintro rfl
        exact hends
      have hsame : sums = t := by simpa [hclosing.symm] using hset
      rw [hsame]
      exact ht
    · intro hsums
      rw [ht] at hsums
      cases hsums
      exact List.mem_map_of_mem hc
  · obtain ⟨_, hsent⟩ := h.overflowed a farms ha hsound hfarms hsummable
    refine iff_of_false ?_ ?_
    · rw [hsent]
      simp
    · intro hsums
      exact hsummable (Totals.exists_ofFarms_iff.mp ⟨sums, hsums⟩)

end Reconciles

section Exact

variable {δ : Type} (db : Database δ)

/-- However a database answers, totals are stored as they are returned, or not at all: they are the exact sums over the
farms that were read, in whatever order. What goes wrong is told, and rolled back between a begin and a commit; if the
rollback goes wrong as well, that is told instead. -/
theorem reconciliation_stores_sums (i : FarmerId) (s : δ) :
    let watched := (reconcileFarmer (Watched.database db) i).outcome ⟨⟨s, []⟩, []⟩
    let log := watched.2.state.log
    (watched.1, watched.2.bare) = (reconcileFarmer db i).outcome ⟨s, []⟩ ∧ Reconciles i log watched.1 ∧
      ∀ other : δ,
        let again := ((reconcileFarmer (Watched.database db) i).outcome ⟨⟨other, []⟩, []⟩).2.state.log
        ∀ a b farms, ⟨.farmerFarms i, a⟩ ∈ log → ⟨.farmerFarms i, b⟩ ∈ again → a.failure? = none →
          b.failure? = none → List.Forall₂ Row.Tells a.toRows farms → (∀ f ∈ farms, 0 ≤ f.area.val) →
          a.toRows.Perm b.toRows →
          ∀ sums, .setFarmer i sums ∈ log.map Turn.statement ↔ .setFarmer i sums ∈ again.map Turn.statement := by
  have hcourse : ∀ start : δ,
      Reconciles i ((reconcileFarmer (Watched.database db) i).outcome ⟨⟨start, []⟩, []⟩).2.state.log
        ((reconcileFarmer (Watched.database db) i).outcome ⟨⟨start, []⟩, []⟩).1 := by
    intro start
    obtain ⟨turns, hlog, r, hr, hresult⟩ := speaks_reconcileFarmer db i ⟨⟨start, []⟩, []⟩
    rw [hlog, hresult]
    exact hr.reconciles
  refine ⟨reconcileFarmer_mirrors db i _, hcourse s, ?_⟩
  intro other again a b farms ha hb hsound hsound' hfarms hn hperm sums
  -- The rows in the other order tell the same farms in some order.
  obtain ⟨others, hothers, hperm'⟩ := List.perm_comp_forall₂ hperm.symm hfarms
  have hsame : Totals.ofFarms i farms = Totals.ofFarms i others :=
    Totals.ofFarms_perm hn (hperm'.symm.filter _)
  rw [(hcourse s).sets_iff ha hsound hfarms, (hcourse other).sets_iff hb hsound' hothers, hsame]

theorem drifted_totals_are_cleared :
    let i : FarmerId := ⟨⟨3⟩⟩
    let run := fun answers =>
      (reconcileFarmer (Watched.database Script.database) i).outcome ⟨⟨Script.ofAnswers answers, []⟩, []⟩
    let cleared := run [.rows [[("id", .uuid i.uuid)]], .rows [], .affected 1]
    (.setFarmer i .zero ∈ cleared.2.state.log.map Turn.statement ∧ cleared.1 = .ok (.new i)) ∧
      (run [.rows []]).1 = .error (.refused (.farmerNotFound i)) := by
  intro i run cleared
  constructor
  · let script := Script.ofAnswers [.rows [[("id", .uuid i.uuid)]], .rows [], .affected 1]
    obtain ⟨_, hcourse, _⟩ := reconciliation_stores_sums Script.database i script
    have hlog : cleared.2.state.log = [⟨.begin, .nothing⟩, ⟨.lockFarmer i, .rows [[("id", .uuid i.uuid)]]⟩,
      ⟨.farmerFarms i, .rows []⟩, ⟨.setFarmer i .zero, .affected 1⟩, ⟨.commit, .nothing⟩] := rfl
    have hread : ⟨.farmerFarms i, .rows []⟩ ∈ cleared.2.state.log := by simp [hlog]
    have hset : ⟨.setFarmer i .zero, .affected 1⟩ ∈ cleared.2.state.log := by simp [hlog]
    have hcommit : ⟨.commit, .nothing⟩ ∈ cleared.2.state.log := by simp [hlog]
    refine ⟨(hcourse.sets_iff hread rfl .nil).mpr rfl, ?_⟩
    exact (hcourse.returned _).mpr ⟨.zero, rfl, ⟨_, hset, rfl⟩, _, hcommit, rfl⟩
  · obtain ⟨_, hcourse, _⟩ := reconciliation_stores_sums Script.database i (Script.ofAnswers [.rows []])
    refine (hcourse.unregistered (.rows []) (List.mem_cons_of_mem _ List.mem_cons_self) rfl rfl).1 ?_
    intro b hb
    let log : List Turn := [⟨.begin, .nothing⟩, ⟨.lockFarmer i, .rows []⟩, ⟨.rollback, .nothing⟩]
    have hsent : ⟨.rollback, b⟩ ∈ log := hb
    obtain rfl : b = .nothing := by simpa [log] using hsent
    rfl

end Exact

end FarmRegistry.Sql
