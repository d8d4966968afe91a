import FarmRegistry.Proofs.Service.Mutations
import FarmRegistry.Proofs.Store.Footprint

namespace FarmRegistry

namespace MemoryStore

section Tries

variable {s t : MemoryStore} {policy : OverlapPolicy} {m : Intent} {now : Timestamp}

theorem Tried.confined (hs : s.Keyed) {result : Option Farm} (h : s.Tried policy m now (.ok result) t) :
    (∀ i, i ≠ m.farmId → t.farms[i]? = s.farms[i]?) ∧
      ∀ i, ¬Farm.OwnedBy i s.farms[m.farmId]? → ¬Farm.OwnedBy i t.farms[m.farmId]? →
        t.farmers[i]? = s.farmers[i]? := by
  cases h with
  | unchanged hread hplan => exact ⟨fun _ _ => rfl, fun _ _ _ => rfl⟩
  | @committed farm _ c hread hplan hground hcommit =>
    have hplanned := Intent.planned_of_plan hplan
    obtain ⟨hord, hnames⟩ := hplanned.names
    have hfarms := planned_farms hs hread hplanned hcommit
    refine ⟨?_, ?_⟩
    · intro i hi
      rw [hfarms, if_neg hi.symm]
    · intro i hbefore hafter
      rw [hfarms, if_pos rfl] at hafter
      apply (commit_follows hord.nodup hcommit).others
      rintro d hd rfl
      rcases hnames d hd with howned | howned
      · rcases current_eq_ok hread with rfl | rfl
        · obtain ⟨f, hf, _⟩ := howned
          cases hf
        · exact hbefore howned
      · exact hafter howned

end Tries

section Runs

variable {s t : MemoryStore} {config : ServiceConfig} {m : Intent} {repaired : List FarmerId}

theorem Ran.spares {e : ServiceError} (h : s.Ran config m repaired (.error (.refused e)) t) : s.Spares t repaired := by
  rcases h.failed with ⟨rfl, rfl⟩ | ⟨i, rfl, rfl, hended⟩
  · exact .refl t []
  · apply reconcileFarmer_spares
    intro o ho
    rw [ho] at hended
    rcases hended with ⟨f, hf⟩ | ⟨f, hf, he⟩
    · cases hf
    · cases hf
      cases he

theorem Ran.keeps_others {e : Stop ServiceError} (h : s.Ran config m repaired (.error e) t) :
    t.farms = s.farms ∧ ∀ i, i ∉ repaired → t.farmers[i]? = s.farmers[i]? := by
  rcases h.failed with ⟨rfl, rfl⟩ | ⟨i, rfl, rfl, _⟩
  · exact ⟨rfl, fun _ _ => rfl⟩
  · exact ⟨reconcileFarmer_farms s i, fun j hj => reconcileFarmer_others (mt List.mem_singleton.mpr hj)⟩

theorem Ran.confined (hs : s.Keyed) {result : Option Farm} (h : s.Ran config m repaired (.ok result) t) :
    (∀ i, i ≠ m.farmId → t.farms[i]? = s.farms[i]?) ∧
      ∀ i, ¬Farm.OwnedBy i s.farms[m.farmId]? → ¬Farm.OwnedBy i t.farms[m.farmId]? → i ∉ repaired →
        t.farmers[i]? = s.farmers[i]? := by
  cases h with
  | straight htry hend =>
    rw [hend.eq_ok] at htry
    obtain ⟨hfarms, hfarmers⟩ := htry.confined hs
    exact ⟨hfarms, fun i hbefore hafter _ => hfarmers i hbefore hafter⟩
  | @repaired _ _ i _ _ _ _ _ htry hrepair hretry hend =>
    rw [hend.eq_ok] at hretry
    obtain ⟨hfarms, hfarmers⟩ := hretry.confined (hs.reconcileFarmer i)
    rw [reconcileFarmer_farms] at hfarms hfarmers
    refine ⟨hfarms, ?_⟩
    intro j hbefore hafter hj
    rw [hfarmers j hbefore hafter]
    exact reconcileFarmer_others (mt List.mem_singleton.mpr hj)

end Runs

end MemoryStore

namespace Service

open MemoryStore

variable (config : ServiceConfig) (jitter : Jitter) (clock : Nat → Timestamp)

/-- An operation that is refused leaves everything as it was, but for the totals of at most one farmer, which are
computed anew from the farms. One that succeeds touches one farm, and the totals of none but those who owned it, come
to own it, or had them computed anew. -/
theorem failure_leaves_no_trace {o : Operation} {k : FarmId} (ho : o.target? = some k) (w : World MemoryStore) :
    let s := MemoryStore.service config jitter clock
    let r := ((s.recorded.perform o).outcome w.recorded).1
    let v := ((s.recorded.perform o).outcome w.recorded).2
    let t := v.store.inner
    (r, v.bare) = (s.perform o).outcome w ∧ v.store.reconciled.length ≤ 1 ∧
      ((∃ e, r = .error (.refused e)) → w.store.Spares t v.store.reconciled) ∧
      ((∃ e, r = .error e) → t.farms = w.store.farms ∧
        ∀ i, i ∉ v.store.reconciled → t.farmers[i]? = w.store.farmers[i]?) ∧
      (w.store.Keyed → (∃ a, r = .ok a) → (∀ i, i ≠ k → t.farms[i]? = w.store.farms[i]?) ∧
        ∀ i, ¬Farm.OwnedBy i w.store.farms[k]? → ¬Farm.OwnedBy i t.farms[k]? → i ∉ v.store.reconciled →
          t.farmers[i]? = w.store.farmers[i]?) := by
  intro s r v t
  refine ⟨s.perform_recorded o w.recorded, ?_⟩
  rcases perform_ran ho w with ⟨⟨e, hr⟩, hv⟩ | ⟨m, answer, hm, hk, hends, hran⟩
  · -- A boundary is refused before the store is asked.
    have hr : r = .error (.refused (.geometry e)) := hr
    have hv : v = w.recorded := hv
    have ht : t = w.store := congrArg (fun v => v.store.inner) hv
    rw [ht, hr, hv]
    refine ⟨Nat.zero_le 1, fun _ => .refl _ _, fun _ => ⟨rfl, fun _ _ => rfl⟩, ?_⟩
    rintro _ ⟨a, ha⟩
    cases ha
  · have hran : w.store.Ran config m v.store.reconciled answer t := hran
    have hends : ∀ e, r = .error e ↔ answer = .error e := hends
    refine ⟨hran.repaired_le, ?_, ?_, ?_⟩
    · rintro ⟨e, he⟩
      rw [(hends _).mp he] at hran
      exact hran.spares
    · rintro ⟨e, he⟩
      rw [(hends _).mp he] at hran
      exact hran.keeps_others
    · rintro hs ⟨a, ha⟩
      cases answer with
      | error e =>
        rw [(hends e).mpr rfl] at ha
        cases ha
      | ok result =>
        rw [← hk]
        exact hran.confined hs

def strained : MemoryStore :=
  ((empty.putFarmer (.new giver)).putFarmer ⟨taker, ⟨greatest⟩, Totals.zeroCount⟩).writeFarm
    (.insert { parcel with farmerId := giver, area := .ofNat 5 })

theorem handover_fails_after_repair :
    let s := MemoryStore.service .standard .none fun _ => ⟨0, 0⟩
    let o := Operation.reassign ⟨parcel.id, taker⟩
    let r := ((s.recorded.perform o).outcome (World.ofStore strained).recorded).1
    let v := ((s.recorded.perform o).outcome (World.ofStore strained).recorded).2
    r = .error (.refused (.repository (TotalsError.overflow taker).message)) ∧ v.store.reconciled = [giver] ∧
      strained.Spares v.store.inner [giver] ∧ v.store.inner.farms = strained.farms ∧
      v.store.inner.farmers[taker]? = strained.farmers[taker]? ∧
      v.store.inner.farmers[giver]? = some ⟨⟨giver, .ofNat 5, ⟨1, by decide, by decide⟩⟩, false⟩ := by
  intro s o r v
  obtain ⟨u, hrun, hreconciled, hgiver⟩ : ∃ u, (s.recorded.run (.reassign parcel.id taker)).outcome
        (World.ofStore strained).recorded =
          (.error (.refused (.repository (TotalsError.overflow taker).message)), u) ∧
      u.store.reconciled = [giver] ∧
      u.store.inner.farmers[giver]? = some ⟨⟨giver, .ofNat 5, ⟨1, by decide, by decide⟩⟩, false⟩ :=
    ⟨_, (retry_repaired (i := giver) rfl rfl).trans
      (retry_failed (e := .query (TotalsError.overflow taker).message) rfl (fun _ => nofun) fun _ => nofun), rfl, by rfl⟩
  have hended : (s.recorded.perform o).outcome (World.ofStore strained).recorded =
      (.error (.refused (.repository (TotalsError.overflow taker).message)), u) := Work.outcome_bind_error hrun
  have hr : r = .error (.refused (.repository (TotalsError.overflow taker).message)) := congrArg Prod.fst hended
  have hv : v = u := congrArg Prod.snd hended
  obtain ⟨_, _, hspares, hkeeps, _⟩ := failure_leaves_no_trace .standard .none (fun _ => ⟨0, 0⟩) (o := o) rfl
    (.ofStore strained)
  have hspared : strained.Spares v.store.inner v.store.reconciled := hspares ⟨_, hr⟩
  obtain ⟨hfarms, hothers⟩ : v.store.inner.farms = strained.farms ∧
      ∀ i, i ∉ v.store.reconciled → v.store.inner.farmers[i]? = strained.farmers[i]? := hkeeps ⟨_, hr⟩
  rw [hv] at hspared hfarms hothers ⊢
  rw [hreconciled] at hspared hothers ⊢
  exact ⟨hr, rfl, hspared, hfarms, hothers taker (by decide), hgiver⟩

end Service

end FarmRegistry
