import FarmRegistry.Proofs.Service.Recording

namespace FarmRegistry

namespace Call

def IsRead : Call → Prop
  | findFarm _ => True
  | listActiveFarms _ => True
  | _ => False

def reconciled? : Call → Option FarmerId
  | reconcileFarmer i => some i
  | _ => none

end Call

namespace Exchange

def committed (c : Change) : Exchange :=
  ⟨.commit c, .ok ()⟩

end Exchange

namespace Recorded

variable {σ : Type}

def reconciled (r : Recorded σ) : List FarmerId :=
  r.log.filterMap fun e => e.call.reconciled?

def Uncommitted (r : Recorded σ) : Prop :=
  ∀ c, Exchange.committed c ∉ r.log

theorem Uncommitted.snoc {r t : Recorded σ} (hr : r.Uncommitted) {e : Exchange} (hlog : t.log = r.log ++ [e])
    (he : ∀ c, Exchange.committed c ≠ e) : t.Uncommitted := by
  intro c hc
  rw [hlog] at hc
  rcases List.mem_append.mp hc with hc | hc
  · exact hr c hc
  · exact he c (List.mem_singleton.mp hc)

def Settles (r : Recorded σ) (answer : Except (Stop ServiceError) (Option Farm)) : Prop :=
  r.Uncommitted ∨ ∃ earlier c, r.log = earlier ++ [Exchange.committed c] ∧
    (∀ d, Exchange.committed d ∉ earlier) ∧ answer = .ok c.write.farm?

end Recorded

namespace Work

variable {σ ε δ α β : Type}

structure OnlyRead (w v : World (Recorded σ)) : Prop where
  log : ∃ new, v.store.log = w.store.log ++ new ∧ ∀ e ∈ new, e.call.IsRead
  sleeps : v.sleeps = w.sleeps
  readings : w.readings ≤ v.readings

namespace OnlyRead

variable {w u v : World (Recorded σ)}

theorem refl (w : World (Recorded σ)) : OnlyRead w w :=
  ⟨⟨[], (List.append_nil _).symm, List.forall_mem_nil _⟩, rfl, Nat.le_refl _⟩

theorem trans (hw : OnlyRead w u) (hu : OnlyRead u v) : OnlyRead w v := by
  obtain ⟨first, hfirst, hreads⟩ := hw.log
  obtain ⟨second, hsecond, hreads'⟩ := hu.log
  refine ⟨⟨first ++ second, ?_, ?_⟩, hu.sleeps.trans hw.sleeps, hw.readings.trans hu.readings⟩
  · rw [hsecond, hfirst, List.append_assoc]
  · intro e he
    rcases List.mem_append.mp he with he | he
    · exact hreads e he
    · exact hreads' e he

theorem reconciled (h : OnlyRead w v) : v.store.reconciled = w.store.reconciled := by
  obtain ⟨new, hnew, hreads⟩ := h.log
  have hnone : new.filterMap (fun e => e.call.reconciled?) = [] := by
    rw [List.filterMap_eq_nil_iff]
    rintro ⟨c, outcome⟩ he
    have hread := hreads _ he
    cases c with
    | reconcileFarmer i => cases hread
    | _ => rfl
  rw [Recorded.reconciled, hnew, List.filterMap_append, hnone, List.append_nil]
  rfl

theorem uncommitted (h : OnlyRead w v) (hw : w.store.Uncommitted) : v.store.Uncommitted := by
  obtain ⟨new, hnew, hreads⟩ := h.log
  intro c hc
  rw [hnew] at hc
  rcases List.mem_append.mp hc with hc | hc
  · exact hw c hc
  · exact hreads _ hc

end OnlyRead

def Reads (x : Work (Recorded σ) ε α) : Prop :=
  ∀ w, OnlyRead w (x.outcome w).2

namespace Reads

theorem pure (a : α) : Reads (pure a : Work (Recorded σ) ε α) :=
  fun w => .refl w

theorem bind {x : Work (Recorded σ) ε α} {f : α → Work (Recorded σ) ε β} (hx : Reads x) (hf : ∀ a, Reads (f a)) :
    Reads (x >>= f) := by
  intro w
  have hw := hx w
  rw [outcome_bind]
  rcases h : x.outcome w with ⟨e | a, v⟩
  all_goals rw [h] at hw
  · exact hw
  · exact hw.trans (hf a v)

theorem settled (r : Except (Stop ε) α) : Reads (settled r : Work (Recorded σ) ε α) :=
  fun w => .refl w

theorem adapt (f : ε → δ) {x : Work (Recorded σ) ε α} (hx : Reads x) : Reads (adapt f x) :=
  hx

theorem refuse (e : ε) : Reads (refuse e : Work (Recorded σ) ε α) :=
  fun w => .refl w

theorem now (s : Service σ) : Reads (s.recorded.now : Work _ ε _) :=
  fun w => ⟨(OnlyRead.refl w).log, rfl, Nat.le_succ _⟩

theorem ask (s : Service σ) {c : Call} (hc : c.IsRead) : Reads (s.recorded.ask c) :=
  fun _ => ⟨⟨[_], rfl, List.forall_mem_singleton.mpr hc⟩, rfl, Nat.le_refl _⟩

end Reads

end Work

namespace Service

open Work

variable {σ : Type} (s : Service σ) (m : Intent)

theorem checkGround_reads (f : Farm) : Reads (s.recorded.checkGround f) := by
  unfold checkGround
  by_cases hreject : s.recorded.config.overlaps = .reject
  · rw [if_pos hreject]
    refine .bind (.bind (.adapt _ (.ask s trivial)) fun _ => .pure _) ?_
    intro ids
    cases ids with
    | nil => exact .pure _
    | cons i is => exact .refuse _
  · rw [if_neg hreject]
    exact .pure _

theorem draft_reads : Reads (s.recorded.draft m) := by
  have hcurrent : Reads (s.recorded.current m) := by
    cases m with
    | create f => exact .pure none
    | _ => exact .ask s trivial
  refine .bind (.adapt _ hcurrent) ?_
  intro farm
  refine .bind (.now s) ?_
  intro now
  refine .bind (.adapt _ (.settled _)) ?_
  intro plan
  refine .bind ?_ fun _ => .pure plan
  cases m.claimant? plan with
  | none => exact .pure _
  | some f => exact .adapt _ (s.checkGround_reads f)

variable {s m}

theorem tryOnce_cases {w v : World (Recorded σ)} {o : Except (Stop Setback) (Option Farm)}
    (h : (s.recorded.tryOnce m).outcome w = (o, v)) :
    OnlyRead w v ∨ ∃ u c answer, OnlyRead w u ∧ v.store.log = u.store.log ++ [⟨.commit c, answer⟩] ∧
      v.sleeps = u.sleeps ∧ v.readings = u.readings ∧
      o = (answer.mapError (Stop.map Setback.store)).map fun _ => c.write.farm? := by
  rw [tryOnce_eq, outcome_bind] at h
  have hread := s.draft_reads m w
  rcases hdraft : (s.recorded.draft m).outcome w with ⟨e | plan, u⟩
  all_goals rw [hdraft] at h hread
  · cases h
    exact .inl hread
  · cases plan with
    | unchanged f =>
      cases h
      exact .inl ⟨hread.log, hread.sleeps, hread.readings⟩
    | commit c result =>
      obtain ⟨farm, now, hplan⟩ := draft_eq_ok hdraft
      obtain ⟨told, hout⟩ := outcome_carryOut (s := s.recorded) (m := m) c result u
      cases hout.symm.trans h
      rw [← (Intent.planned_of_plan hplan).written]
      exact .inr ⟨u, c, _, hread, rfl, rfl, rfl, rfl⟩

section Tries

variable {w v : World (Recorded σ)} {o : Except (Stop Setback) (Option Farm)}

theorem tryOnce_spends (h : (s.recorded.tryOnce m).outcome w = (o, v)) :
    v.sleeps = w.sleeps ∧ w.readings ≤ v.readings ∧ v.store.reconciled = w.store.reconciled := by
  rcases tryOnce_cases h with hread | ⟨u, c, answer, hread, hlog, hsleeps, hreadings, _⟩
  · exact ⟨hread.sleeps, hread.readings, hread.reconciled⟩
  · refine ⟨hsleeps.trans hread.sleeps, hreadings ▸ hread.readings, ?_⟩
    rw [← hread.reconciled, Recorded.reconciled, hlog, List.filterMap_append]
    exact List.append_nil _

theorem tryOnce_settles (h : (s.recorded.tryOnce m).outcome w = (o, v)) (hw : w.store.Uncommitted) :
    v.store.Uncommitted ∨ ∃ earlier c, v.store.log = earlier ++ [Exchange.committed c] ∧
      (∀ d, Exchange.committed d ∉ earlier) ∧ o = .ok c.write.farm? := by
  rcases tryOnce_cases h with hread | ⟨u, c, answer, hread, hlog, _, _, ho⟩
  · exact .inl (hread.uncommitted hw)
  · have hu := hread.uncommitted hw
    cases answer with
    | ok => exact .inr ⟨u.store.log, c, hlog, hu, ho⟩
    | error e => exact .inl (hu.snoc hlog fun _ => nofun)

theorem tryOnce_failed {e : Stop Setback} (h : (s.recorded.tryOnce m).outcome w = (.error e, v))
    (hw : w.store.Uncommitted) : v.store.Uncommitted := by
  rcases tryOnce_settles h hw with hnone | ⟨_, _, _, _, hok⟩
  · exact hnone
  · cases hok

theorem repair_asks {i : FarmerId} {r : Except (Stop ServiceError) Unit}
    (h : (s.recorded.repair i).outcome w = (r, v)) :
    v.sleeps = w.sleeps ∧ v.readings = w.readings ∧ v.store.inner = (s.store (.reconcileFarmer i) w.store.inner).state ∧
      v.store.log = w.store.log ++ [⟨.reconcileFarmer i, (s.store (.reconcileFarmer i) w.store.inner).outcome⟩] ∧
      r = ((s.store (.reconcileFarmer i) w.store.inner).outcome.mapError (Stop.map ServiceError.ofStore)).map
        fun _ => () := by
  obtain ⟨told, hout⟩ := outcome_repair (s := s.recorded) i w
  cases hout.symm.trans h
  exact ⟨rfl, rfl, rfl, rfl, rfl⟩

theorem repair_reconciles {i : FarmerId} {r : Except (Stop ServiceError) Unit}
    (h : (s.recorded.repair i).outcome w = (r, v)) : v.store.reconciled = w.store.reconciled ++ [i] := by
  obtain ⟨_, _, _, hlog, _⟩ := repair_asks h
  rw [Recorded.reconciled, hlog, List.filterMap_append]
  rfl

theorem repair_uncommitted {i : FarmerId} {r : Except (Stop ServiceError) Unit}
    (h : (s.recorded.repair i).outcome w = (r, v)) (hw : w.store.Uncommitted) : v.store.Uncommitted := by
  obtain ⟨_, _, _, hlog, _⟩ := repair_asks h
  exact hw.snoc hlog fun _ => nofun

end Tries

end Service

end FarmRegistry
