import FarmRegistry.Proofs.Service.Traces

namespace FarmRegistry

namespace MemoryStore

open Service

inductive Ran (s : MemoryStore) (config : ServiceConfig) (m : Intent) :
    List FarmerId → Except (Stop ServiceError) (Option Farm) → MemoryStore → Prop where
  | straight {now : Timestamp} {conflicts : Nat} {o : Except (Stop Setback) (Option Farm)}
    {r : Except (Stop ServiceError) (Option Farm)} {t : MemoryStore} (htry : s.Tried config.overlaps m now o t)
    (hend : Concludes config.retry conflicts false o r) : Ran s config m [] r t
  | unrepaired {now : Timestamp} {i : FarmerId} {e : Stop StoreError}
    (htry : s.Tried config.overlaps m now (.error (.refused (.store (.negativeAggregate i)))) s)
    (hrepair : (s.reconcileFarmer i).outcome = .error e) :
    Ran s config m [i] (.error (e.map .ofStore)) (s.reconcileFarmer i).state
  | repaired {now later : Timestamp} {i : FarmerId} {f : Farmer} {conflicts : Nat}
    {o : Except (Stop Setback) (Option Farm)} {r : Except (Stop ServiceError) (Option Farm)} {t : MemoryStore}
    (htry : s.Tried config.overlaps m now (.error (.refused (.store (.negativeAggregate i)))) s)
    (hrepair : (s.reconcileFarmer i).outcome = .ok f)
    (hretry : (s.reconcileFarmer i).state.Tried config.overlaps m later o t)
    (hend : Concludes config.retry conflicts true o r) : Ran s config m [i] r t

theorem Tried.failed {s t : MemoryStore} {policy : OverlapPolicy} {m : Intent} {now : Timestamp} {e : Stop Setback}
    (h : s.Tried policy m now (.error e) t) : t = s := by
  cases h <;> rfl

theorem Tried.unique {s t u : MemoryStore} {policy : OverlapPolicy} {m : Intent} {now : Timestamp}
    {o p : Except (Stop Setback) (Option Farm)} (h : s.Tried policy m now o t) (h' : s.Tried policy m now p u) :
    p = o ∧ u = t := by
  cases h <;> cases h' <;> simp_all

theorem Ran.repaired_le {s t : MemoryStore} {config : ServiceConfig} {m : Intent} {repaired : List FarmerId}
    {r : Except (Stop ServiceError) (Option Farm)} (h : s.Ran config m repaired r t) : repaired.length ≤ 1 := by
  cases h <;> simp

theorem Ran.failed {s t : MemoryStore} {config : ServiceConfig} {m : Intent} {repaired : List FarmerId}
    {e : Stop ServiceError} (h : s.Ran config m repaired (.error e) t) :
    (repaired = [] ∧ t = s) ∨ ∃ i, repaired = [i] ∧ t = (s.reconcileFarmer i).state ∧
      ((∃ f, (s.reconcileFarmer i).outcome = .ok f) ∨
        ∃ f, (s.reconcileFarmer i).outcome = .error f ∧ e = f.map .ofStore) := by
  generalize hr : (.error e : Except (Stop ServiceError) (Option Farm)) = r at h
  cases h with
  | straight htry hend =>
    subst hr
    obtain ⟨f, rfl⟩ := hend.eq_error
    exact .inl ⟨rfl, htry.failed⟩
  | @unrepaired _ i f htry hrepair => exact .inr ⟨i, rfl, rfl, .inr ⟨f, hrepair, Except.error.inj hr⟩⟩
  | @repaired _ _ i f _ _ _ _ htry hrepair hretry hend =>
    subst hr
    obtain ⟨_, rfl⟩ := hend.eq_error
    exact .inr ⟨i, rfl, hretry.failed, .inl ⟨f, hrepair⟩⟩

end MemoryStore

namespace Service

open Work MemoryStore

variable {config : ServiceConfig} {jitter : Jitter} {clock : Nat → Timestamp} {m : Intent}

section Runs

variable {w v : World (Recorded MemoryStore)} {conflicts n : Nat} {r : Except (Stop ServiceError) (Option Farm)}

theorem tried_of_recorded {o : Except (Stop Setback) (Option Farm)}
    (h : ((service config jitter clock).recorded.tryOnce m).outcome w = (o, v)) :
    w.store.inner.Tried config.overlaps m (clock w.readings) o v.store.inner := by
  have hmirror := (service config jitter clock).tryOnce_recorded m w
  rw [h] at hmirror
  exact tried_of_tryOnce hmirror.symm

theorem tried_of_course (h : (service config jitter clock).recorded.Course m conflicts true w n r v) :
    v.store.reconciled = w.store.reconciled ∧ ∃ now conflicts o,
      w.store.inner.Tried config.overlaps m now o v.store.inner ∧ Concludes config.retry conflicts true o r := by
  generalize hrepaired : true = repaired at h
  -- After a repair there is no other, so only lost races come before the last try.
  induction h with
  | @last conflicts repaired w u v o r htry htold hend =>
    have htried := tried_of_recorded htry
    rw [htold.store]
    exact ⟨(tryOnce_spends htry).2.2, clock w.readings, conflicts, o, htried, hrepaired ▸ hend⟩
  | raced hmore htry hwait hrest ih =>
    obtain ⟨hsame, hends⟩ := ih hrepaired
    rw [(backOff_waits hwait).1, (tryOnce_spends htry).2.2] at hsame
    rw [(backOff_waits hwait).1, (tried_of_recorded htry).failed] at hends
    exact ⟨hsame, hends⟩
  | unrepaired htry htold hrepair => cases hrepaired
  | repaired htry htold hrepair hrest ih => cases hrepaired

theorem repair_of_tried {u x y : World (Recorded MemoryStore)} {i : FarmerId} {answer : Except (Stop ServiceError) Unit}
    (htry : ((service config jitter clock).recorded.tryOnce m).outcome w =
      (.error (.refused (.store (.negativeAggregate i))), u))
    (htold : u.Told x) (hrepair : ((service config jitter clock).recorded.repair i).outcome x = (answer, y)) :
    w.store.inner.Tried config.overlaps m (clock w.readings) (.error (.refused (.store (.negativeAggregate i))))
        w.store.inner ∧
      y.store.reconciled = w.store.reconciled ++ [i] ∧ y.store.inner = (w.store.inner.reconcileFarmer i).state ∧
      answer = ((w.store.inner.reconcileFarmer i).outcome.mapError (Stop.map ServiceError.ofStore)).map fun _ => () := by
  have htried := tried_of_recorded htry
  have hstore : x.store.inner = w.store.inner := by rw [htold.store, htried.failed]
  obtain ⟨_, _, hinner, _, hanswer⟩ := repair_asks hrepair
  rw [hstore] at hinner hanswer
  refine ⟨htried.failed ▸ htried, ?_, hinner, hanswer⟩
  rw [repair_reconciles hrepair, htold.store, (tryOnce_spends htry).2.2]

theorem ran_of_course (h : (service config jitter clock).recorded.Course m conflicts false w n r v) :
    ∃ l, v.store.reconciled = w.store.reconciled ++ l ∧ w.store.inner.Ran config m l r v.store.inner := by
  generalize hrepaired : false = repaired at h
  induction h with
  | last htry htold hend =>
    have htried := tried_of_recorded htry
    rw [htold.store]
    refine ⟨[], ?_, .straight htried (hrepaired ▸ hend)⟩
    rw [List.append_nil]
    exact (tryOnce_spends htry).2.2
  | raced hmore htry hwait hrest ih =>
    obtain ⟨l, hsame, hran⟩ := ih hrepaired
    rw [(backOff_waits hwait).1, (tryOnce_spends htry).2.2] at hsame
    rw [(backOff_waits hwait).1, (tried_of_recorded htry).failed] at hran
    exact ⟨l, hsame, hran⟩
  | @unrepaired _ w u x v i e htry htold hrepair =>
    obtain ⟨htried, hreconciled, hinner, hanswer⟩ := repair_of_tried htry htold hrepair
    obtain ⟨f, hf, rfl⟩ := mapError_eq_error_iff.mp (map_eq_error_iff.mp hanswer.symm)
    exact ⟨[i], hreconciled, hinner ▸ .unrepaired htried hf⟩
  | @repaired _ n w u x y v i r htry htold hrepair hrest ih =>
    obtain ⟨htried, hreconciled, hinner, hanswer⟩ := repair_of_tried htry htold hrepair
    obtain ⟨f, hf, _⟩ := map_eq_ok_iff.mp hanswer.symm
    obtain ⟨hsame, now, conflicts, o, hretry, hend⟩ := tried_of_course hrest
    rw [hinner] at hretry
    exact ⟨[i], hsame.trans hreconciled, .repaired htried (mapError_eq_ok_iff.mp hf) hretry hend⟩

end Runs

theorem run_concludes {w : World MemoryStore} {o : Except (Stop Setback) (Option Farm)} {t : MemoryStore}
    (h : w.store.Tried config.overlaps m (clock w.readings) o t)
    (hconflict : ∀ detail, o ≠ .error (.refused (.store (.conflict detail))))
    (hnegative : ∀ i, o ≠ .error (.refused (.store (.negativeAggregate i)))) :
    (((service config jitter clock).run m).outcome w).1 = o.mapError (Stop.map Setback.reason) ∧
      (((service config jitter clock).run m).outcome w).2.store = t := by
  have hends : ∀ n r v, (service config jitter clock).Course m 0 false w n r v →
      r = o.mapError (Stop.map Setback.reason) ∧ v.store = t := by
    intro n r v hcourse
    cases hcourse with
    | last htry htold hend =>
      obtain ⟨rfl, hstore⟩ := h.unique (tried_of_tryOnce htry)
      exact ⟨hend.eq_reason hconflict, htold.store.trans hstore⟩
    | raced hmore htry hwait hrest => exact absurd (h.unique (tried_of_tryOnce htry)).1.symm (hconflict _)
    | unrepaired htry htold hrepair => exact absurd (h.unique (tried_of_tryOnce htry)).1.symm (hnegative _)
    | repaired htry htold hrepair hrest => exact absurd (h.unique (tried_of_tryOnce htry)).1.symm (hnegative _)
  obtain ⟨n, hcourse⟩ := course_of_retry (s := service config jitter clock) (m := m) 0 false w
  exact hends n _ _ hcourse

end Service

end FarmRegistry
