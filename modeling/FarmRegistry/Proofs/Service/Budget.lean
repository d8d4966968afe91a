import FarmRegistry.Proofs.Service.Overflows
import FarmRegistry.Proofs.Store.Commit

namespace FarmRegistry

namespace Service

open MemoryStore Work

variable {σ : Type} {s : Service σ} {m : Intent}

namespace Course

variable {conflicts tries : Nat} {repaired : Bool} {r : Except (Stop ServiceError) (Option Farm)}

theorem tries_le {w v : World σ} (h : s.Course m conflicts repaired w tries r v)
    (hc : conflicts < s.config.retry.attempts) :
    tries ≤ s.config.retry.attempts - conflicts + if repaired then 0 else 1 := by
  induction h with
  | last htry htold hend => omega
  | raced hmore htry hwait hrest ih =>
    have hbound := ih hmore
    omega
  | unrepaired htry htold hrepair => omega
  | repaired htry htold hrepair hrest ih =>
    -- The try before the repair is the one that no conflict pays for.
    have hbound := ih hc
    simp only [Bool.false_eq_true, ↓reduceIte] at hbound ⊢
    omega

variable {w v : World (Recorded σ)}

theorem reconciled_le (h : s.recorded.Course m conflicts repaired w tries r v) :
    v.store.reconciled.length ≤ w.store.reconciled.length + if repaired then 0 else 1 := by
  induction h with
  | last htry htold hend =>
    have hsame := (tryOnce_spends htry).2.2
    rw [htold.store, hsame]
    omega
  | raced hmore htry hwait hrest ih =>
    have hsame := (tryOnce_spends htry).2.2
    have hwaited := (backOff_waits hwait).1
    rw [hwaited, hsame] at ih
    exact ih
  | unrepaired htry htold hrepair =>
    have hsame := (tryOnce_spends htry).2.2
    rw [repair_reconciles hrepair, List.length_append, htold.store, hsame]
    exact Nat.le_refl _
  | repaired htry htold hrepair hrest ih =>
    have hsame := (tryOnce_spends htry).2.2
    rw [repair_reconciles hrepair, List.length_append, htold.store, hsame] at ih
    exact ih

def Waits (s : Service σ) (conflicts : Nat) (waits : List Delay) (first last : Nat) : Prop :=
  ∀ k (h : k < waits.length), ∃ n, first ≤ n ∧ n < last ∧
    waits[k] = s.jitter (s.config.retry.delayAfter (conflicts + k + 1)) (conflicts + k + 1) (s.clock n)

theorem waits (h : s.recorded.Course m conflicts repaired w tries r v) (hc : conflicts < s.config.retry.attempts) :
    ∃ waits, v.sleeps = w.sleeps ++ waits ∧ conflicts + waits.length < s.config.retry.attempts ∧
      w.readings ≤ v.readings ∧ Waits s conflicts waits w.readings v.readings := by
  induction h with
  | last htry htold hend =>
    obtain ⟨hsleeps, hreadings, _⟩ := tryOnce_spends htry
    refine ⟨[], ?_, hc, ?_, fun k hk => absurd hk (Nat.not_lt_zero k)⟩
    · rw [List.append_nil, htold.sleeps, hsleeps]
    · rw [htold.readings]
      exact hreadings
  | @raced conflicts n repaired w u x v detail r hmore htry hwait hrest ih =>
    obtain ⟨hsleeps, hreadings, _⟩ := tryOnce_spends htry
    obtain ⟨_, hread, hslept⟩ := backOff_waits hwait
    obtain ⟨waits, hwaits, hlength, hlater, hdelays⟩ := ih hmore
    refine ⟨s.jitter (s.config.retry.delayAfter (conflicts + 1)) (conflicts + 1) (s.clock u.readings) :: waits,
      ?_, ?_, by omega, ?_⟩
    · rw [hwaits, hslept, hsleeps, List.append_assoc]
      rfl
    · rw [List.length_cons]
      omega
    · intro k hk
      cases k with
      | zero => exact ⟨u.readings, hreadings, by omega, rfl⟩
      | succ k =>
        obtain ⟨n, hfirst, hlast, hdelay⟩ := hdelays k (Nat.lt_of_succ_lt_succ hk)
        refine ⟨n, by omega, hlast, ?_⟩
        have hcount : conflicts + (k + 1) + 1 = conflicts + 1 + k + 1 := by omega
        rw [List.getElem_cons_succ, hdelay, hcount]
  | unrepaired htry htold hrepair =>
    obtain ⟨hsleeps, hreadings, _⟩ := tryOnce_spends htry
    obtain ⟨hslept, hread, _⟩ := repair_asks hrepair
    refine ⟨[], ?_, hc, ?_, fun k hk => absurd hk (Nat.not_lt_zero k)⟩
    · rw [List.append_nil, hslept, htold.sleeps, hsleeps]
    · rw [hread, htold.readings]
      exact hreadings
  | @repaired conflicts n w u x y v i r htry htold hrepair hrest ih =>
    obtain ⟨hsleeps, hreadings, _⟩ := tryOnce_spends htry
    obtain ⟨hslept, hread, _⟩ := repair_asks hrepair
    obtain ⟨waits, hwaits, hlength, hlater, hdelays⟩ := ih hc
    have hearlier : w.readings ≤ y.readings := by
      rw [hread, htold.readings]
      exact hreadings
    refine ⟨waits, ?_, hlength, hearlier.trans hlater, ?_⟩
    · rw [hwaits, hslept, htold.sleeps, hsleeps]
    · intro k hk
      obtain ⟨n, hfirst, hlast, hdelay⟩ := hdelays k hk
      exact ⟨n, hearlier.trans hfirst, hlast, hdelay⟩

theorem settles (h : s.recorded.Course m conflicts repaired w tries r v) (hw : w.store.Uncommitted) :
    v.store.Settles r := by
  induction h with
  | last htry htold hend =>
    rw [htold.store]
    rcases tryOnce_settles htry hw with hnone | ⟨earlier, c, hlog, hearlier, rfl⟩
    · exact .inl hnone
    · cases hend
      exact .inr ⟨earlier, c, hlog, hearlier, rfl⟩
  | raced hmore htry hwait hrest ih =>
    apply ih
    rw [(backOff_waits hwait).1]
    exact tryOnce_failed htry hw
  | unrepaired htry htold hrepair =>
    have hu := tryOnce_failed htry hw
    rw [← htold.store] at hu
    exact .inl (repair_uncommitted hrepair hu)
  | repaired htry htold hrepair hrest ih =>
    have hu := tryOnce_failed htry hw
    rw [← htold.store] at hu
    exact ih (repair_uncommitted hrepair hu)

end Course

/-- Whatever a store answers, a run of an intent ends. It tries once more than the policy allows conflicts, if totals
are repaired on the way, which happens at most once; it waits between tries as the policy says; and it stores one
change at most, by its last call, and answers what that wrote. It comes to an answer or a refusal unless a call to the
store stops, or finds a farm whose next version or whose change of the totals is out of range. -/
theorem run_bounded (s : Service σ) (m : Intent) (w : World σ) :
    let r := ((s.recorded.run m).outcome w.recorded).1
    let v := ((s.recorded.run m).outcome w.recorded).2
    (r, v.bare) = (s.run m).outcome w ∧
      (∃ tries, s.recorded.Course m 0 false w.recorded tries r v ∧ tries ≤ s.config.retry.attempts + 1) ∧
      v.store.reconciled.length ≤ 1 ∧
      (∃ waits, v.sleeps = w.sleeps ++ waits ∧ waits.length ≤ s.config.retry.attempts - 1 ∧
        ∀ k (h : k < waits.length), ∃ n, w.readings ≤ n ∧ n < v.readings ∧
          waits[k] = s.jitter (s.config.retry.delayAfter (k + 1)) (k + 1) (s.clock n)) ∧
      (v.store.Uncommitted ∨ ∃ earlier c, v.store.log = earlier ++ [Exchange.committed c] ∧
        (∀ d, Exchange.committed d ∉ earlier) ∧ r = .ok c.write.farm?) ∧
      ((∃ e, r = .error e) → v.store.Uncommitted) ∧
      (((∃ result, r = .ok result) ∨ ∃ e, r = .error (.refused e)) ↔ ∀ e ∈ v.store.log, ¬e.Stops m) := by
  intro r v
  have hattempts : 0 < s.config.retry.attempts := Nat.lt_of_lt_of_le Nat.one_pos (Nat.le_max_right _ _)
  obtain ⟨tries, hcourse⟩ := course_of_retry (s := s.recorded) (m := m) 0 false w.recorded
  have hsettles : v.store.Settles r := hcourse.settles fun c => List.not_mem_nil
  refine ⟨s.run_recorded m w.recorded, ⟨tries, hcourse, hcourse.tries_le hattempts⟩, hcourse.reconciled_le, ?_,
    hsettles, ?_, ?_⟩
  · obtain ⟨waits, hwaits, hlength, _, hdelays⟩ := hcourse.waits hattempts
    refine ⟨waits, hwaits, by omega, ?_⟩
    intro k hk
    have hdelay := hdelays k hk
    rw [Nat.zero_add] at hdelay
    exact hdelay
  · rintro ⟨e, he⟩
    rcases hsettles with hnone | ⟨_, c, _, _, hok⟩
    · exact hnone
    · rw [hok] at he
      cases he
  · have hstart : ¬w.recorded.store.Halted m := by
      rintro ⟨e, he, _⟩
      cases he
    have hreturns : ((∃ result, r = .ok result) ∨ ∃ e, r = .error (.refused e)) ↔ ¬∃ o, r = .error (.overflow o) := by
      rcases r with ⟨e | o⟩ | result <;> simp
    have hhalts : (∃ o, r = .error (.overflow o)) ↔ v.store.Halted m := hcourse.overflows_iff hstart
    rw [hreturns, hhalts, Recorded.Halted]
    push Not
    exact Iff.rfl

def oldest : Store Unit
  | .findFarm _, s => .ok (some { parcel with version := greatest }) s
  | .findFarmer i, s => .ok (some (.new i)) s
  | .registerFarmer i, s => .ok (.new i) s
  | .commit _, s => .ok () s
  | .listActiveFarms _, s => .ok [] s
  | .reconcileFarmer i, s => .ok (.new i) s
  | .rebuildIndex, s => .ok () s

def oldestService : Service Unit :=
  ⟨oldest, ⟨.standard, .allow⟩, .none, fun _ => ⟨0, 0⟩⟩

theorem last_version_stops :
    ¬∀ (σ : Type) (s : Service σ) (m : Intent) (w : World σ),
      (∀ c t o, (s.store c t).outcome ≠ .error (.overflow o)) →
        (∃ result, ((s.run m).outcome w).1 = .ok result) ∨ ∃ e, ((s.run m).outcome w).1 = .error (.refused e) := by
  intro h
  have hanswers : ∀ c t o, (oldestService.store c t).outcome ≠ .error (.overflow o) := by
    intro c t o h
    cases c <;> cases h
  have hrun : ((oldestService.run (.retire parcel.id)).outcome (.ofStore ())).1 = .error (.overflow .add) := by
    unfold run
    rw [retry]
    rfl
  rcases h Unit oldestService (.retire parcel.id) (.ofStore ()) hanswers with ⟨result, hok⟩ | ⟨e, he⟩
  · rw [hrun] at hok
    cases hok
  · rw [hrun] at he
    cases he

end Service

end FarmRegistry
