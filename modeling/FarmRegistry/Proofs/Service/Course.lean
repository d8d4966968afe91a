import FarmRegistry.Proofs.Service.Plans
import FarmRegistry.Proofs.Service.Work

namespace FarmRegistry

def World.Told {σ : Type} (w v : World σ) : Prop :=
  ∃ events, v = { w with events := w.events ++ events }

namespace World.Told

variable {σ : Type} {w v : World σ}

theorem refl (w : World σ) : w.Told w :=
  ⟨[], congrArg (fun events => { w with events := events }) (List.append_nil w.events).symm⟩

theorem store (h : w.Told v) : v.store = w.store := by
  obtain ⟨_, rfl⟩ := h
  rfl

theorem sleeps (h : w.Told v) : v.sleeps = w.sleeps := by
  obtain ⟨_, rfl⟩ := h
  rfl

theorem readings (h : w.Told v) : v.readings = w.readings := by
  obtain ⟨_, rfl⟩ := h
  rfl

end World.Told

def Intent.claimant? (m : Intent) : Plan → Option Farm
  | .unchanged _ => none
  | .commit _ result => if m.mayTakeGround then result.filter Farm.isActive else none

def Setback.reason : Setback → ServiceError
  | final e => e
  | store e => .ofStore e

namespace Service

open Work

variable {σ : Type} (s : Service σ) (m : Intent)

def draft : Work σ Setback Plan := do
  let farm ← adapt .store (s.current m)
  let plan ← adapt .final (settled (m.plan farm (← s.now)))
  (m.claimant? plan).elim (pure ()) fun f => adapt .final (s.checkGround f)
  return plan

def carryOut : Plan → Work σ Setback (Option Farm)
  | .unchanged f => do
    tell (.alreadyInState m.name f.id)
    return some f
  | .commit change result => do
    adapt .store (s.ask (.commit change))
    tell (.changeCommitted m.name m.farmId result change.deltas.length)
    return result

theorem tryOnce_eq : s.tryOnce m = s.draft m >>= s.carryOut m := by
  unfold tryOnce draft
  simp only [bind_assoc]
  congr 1
  funext farm
  congr 1
  funext now
  congr 1
  funext plan
  cases plan with
  | unchanged f => rfl
  | commit c result =>
    by_cases htake : m.mayTakeGround
    · simp only [htake, Intent.claimant?]
      cases result.filter Farm.isActive <;> simp [carryOut]
    · simp [htake, carryOut, Intent.claimant?]

variable {s} {m}

theorem draft_eq_ok {w v : World σ} {plan : Plan} (h : (s.draft m).outcome w = (.ok plan, v)) :
    ∃ farm now, m.plan farm now = .ok plan := by
  obtain ⟨farm, u, _, h⟩ := outcome_bind_eq_ok_iff.mp h
  obtain ⟨now, u, _, h⟩ := outcome_bind_eq_ok_iff.mp h
  obtain ⟨planned, u, hplanned, h⟩ := outcome_bind_eq_ok_iff.mp h
  obtain ⟨_, u, _, h⟩ := outcome_bind_eq_ok_iff.mp h
  cases h
  exact ⟨farm, now, congrArg Prod.fst (outcome_adapt_eq_ok_iff.mp hplanned)⟩

theorem outcome_carryOut (c : Change) (result : Option Farm) (w : World σ) :
    ∃ told, (s.carryOut m (.commit c result)).outcome w =
      (((s.store (.commit c) w.store).outcome.mapError (Stop.map Setback.store)).map fun _ => result,
        { w with store := (s.store (.commit c) w.store).state, events := w.events ++ told }) := by
  rw [carryOut, outcome_bind, outcome_adapt, outcome_ask]
  cases (s.store (.commit c) w.store).outcome with
  | error e => exact ⟨_, rfl⟩
  | ok =>
    refine ⟨(s.store (.commit c) w.store).events ++ [.changeCommitted m.name m.farmId result c.deltas.length], ?_⟩
    rw [← List.append_assoc]
    rfl

theorem outcome_repair (i : FarmerId) (w : World σ) :
    ∃ told, (s.repair i).outcome w =
      (((s.store (.reconcileFarmer i) w.store).outcome.mapError (Stop.map ServiceError.ofStore)).map fun _ => (),
        { w with store := (s.store (.reconcileFarmer i) w.store).state, events := w.events ++ told }) := by
  rw [repair, outcome_bind, outcome_adapt, outcome_ask]
  cases (s.store (.reconcileFarmer i) w.store).outcome with
  | error e => exact ⟨_, rfl⟩
  | ok farmer =>
    refine ⟨(s.store (.reconcileFarmer i) w.store).events ++
      [.totalsRepaired i farmer.totalAcreage farmer.farmCount.val.toNat], ?_⟩
    rw [← List.append_assoc]
    rfl

theorem outcome_backOff (conflicts : Nat) (detail : String) (w : World σ) :
    ∃ told, (s.backOff m conflicts detail).outcome w = (.ok (),
      { w with
        readings := w.readings + 1
        sleeps := w.sleeps ++ [s.jitter (s.config.retry.delayAfter conflicts) conflicts (s.clock w.readings)]
        events := w.events ++ told }) :=
  ⟨[_], rfl⟩

theorem backOff_waits {conflicts : Nat} {detail : String} {w v : World σ}
    (h : (s.backOff m conflicts detail).outcome w = (.ok (), v)) :
    v.store = w.store ∧ v.readings = w.readings + 1 ∧
      v.sleeps = w.sleeps ++ [s.jitter (s.config.retry.delayAfter conflicts) conflicts (s.clock w.readings)] := by
  obtain ⟨told, hout⟩ := outcome_backOff (s := s) (m := m) conflicts detail w
  cases hout.symm.trans h
  exact ⟨rfl, rfl, rfl⟩

inductive Concludes (policy : RetryPolicy) (conflicts : Nat) (repaired : Bool) :
    Except (Stop Setback) (Option Farm) → Except (Stop ServiceError) (Option Farm) → Prop where
  | done (result : Option Farm) : Concludes policy conflicts repaired (.ok result) (.ok result)
  | stopped (o : Overflow) : Concludes policy conflicts repaired (.error (.overflow o)) (.error (.overflow o))
  | refused (e : ServiceError) :
    Concludes policy conflicts repaired (.error (.refused (.final e))) (.error (.refused e))
  | abandoned (detail : String) (hspent : policy.attempts ≤ conflicts + 1) :
    Concludes policy conflicts repaired (.error (.refused (.store (.conflict detail))))
      (.error (.refused (.concurrencyConflict (conflicts + 1))))
  | failed (e : StoreError) (hconflict : ∀ detail, e ≠ .conflict detail)
    (hrepaired : ∀ i, e = .negativeAggregate i → repaired) :
    Concludes policy conflicts repaired (.error (.refused (.store e))) (.error (.refused (.ofStore e)))

section Concludes

variable {policy : RetryPolicy} {conflicts : Nat} {repaired : Bool} {o : Except (Stop Setback) (Option Farm)}

theorem Concludes.eq_ok {result : Option Farm} (h : Concludes policy conflicts repaired o (.ok result)) :
    o = .ok result := by
  cases h
  rfl

theorem Concludes.eq_error {e : Stop ServiceError} (h : Concludes policy conflicts repaired o (.error e)) :
    ∃ f, o = .error f := by
  cases h <;> exact ⟨_, rfl⟩

theorem Concludes.refused_cases {e : ServiceError} (h : Concludes policy conflicts repaired o (.error (.refused e))) :
    o = .error (.refused (.final e)) ∨
      (∃ detail, o = .error (.refused (.store (.conflict detail))) ∧ e = .concurrencyConflict (conflicts + 1)) ∨
      ∃ f, o = .error (.refused (.store f)) ∧ e = .ofStore f ∧ ∀ i, f = .negativeAggregate i → repaired := by
  generalize hr : (.error (.refused e) : Except (Stop ServiceError) (Option Farm)) = r at h
  cases h with
  | refused e =>
    cases hr
    exact .inl rfl
  | abandoned detail hspent =>
    cases hr
    exact .inr (.inl ⟨detail, rfl, rfl⟩)
  | failed f hconflict hrepaired =>
    cases hr
    exact .inr (.inr ⟨f, rfl, rfl, hrepaired⟩)
  | _ => cases hr

theorem Concludes.eq_reason {r : Except (Stop ServiceError) (Option Farm)}
    (h : Concludes policy conflicts repaired o r)
    (hconflict : ∀ detail, o ≠ .error (.refused (.store (.conflict detail)))) :
    r = o.mapError (Stop.map Setback.reason) := by
  cases h with
  | abandoned detail => exact absurd rfl (hconflict detail)
  | _ => rfl

end Concludes

/-- How a run goes, from so many conflicts on and perhaps after a repair: its tries are counted, and between two of
them it either waits or repairs totals. -/
inductive Course (s : Service σ) (m : Intent) :
    Nat → Bool → World σ → Nat → Except (Stop ServiceError) (Option Farm) → World σ → Prop where
  | last {conflicts : Nat} {repaired : Bool} {w u v : World σ} {o : Except (Stop Setback) (Option Farm)}
    {r : Except (Stop ServiceError) (Option Farm)} (htry : (s.tryOnce m).outcome w = (o, u)) (htold : u.Told v)
    (hend : Concludes s.config.retry conflicts repaired o r) : Course s m conflicts repaired w 1 r v
  | raced {conflicts n : Nat} {repaired : Bool} {w u x v : World σ} {detail : String}
    {r : Except (Stop ServiceError) (Option Farm)} (hmore : conflicts + 1 < s.config.retry.attempts)
    (htry : (s.tryOnce m).outcome w = (.error (.refused (.store (.conflict detail))), u))
    (hwait : (s.backOff m (conflicts + 1) detail).outcome u = (.ok (), x))
    (hrest : Course s m (conflicts + 1) repaired x n r v) : Course s m conflicts repaired w (n + 1) r v
  | unrepaired {conflicts : Nat} {w u x v : World σ} {i : FarmerId} {e : Stop ServiceError}
    (htry : (s.tryOnce m).outcome w = (.error (.refused (.store (.negativeAggregate i))), u)) (htold : u.Told x)
    (hrepair : (s.repair i).outcome x = (.error e, v)) : Course s m conflicts false w 1 (.error e) v
  | repaired {conflicts n : Nat} {w u x y v : World σ} {i : FarmerId} {r : Except (Stop ServiceError) (Option Farm)}
    (htry : (s.tryOnce m).outcome w = (.error (.refused (.store (.negativeAggregate i))), u)) (htold : u.Told x)
    (hrepair : (s.repair i).outcome x = (.ok (), y))
    (hrest : Course s m conflicts true y n r v) : Course s m conflicts false w (n + 1) r v

theorem course_of_retry (conflicts : Nat) (repaired : Bool) (w : World σ) :
    ∃ n, Course s m conflicts repaired w n ((s.retry m conflicts repaired).outcome w).1
      ((s.retry m conflicts repaired).outcome w).2 := by
  -- As the runs recur: on the attempts that are left, and then on whether the repair is.
  induction conflicts, repaired using retry.induct (s := s) generalizing w with
  | case1 conflicts repaired ihConflict ihRepair =>
    rw [retry, outcome_bind, attempt, outcome_mk]
    rcases htry : (s.tryOnce m).outcome w with ⟨⟨⟨e | e⟩ | o⟩ | farm, u⟩
    · exact ⟨1, .last htry (.refl u) (.refused e)⟩
    · cases e with
      | conflict detail =>
        by_cases hspent : s.config.retry.attempts ≤ conflicts + 1
        · simp only [hspent, ↓reduceDIte]
          exact ⟨1, .last htry ⟨[_], rfl⟩ (.abandoned detail hspent)⟩
        · simp only [hspent, ↓reduceDIte]
          obtain ⟨told, hwait⟩ := outcome_backOff (s := s) (m := m) (conflicts + 1) detail u
          rw [outcome_bind_ok hwait]
          obtain ⟨n, hrest⟩ := ihConflict hspent _
          exact ⟨n + 1, .raced (by omega) htry hwait hrest⟩
      | negativeAggregate i =>
        by_cases hrepaired : repaired
        · subst hrepaired
          refine ⟨1, .last htry ⟨[_], rfl⟩ (.failed _ ?_ fun _ _ => rfl)⟩
          intro detail h
          cases h
        · obtain rfl : repaired = false := Bool.eq_false_iff.mpr hrepaired
          let noted : World σ := { u with events := u.events ++ [.totalsNegative m.name m.farmId i] }
          have htold : (tell (.totalsNegative m.name m.farmId i) : Work σ ServiceError Unit).outcome u =
              (.ok (), noted) := rfl
          simp only [Bool.false_eq_true, ↓reduceDIte]
          rw [outcome_bind_ok htold, outcome_bind]
          rcases hrepair : (s.repair i).outcome noted with ⟨e | ⟨⟩, x⟩
          · exact ⟨1, .unrepaired htry ⟨[_], rfl⟩ hrepair⟩
          · obtain ⟨n, hrest⟩ := ihRepair Bool.false_ne_true x
            exact ⟨n + 1, .repaired htry ⟨[_], rfl⟩ hrepair hrest⟩
      | _ =>
        refine ⟨1, .last htry (.refl u) (.failed _ ?_ ?_)⟩
        · intro detail h
          cases h
        · intro i h
          cases h
    · exact ⟨1, .last htry (.refl u) (.stopped o)⟩
    · exact ⟨1, .last htry (.refl u) (.done farm)⟩

theorem Course.eq_none {conflicts n : Nat} {repaired : Bool} {w v : World σ}
    {r : Except (Stop ServiceError) (Option Farm)} (h : s.Course m conflicts repaired w n r v) (hr : r = .ok none) :
    ∃ i, m = .erase i := by
  induction h with
  | last htry htold hend =>
    subst hr
    cases hend
    rw [tryOnce_eq] at htry
    obtain ⟨plan, u, hdraft, hcarry⟩ := outcome_bind_eq_ok_iff.mp htry
    obtain ⟨farm, now, hplan⟩ := draft_eq_ok hdraft
    cases plan with
    | unchanged f => cases hcarry
    | commit c result =>
      obtain ⟨_, x, _, hcarry⟩ := outcome_bind_eq_ok_iff.mp hcarry
      cases hcarry
      cases Intent.planned_of_plan hplan with
      | erase hc => exact ⟨_, rfl⟩
  | raced hmore htry hwait hrest ih => exact ih hr
  | unrepaired htry htold hrepair => cases hr
  | repaired htry htold hrepair hrest ih => exact ih hr

theorem run_eq_none {w : World σ} (h : ((s.run m).outcome w).1 = .ok none) : ∃ i, m = .erase i := by
  obtain ⟨n, hcourse⟩ := course_of_retry (s := s) (m := m) 0 false w
  exact hcourse.eq_none h

section Steps

variable {conflicts : Nat} {repaired : Bool} {w u y : World σ}

theorem retry_done {result : Option Farm} (htry : (s.tryOnce m).outcome w = (.ok result, u)) :
    (s.retry m conflicts repaired).outcome w = (.ok result, u) := by
  rw [retry, outcome_bind, attempt, outcome_mk, htry]
  rfl

theorem retry_raced {detail : String}
    (htry : (s.tryOnce m).outcome w = (.error (.refused (.store (.conflict detail))), u))
    (hmore : conflicts + 1 < s.config.retry.attempts) :
    (s.retry m conflicts repaired).outcome w =
      (s.retry m (conflicts + 1) repaired).outcome ((s.backOff m (conflicts + 1) detail).outcome u).2 := by
  obtain ⟨told, hwait⟩ := outcome_backOff (s := s) (m := m) (conflicts + 1) detail u
  rw [retry, outcome_bind, attempt, outcome_mk, htry]
  simp only [Nat.not_le.mpr hmore, ↓reduceDIte]
  rw [outcome_bind_ok hwait, hwait]

theorem retry_spent {detail : String}
    (htry : (s.tryOnce m).outcome w = (.error (.refused (.store (.conflict detail))), u))
    (hspent : s.config.retry.attempts ≤ conflicts + 1) :
    ((s.retry m conflicts repaired).outcome w).1 = .error (.refused (.concurrencyConflict (conflicts + 1))) := by
  rw [retry, outcome_bind, attempt, outcome_mk, htry]
  simp only [hspent, ↓reduceDIte]
  rfl

theorem retry_repaired {i : FarmerId}
    (htry : (s.tryOnce m).outcome w = (.error (.refused (.store (.negativeAggregate i))), u))
    (hrepair : (s.repair i).outcome { u with events := u.events ++ [.totalsNegative m.name m.farmId i] } =
      (.ok (), y)) :
    (s.retry m conflicts false).outcome w = (s.retry m conflicts true).outcome y := by
  have htold : (tell (.totalsNegative m.name m.farmId i) : Work σ ServiceError Unit).outcome u =
      (.ok (), { u with events := u.events ++ [.totalsNegative m.name m.farmId i] }) := rfl
  rw [retry, outcome_bind, attempt, outcome_mk, htry]
  simp only [Bool.false_eq_true, ↓reduceDIte]
  rw [outcome_bind_ok htold, outcome_bind_ok hrepair]

theorem retry_failed {e : StoreError} (htry : (s.tryOnce m).outcome w = (.error (.refused (.store e)), u))
    (hconflict : ∀ detail, e ≠ .conflict detail) (hnegative : ∀ i, e ≠ .negativeAggregate i) :
    (s.retry m conflicts repaired).outcome w = (.error (.refused (.ofStore e)), u) := by
  rw [retry, outcome_bind, attempt, outcome_mk, htry]
  cases e with
  | conflict detail => exact absurd rfl (hconflict detail)
  | negativeAggregate i => exact absurd rfl (hnegative i)
  | _ => rfl

end Steps

end Service

end FarmRegistry
