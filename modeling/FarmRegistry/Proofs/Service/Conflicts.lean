import FarmRegistry.Proofs.Service.Traces
import FarmRegistry.Proofs.Store.Commit

namespace FarmRegistry

def StoreError.IsRace : StoreError → Prop
  | .conflict _ => True
  | _ => False

def ServiceError.IsRace : ServiceError → Prop
  | .concurrencyConflict _ => True
  | _ => False

def Setback.IsRace : Setback → Prop
  | .final e => e.IsRace
  | .store e => e.IsRace

def Call.IsRetried : Call → Prop
  | .findFarm _ => True
  | .commit _ => True
  | _ => False

def Exchange.isConflict (e : Exchange) : Bool :=
  match e.outcome with
  | .error (.refused (.conflict _)) => true
  | _ => false

def Recorded.conflicts {σ : Type} (r : Recorded σ) : Nat :=
  r.log.countP Exchange.isConflict

inductive Setback.Tells : Setback → Call → Prop where
  | read (i : FarmId) (detail : String) : Tells (.store (.conflict detail)) (.findFarm i)
  | ground (b : Option BoundingBox) : Tells (.final (.concurrencyConflict 1)) (.listActiveFarms b)
  | write (c : Change) (detail : String) : Tells (.store (.conflict detail)) (.commit c)

theorem StoreError.isRace_iff {e : StoreError} : e.IsRace ↔ ∃ detail, e = .conflict detail := by
  cases e with
  | conflict detail => exact iff_of_true trivial ⟨detail, rfl⟩
  | _ => exact iff_of_false id (by rintro ⟨_, h⟩; cases h)

theorem ServiceError.ofStore_isRace {e : StoreError} (h : (ofStore e).IsRace) : e.IsRace := by
  cases e with
  | conflict detail => trivial
  | _ => exact h.elim

namespace Work

variable {σ ε δ α β : Type}

def Calm (w v : World (Recorded σ)) : Prop :=
  ∃ new, v.store.log = w.store.log ++ new ∧ ∀ e ∈ new, e.isConflict = false

def Raced (w v : World (Recorded σ)) (c : Call) : Prop :=
  ∃ u e, Calm w u ∧ v.store.log = u.store.log ++ [e] ∧ e.call = c ∧ e.isConflict

section Logs

variable {w u v : World (Recorded σ)} {c : Call}

theorem Calm.of_log (h : v.store.log = w.store.log) : Calm w v :=
  ⟨[], h.trans (List.append_nil _).symm, List.forall_mem_nil _⟩

theorem Calm.trans (hw : Calm w u) (hu : Calm u v) : Calm w v := by
  obtain ⟨first, hfirst, hcalm⟩ := hw
  obtain ⟨second, hsecond, hcalm'⟩ := hu
  refine ⟨first ++ second, ?_, ?_⟩
  · rw [hsecond, hfirst, List.append_assoc]
  · intro e he
    rcases List.mem_append.mp he with he | he
    · exact hcalm e he
    · exact hcalm' e he

theorem Calm.of_store (hw : Calm w u) (h : v.store = u.store) : Calm w v :=
  hw.trans (.of_log (congrArg Recorded.log h))

theorem Raced.of_store (hw : Raced w u c) (h : v.store = u.store) : Raced w v c := by
  obtain ⟨x, e, hx, hlog, hc, he⟩ := hw
  exact ⟨x, e, hx, h ▸ hlog, hc, he⟩

theorem Calm.raced (hw : Calm w u) (hu : Raced u v c) : Raced w v c := by
  obtain ⟨x, e, hx, hlog, hc, he⟩ := hu
  exact ⟨x, e, hw.trans hx, hlog, hc, he⟩

theorem Calm.conflicts (h : Calm w v) : v.store.conflicts = w.store.conflicts := by
  obtain ⟨new, hnew, hcalm⟩ := h
  have hnone : new.countP Exchange.isConflict = 0 := by
    rw [List.countP_eq_zero]
    intro e he
    rw [hcalm e he]
    exact Bool.false_ne_true
  rw [Recorded.conflicts, hnew, List.countP_append, hnone]
  rfl

theorem Raced.conflicts (h : Raced w v c) : v.store.conflicts = w.store.conflicts + 1 := by
  obtain ⟨u, e, hu, hlog, _, he⟩ := h
  rw [← hu.conflicts, Recorded.conflicts, hlog, List.countP_append, List.countP_singleton, if_pos he]
  rfl

end Logs

def Surfaces (race : ε → Prop) (tells : ε → Call → Prop) (x : Work (Recorded σ) ε α) : Prop :=
  ∀ w, (Calm w (x.outcome w).2 ∧ ∀ e, (x.outcome w).1 = .error (.refused e) → ¬race e) ∨
    ∃ e c, (x.outcome w).1 = .error (.refused e) ∧ tells e c ∧ Raced w (x.outcome w).2 c

namespace Surfaces

variable {race : ε → Prop} {tells : ε → Call → Prop}

theorem pure (a : α) : Surfaces race tells (pure a : Work (Recorded σ) ε α) :=
  fun _ => .inl ⟨.of_log rfl, fun _ => nofun⟩

theorem bind {x : Work (Recorded σ) ε α} {f : α → Work (Recorded σ) ε β} (hx : Surfaces race tells x)
    (hf : ∀ a, Surfaces race tells (f a)) : Surfaces race tells (x >>= f) := by
  intro w
  have hw := hx w
  rw [outcome_bind]
  rcases h : x.outcome w with ⟨e | a, v⟩
  all_goals rw [h] at hw
  · rcases hw with ⟨hcalm, hclean⟩ | ⟨d, c, hd, htells, hraced⟩
    · exact .inl ⟨hcalm, fun d hd => hclean d (by rw [Except.error.inj hd])⟩
    · exact .inr ⟨d, c, by rw [Except.error.inj hd], htells, hraced⟩
  · rcases hw with ⟨hcalm, _⟩ | ⟨d, c, hd, _⟩
    · rcases hf a v with ⟨hrest, hclean⟩ | ⟨d, c, hd, htells, hraced⟩
      · exact .inl ⟨hcalm.trans hrest, hclean⟩
      · exact .inr ⟨d, c, hd, htells, hcalm.raced hraced⟩
    · cases hd

theorem settled {r : Except (Stop ε) α} (hr : ∀ e, r = .error (.refused e) → ¬race e) :
    Surfaces race tells (settled r : Work (Recorded σ) ε α) :=
  fun _ => .inl ⟨.of_log rfl, hr⟩

theorem adapt {race' : δ → Prop} {tells' : δ → Call → Prop} {f : ε → δ} {x : Work (Recorded σ) ε α}
    (hx : Surfaces race tells x) (hrace : ∀ e, race' (f e) → race e)
    (htells : ∀ e c, tells e c → tells' (f e) c) : Surfaces race' tells' (adapt f x) := by
  intro w
  rw [outcome_adapt]
  rcases hx w with ⟨hcalm, hclean⟩ | ⟨e, c, he, htell, hraced⟩
  · refine .inl ⟨hcalm, ?_⟩
    intro d hd
    obtain ⟨stop, hstop, hmap⟩ := mapError_eq_error_iff.mp hd
    cases stop with
    | refused e =>
      cases hmap
      exact mt (hrace e) (hclean e hstop)
    | overflow o => cases hmap
  · exact .inr ⟨f e, c, mapError_eq_error_iff.mpr ⟨_, he, rfl⟩, htells e c htell, hraced⟩

theorem refuse {e : ε} (he : ¬race e) : Surfaces race tells (refuse e : Work (Recorded σ) ε α) := by
  refine fun _ => .inl ⟨.of_log rfl, ?_⟩
  rintro d hd
  cases hd
  exact he

theorem tell (e : Event) : Surfaces race tells (tell e : Work (Recorded σ) ε Unit) :=
  fun _ => .inl ⟨.of_log rfl, fun _ => nofun⟩

theorem now (s : Service σ) : Surfaces race tells (s.recorded.now : Work _ ε _) :=
  fun _ => .inl ⟨.of_log rfl, fun _ => nofun⟩

theorem ask (s : Service σ) (c : Call) :
    Surfaces StoreError.IsRace (fun e d => e.IsRace ∧ d = c) (s.recorded.ask c) := by
  intro w
  rw [outcome_ask]
  by_cases hconflict : Exchange.isConflict ⟨c, (s.store c w.store.inner).outcome⟩
  · obtain ⟨detail, hdetail⟩ : ∃ detail, (s.store c w.store.inner).outcome = .error (.refused (.conflict detail)) := by
      unfold Exchange.isConflict at hconflict
      split at hconflict
      · rename_i detail h
        exact ⟨detail, h⟩
      · cases hconflict
    exact .inr ⟨.conflict detail, c, hdetail, ⟨trivial, rfl⟩, w, _, .of_log rfl, rfl, rfl, hconflict⟩
  · refine .inl ⟨⟨[⟨c, (s.store c w.store.inner).outcome⟩], rfl, ?_⟩, ?_⟩
    · rw [List.forall_mem_singleton]
      exact Bool.eq_false_iff.mpr hconflict
    · rintro e he hrace
      obtain ⟨detail, rfl⟩ := StoreError.isRace_iff.mp hrace
      apply hconflict
      change (s.store c w.store.inner).outcome = _ at he
      simp only [Exchange.isConflict, he]

end Surfaces

end Work

namespace Service

open MemoryStore Work

variable {σ : Type} (s : Service σ) (m : Intent)

theorem plan_unraced {farm : Option Farm} {now : Timestamp} {e : ServiceError}
    (h : m.plan farm now = .error (.refused e)) : ¬e.IsRace := by
  have hrevise : ∀ f, (Stop.ofOverflow (m.revise f now) : Except (Stop ServiceError) Plan) ≠ .error (.refused e) := by
    intro f
    cases m.revise f now <;> exact nofun
  cases m with
  | create f =>
    obtain ⟨c, hc⟩ := Intent.insert_eq_ok f
    rw [Intent.plan, hc] at h
    cases h
  | _ =>
    cases farm with
    | none =>
      cases h
      exact id
    | some f => exact absurd h (hrevise f)

theorem checkGround_surfaces (f : Farm) :
    Surfaces ServiceError.IsRace (fun e c => (Setback.final e).Tells c) (s.recorded.checkGround f) := by
  unfold checkGround
  by_cases hreject : s.recorded.config.overlaps = .reject
  · rw [if_pos hreject]
    refine .bind (.bind (.adapt (.ask s _) (fun _ => ServiceError.ofStore_isRace) ?_) fun _ => .pure _) ?_
    · rintro e c ⟨hrace, rfl⟩
      obtain ⟨detail, rfl⟩ := StoreError.isRace_iff.mp hrace
      exact .ground _
    · intro ids
      cases ids with
      | nil => exact .pure _
      | cons i is => exact .refuse id
  · rw [if_neg hreject]
    exact .pure _

theorem tryOnce_surfaces : Surfaces Setback.IsRace Setback.Tells (s.recorded.tryOnce m) := by
  have hask : ∀ c : Call, (∀ detail, (Setback.store (.conflict detail)).Tells c) →
      Surfaces Setback.IsRace Setback.Tells (Work.adapt Setback.store (s.recorded.ask c)) := by
    intro c htells
    refine .adapt (.ask s c) (fun _ => id) ?_
    rintro e d ⟨hrace, rfl⟩
    obtain ⟨detail, rfl⟩ := StoreError.isRace_iff.mp hrace
    exact htells detail
  have hcurrent : Surfaces Setback.IsRace Setback.Tells (Work.adapt Setback.store (s.recorded.current m)) := by
    cases m with
    | create f => exact Surfaces.pure none
    | _ => exact hask _ (.read _)
  rw [tryOnce_eq]
  refine .bind (.bind hcurrent ?_) ?_
  · intro farm
    refine .bind (.now s) ?_
    intro now
    have hplan : Surfaces ServiceError.IsRace (fun _ _ => False)
        (Work.settled (m.plan farm now) : Work (Recorded σ) _ _) :=
      .settled fun e he => plan_unraced m he
    refine .bind (.adapt hplan (fun _ => id) fun _ _ => False.elim) ?_
    intro plan
    refine .bind ?_ fun _ => .pure plan
    cases m.claimant? plan with
    | none => exact .pure _
    | some f => exact .adapt (s.checkGround_surfaces f) (fun _ => id) fun _ _ => id
  · intro plan
    cases plan with
    | unchanged f => exact .bind (.tell _) fun _ => .pure _
    | commit c result =>
      refine .bind (hask _ (.write c)) ?_
      intro _
      exact .bind (.tell _) fun _ => .pure _

theorem repair_surfaces (i : FarmerId) :
    Surfaces ServiceError.IsRace (fun e c => e = .concurrencyConflict 1 ∧ c = .reconcileFarmer i)
      (s.recorded.repair i) := by
  refine .bind (.adapt (.ask s _) (fun _ => ServiceError.ofStore_isRace) ?_) fun _ => .tell _
  rintro e c ⟨hrace, rfl⟩
  obtain ⟨detail, rfl⟩ := StoreError.isRace_iff.mp hrace
  exact ⟨rfl, rfl⟩

variable {s m}

theorem tryOnce_raced {w u : World (Recorded σ)} {detail : String}
    (h : (s.recorded.tryOnce m).outcome w = (.error (.refused (.store (.conflict detail))), u)) :
    ∃ c, c.IsRetried ∧ Raced w u c := by
  have hends := s.tryOnce_surfaces m w
  rw [h] at hends
  rcases hends with ⟨_, hclean⟩ | ⟨e, c, he, htells, hraced⟩
  · exact absurd trivial (hclean _ rfl)
  · cases he
    cases htells with
    | read i => exact ⟨.findFarm i, trivial, hraced⟩
    | write c => exact ⟨.commit c, trivial, hraced⟩

theorem tryOnce_ground {w u : World (Recorded σ)} {n : Nat}
    (h : (s.recorded.tryOnce m).outcome w = (.error (.refused (.final (.concurrencyConflict n))), u)) :
    ∃ b, n = 1 ∧ Raced w u (.listActiveFarms b) := by
  have hends := s.tryOnce_surfaces m w
  rw [h] at hends
  rcases hends with ⟨_, hclean⟩ | ⟨e, c, he, htells, hraced⟩
  · exact absurd trivial (hclean _ rfl)
  · cases he
    cases htells with
    | ground b => exact ⟨b, rfl, hraced⟩

theorem tryOnce_calm {w u : World (Recorded σ)} {o : Except (Stop Setback) (Option Farm)}
    (h : (s.recorded.tryOnce m).outcome w = (o, u)) (ho : ∀ e, o = .error (.refused e) → ¬e.IsRace) : Calm w u := by
  have hends := s.tryOnce_surfaces m w
  rw [h] at hends
  rcases hends with ⟨hcalm, _⟩ | ⟨e, c, he, htells, _⟩
  · exact hcalm
  · refine absurd ?_ (ho e he)
    cases htells <;> trivial

theorem Course.conflict {conflicts n tries : Nat} {repaired : Bool} {w v : World (Recorded σ)}
    {r : Except (Stop ServiceError) (Option Farm)} (h : s.recorded.Course m conflicts repaired w tries r v)
    (hr : r = .error (.refused (.concurrencyConflict n))) (hmore : conflicts < s.config.retry.attempts) :
    ∃ c u, Raced u v c ∧ v.store.conflicts + conflicts ≤ w.store.conflicts + s.config.retry.attempts ∧
      (c.IsRetried → n = s.config.retry.attempts ∧ v.store.conflicts + conflicts = w.store.conflicts + n) ∧
      (¬c.IsRetried → n = 1) := by
  induction h with
  | @last conflicts repaired w u v o r htry htold hend =>
    subst hr
    generalize hreport : ServiceError.concurrencyConflict n = report at hend
    cases hend with
    | refused =>
      subst hreport
      obtain ⟨b, rfl, hraced⟩ := tryOnce_ground htry
      have hraced' := hraced.of_store htold.store
      have hcount := hraced'.conflicts
      exact ⟨_, w, hraced', by omega, fun h => h.elim, fun _ => rfl⟩
    | abandoned detail hspent =>
      cases hreport
      obtain ⟨c, hc, hraced⟩ := tryOnce_raced htry
      have hraced' := hraced.of_store htold.store
      have hcount := hraced'.conflicts
      have hbudget : s.config.retry.attempts ≤ conflicts + 1 := hspent
      exact ⟨c, w, hraced', by omega, fun _ => ⟨by omega, by omega⟩, fun h => absurd hc h⟩
    | failed e hconflict =>
      have hrace : (ServiceError.ofStore e).IsRace := hreport ▸ trivial
      obtain ⟨detail, rfl⟩ := StoreError.isRace_iff.mp (ServiceError.ofStore_isRace hrace)
      exact absurd rfl (hconflict detail)
  | raced hmore' htry hwait hrest ih =>
    -- The race that is tried again passes from the conflicts on record to those counted so far.
    obtain ⟨_, _, hraced⟩ := tryOnce_raced htry
    have hcount := (hraced.of_store (backOff_waits hwait).1).conflicts
    obtain ⟨c, y, hlast, hbound, hretried, hother⟩ := ih hr hmore'
    refine ⟨c, y, hlast, by omega, ?_, hother⟩
    intro hc
    obtain ⟨hn, htotal⟩ := hretried hc
    exact ⟨hn, by omega⟩
  | @unrepaired conflicts w u x v i e htry htold hrepair =>
    have hcalm := (tryOnce_calm htry (by rintro _ ⟨⟩; exact id)).of_store htold.store
    have hends := s.repair_surfaces i x
    cases hr
    rw [hrepair] at hends
    rcases hends with ⟨_, hclean⟩ | ⟨d, c, hd, ⟨rfl, rfl⟩, hraced⟩
    · exact absurd trivial (hclean _ rfl)
    · cases hd
      have hcount : v.store.conflicts = w.store.conflicts + 1 := (hcalm.raced hraced).conflicts
      exact ⟨_, x, hraced, by omega, fun h => h.elim, fun _ => rfl⟩
  | @repaired conflicts n' w u x y v i r htry htold hrepair hrest ih =>
    have hcalm := (tryOnce_calm htry (by rintro _ ⟨⟩; exact id)).of_store htold.store
    have hends := s.repair_surfaces i x
    rw [hrepair] at hends
    rcases hends with ⟨hcalm', _⟩ | ⟨d, c, hd, _⟩
    · have hcount : y.store.conflicts = w.store.conflicts := (hcalm.trans hcalm').conflicts
      rw [← hcount]
      exact ih hr hmore
    · cases hd

/-- A report of lost races ends a run whose last call met one. It counts the races of the whole budget where the farm
could not be read or the change not committed; where the ground could not be read or totals not repaired, it says one
whatever the budget is. -/
theorem lost_races_reported (s : Service σ) (m : Intent) (w : World σ) :
    let r := ((s.recorded.run m).outcome w.recorded).1
    let v := ((s.recorded.run m).outcome w.recorded).2
    (r, v.bare) = (s.run m).outcome w ∧
      ∀ n, r = .error (.refused (.concurrencyConflict n)) →
        v.store.conflicts ≤ s.config.retry.attempts ∧
          ∃ earlier last, v.store.log = earlier ++ [last] ∧ last.isConflict ∧
            (last.call.IsRetried → n = s.config.retry.attempts ∧ v.store.conflicts = n) ∧
            (¬last.call.IsRetried → n = 1) := by
  intro r v
  refine ⟨s.run_recorded m w.recorded, ?_⟩
  intro n hn
  obtain ⟨tries, hcourse⟩ : ∃ tries, s.recorded.Course m 0 false w.recorded tries r v :=
    course_of_retry 0 false w.recorded
  have hattempts : 0 < s.config.retry.attempts := Nat.lt_of_lt_of_le Nat.zero_lt_one (Nat.le_max_right _ _)
  obtain ⟨c, u, ⟨x, last, _, hlog, rfl, hlast⟩, hbound, hretried, hother⟩ := hcourse.conflict hn hattempts
  have hstart : w.recorded.store.conflicts = 0 := rfl
  rw [hstart] at hbound hretried
  refine ⟨by omega, x.store.log, last, hlog, hlast, ?_, hother⟩
  intro hcall
  obtain ⟨hbudget, hcount⟩ := hretried hcall
  exact ⟨hbudget, by omega⟩

def lostRace : String :=
  "could not serialize access"

def contested : Store Unit :=
  fun _ s => .refused (.conflict lostRace) s

def contestedService (overlaps : OverlapPolicy) : Service Unit :=
  ⟨contested, ⟨.standard, overlaps⟩, .none, fun _ => ⟨0, 0⟩⟩

theorem commit_race_counted :
    let s := contestedService .allow
    let m := Intent.create parcel
    let v := ((s.recorded.run m).outcome (World.ofStore ()).recorded).2
    ((s.run m).outcome (.ofStore ())).1 = .error (.refused (.concurrencyConflict 3)) ∧ v.store.conflicts ≤ 3 := by
  intro s m v
  have htry : ∀ w, ∃ u, (s.tryOnce m).outcome w = (.error (.refused (.store (.conflict lostRace))), u) :=
    fun w => ⟨_, rfl⟩
  have hrun : ((s.run m).outcome (.ofStore ())).1 = .error (.refused (.concurrencyConflict 3)) := by
    obtain ⟨_, hfirst⟩ := htry (.ofStore ())
    obtain ⟨_, hsecond⟩ := htry _
    obtain ⟨_, hthird⟩ := htry _
    rw [run, retry_raced hfirst (by decide), retry_raced hsecond (by decide), retry_spent hthird (by decide)]
  obtain ⟨hsame, hreport⟩ := lost_races_reported s m (.ofStore ())
  exact ⟨hrun, (hreport 3 ((congrArg Prod.fst hsame).trans hrun)).1⟩

theorem ground_race_unretried :
    ¬∀ n, (((contestedService .reject).run (.create parcel)).outcome (.ofStore ())).1 =
        .error (.refused (.concurrencyConflict n)) → n = (contestedService .reject).config.retry.attempts := by
  intro h
  have hrun : (((contestedService .reject).run (.create parcel)).outcome (.ofStore ())).1 =
      .error (.refused (.concurrencyConflict 1)) := by
    unfold run
    rw [retry]
    rfl
  exact absurd (h 1 hrun) (by decide)

end Service

end FarmRegistry
