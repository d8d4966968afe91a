import FarmRegistry.Proofs.Service.Course
import FarmRegistry.Proofs.Service.Operations

namespace FarmRegistry

structure Exchange where
  call : Call
  outcome : Except (Stop StoreError) call.Answer

/-- A store and all that was asked of it, with the answers. -/
structure Recorded (σ : Type) where
  inner : σ
  log : List Exchange

section Recorded

variable {σ : Type}

def Recorded.store (inner : Store σ) : Store (Recorded σ) := fun c r =>
  let reply := inner c r.inner
  ⟨reply.outcome, ⟨reply.state, r.log ++ [⟨c, reply.outcome⟩]⟩, reply.events⟩

def World.recorded (w : World σ) : World (Recorded σ) :=
  ⟨⟨w.store, []⟩, w.readings, w.sleeps, w.events⟩

def World.bare (w : World (Recorded σ)) : World σ :=
  ⟨w.store.inner, w.readings, w.sleeps, w.events⟩

def Service.recorded (s : Service σ) : Service (Recorded σ) :=
  ⟨Recorded.store s.store, s.config, s.jitter, s.clock⟩

end Recorded

namespace Work

variable {σ ε δ α β : Type}

def Mirrors (x : Work (Recorded σ) ε α) (y : Work σ ε α) : Prop :=
  ∀ w, ((x.outcome w).1, (x.outcome w).2.bare) = y.outcome w.bare

namespace Mirrors

theorem pure (a : α) : Mirrors (pure a : Work (Recorded σ) ε α) (pure a) :=
  fun _ => rfl

theorem bind {x : Work (Recorded σ) ε α} {y : Work σ ε α} {f : α → Work (Recorded σ) ε β} {g : α → Work σ ε β}
    (hx : Mirrors x y) (hf : ∀ a, Mirrors (f a) (g a)) : Mirrors (x >>= f) (y >>= g) := by
  intro w
  rw [outcome_bind, outcome_bind, ← hx w]
  rcases x.outcome w with ⟨r, v⟩
  cases r with
  | ok a => exact hf a v
  | error e => rfl

theorem settled (r : Except (Stop ε) α) : Mirrors (settled r : Work (Recorded σ) ε α) (settled r) :=
  fun _ => rfl

theorem adapt (f : ε → δ) {x : Work (Recorded σ) ε α} {y : Work σ ε α} (hx : Mirrors x y) :
    Mirrors (adapt f x) (adapt f y) := by
  intro w
  rw [outcome_adapt, outcome_adapt, ← hx w]

theorem attempt {x : Work (Recorded σ) ε α} {y : Work σ ε α} (hx : Mirrors x y) :
    Mirrors (attempt x : Work _ δ _) (attempt y) := by
  intro w
  rw [Work.attempt, Work.attempt, outcome_mk, outcome_mk, ← hx w]
  rcases x.outcome w with ⟨r, v⟩
  rcases r with (e | o) | a <;> rfl

theorem refuse (e : ε) : Mirrors (refuse e : Work (Recorded σ) ε α) (refuse e) :=
  fun _ => rfl

theorem tell (e : Event) : Mirrors (tell e : Work (Recorded σ) ε Unit) (tell e) :=
  fun _ => rfl

theorem sleep (d : Delay) : Mirrors (sleep d : Work (Recorded σ) ε Unit) (sleep d) :=
  fun _ => rfl

theorem now (s : Service σ) : Mirrors (s.recorded.now : Work _ ε _) s.now :=
  fun _ => rfl

theorem ask (s : Service σ) (c : Call) : Mirrors (s.recorded.ask c) (s.ask c) :=
  fun _ => rfl

end Mirrors

end Work

namespace Service

open Work

variable {σ : Type} (s : Service σ) (m : Intent)

theorem overlapping_recorded (p : Polygon) (exclude : Option FarmId) :
    Mirrors (s.recorded.overlapping p exclude) (s.overlapping p exclude) := by
  refine .bind (.adapt _ (.ask s _)) ?_
  intro farms
  exact .pure _

theorem checkGround_recorded (f : Farm) : Mirrors (s.recorded.checkGround f) (s.checkGround f) := by
  unfold checkGround
  by_cases hreject : s.config.overlaps = .reject
  · have hrecorded : s.recorded.config.overlaps = .reject := hreject
    rw [if_pos hreject, if_pos hrecorded]
    refine .bind (s.overlapping_recorded _ _) ?_
    intro ids
    cases ids with
    | nil => exact .pure _
    | cons i is => exact .refuse _
  · have hrecorded : s.recorded.config.overlaps ≠ .reject := hreject
    rw [if_neg hreject, if_neg hrecorded]
    exact .pure _

theorem draft_recorded : Mirrors (s.recorded.draft m) (s.draft m) := by
  have hcurrent : Mirrors (s.recorded.current m) (s.current m) := by
    cases m with
    | create f => exact .pure none
    | _ => exact .ask s _
  refine .bind (.adapt _ hcurrent) ?_
  intro farm
  refine .bind (.now s) ?_
  intro now
  refine .bind (.adapt _ (.settled _)) ?_
  intro plan
  refine .bind ?_ fun _ => .pure plan
  cases m.claimant? plan with
  | none => exact .pure _
  | some f => exact .adapt _ (s.checkGround_recorded f)

theorem carryOut_recorded (plan : Plan) : Mirrors (s.recorded.carryOut m plan) (s.carryOut m plan) := by
  cases plan with
  | unchanged f => exact .bind (.tell _) fun _ => .pure _
  | commit c result =>
    refine .bind (.adapt _ (.ask s _)) ?_
    intro _
    exact .bind (.tell _) fun _ => .pure _

theorem tryOnce_recorded : Mirrors (s.recorded.tryOnce m) (s.tryOnce m) := by
  rw [tryOnce_eq, tryOnce_eq]
  exact .bind (s.draft_recorded m) (s.carryOut_recorded m)

theorem retry_recorded (conflicts : Nat) (repaired : Bool) :
    Mirrors (s.recorded.retry m conflicts repaired) (s.retry m conflicts repaired) := by
  induction conflicts, repaired using retry.induct (s := s) with
  | case1 conflicts repaired ihConflict ihRepair =>
    rw [retry.eq_def s.recorded, retry.eq_def s]
    refine .bind (s.tryOnce_recorded m).attempt ?_
    rintro (⟨e | e⟩ | farm)
    · exact .refuse _
    · cases e with
      | conflict detail =>
        have hconfig : s.recorded.config = s.config := rfl
        simp only [hconfig]
        by_cases hspent : s.config.retry.attempts ≤ conflicts + 1
        · simp only [hspent, ↓reduceDIte]
          exact .bind (.tell _) fun _ => .refuse _
        · simp only [hspent, ↓reduceDIte]
          refine .bind ?_ fun _ => ihConflict hspent
          refine .bind (.now s) ?_
          intro now
          exact .bind (.tell _) fun _ => .sleep _
      | negativeAggregate i =>
        refine .bind (.tell _) ?_
        intro _
        by_cases hrepaired : repaired
        · simp only [hrepaired]
          exact .refuse _
        · simp only [hrepaired]
          refine .bind ?_ fun _ => ihRepair hrepaired
          refine .bind (.adapt _ (.ask s _)) ?_
          intro farmer
          exact .tell _
      | _ => exact .refuse _
    · exact .pure _

theorem run_recorded : Mirrors (s.recorded.run m) (s.run m) :=
  s.retry_recorded m 0 false

theorem runToFarm_recorded : Mirrors (s.recorded.runToFarm m) (s.runToFarm m) := by
  refine .bind (s.run_recorded m) ?_
  intro farm
  cases farm with
  | none => exact .refuse _
  | some f => exact .pure f

theorem perform_recorded (o : Operation) : Mirrors (s.recorded.perform o) (s.perform o) := by
  cases o with
  | registerFarmer i => exact .adapt _ (.ask s _)
  | create i r =>
    refine .bind (.settled _) ?_
    intro polygon
    exact .bind (.now s) fun _ => s.runToFarm_recorded _
  | reshape r => exact .bind (.settled _) fun _ => s.runToFarm_recorded _
  | retire i => exact s.runToFarm_recorded _
  | restore i => exact s.runToFarm_recorded _
  | erase i => exact .bind (s.run_recorded _) fun _ => .pure _
  | reassign r => exact s.runToFarm_recorded _
  | reconcileFarmer i =>
    refine .bind (.adapt _ (.ask s _)) ?_
    intro farmer
    exact .bind (.tell _) fun _ => .pure _
  | farm i =>
    refine .bind (.adapt _ (.ask s _)) ?_
    intro farm
    cases farm with
    | none => exact .refuse _
    | some f => exact .pure f
  | farmer i =>
    refine .bind (.adapt _ (.ask s _)) ?_
    intro farmer
    cases farmer with
    | none => exact .refuse _
    | some f => exact .pure f
  | overlappingFarms r => exact .bind (.settled _) fun _ => s.overlapping_recorded _ _
  | allOverlaps =>
    refine .bind (.adapt _ (.ask s _)) ?_
    intro farms
    exact .bind (.tell _) fun _ => .pure _
  | rebuildIndex =>
    refine .bind (.adapt _ (.ask s _)) ?_
    intro _
    exact .tell _

end Service

end FarmRegistry
