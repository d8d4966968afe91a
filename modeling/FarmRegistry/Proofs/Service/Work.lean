import FarmRegistry.Proofs.Order.Outcomes
import FarmRegistry.Service.Run

namespace FarmRegistry

namespace Work

variable {σ ε δ α β : Type} {P : σ → Prop}

theorem outcome_mk (f : World σ → Except (Stop ε) α × World σ) (w : World σ) :
    outcome (ExceptT.mk f : Work σ ε α) w = f w := rfl

theorem outcome_bind (x : Work σ ε α) (f : α → Work σ ε β) (w : World σ) :
    (x >>= f).outcome w =
      match x.outcome w with
      | (.ok a, w) => (f a).outcome w
      | (.error e, w) => (.error e, w) := by
  change (ExceptT.run (x >>= f) : StateM _ _) w = _
  simp only [outcome, ExceptT.run_bind, StateT.run]
  rcases h : ExceptT.run x w with ⟨r, v⟩
  cases r with
  | ok a => simp only [bind, StateT.bind, h]
  | error e =>
    simp only [bind, StateT.bind, h]
    rfl

theorem outcome_bind_ok {x : Work σ ε α} {f : α → Work σ ε β} {w v : World σ} {a : α}
    (h : x.outcome w = (.ok a, v)) : (x >>= f).outcome w = (f a).outcome v := by
  rw [outcome_bind, h]

theorem outcome_bind_error {x : Work σ ε α} {f : α → Work σ ε β} {w v : World σ} {e : Stop ε}
    (h : x.outcome w = (.error e, v)) : (x >>= f).outcome w = (.error e, v) := by
  rw [outcome_bind, h]

theorem outcome_settled (r : Except (Stop ε) α) (w : World σ) : (settled r).outcome w = (r, w) := rfl

theorem outcome_adapt (f : ε → δ) (x : Work σ ε α) (w : World σ) :
    (adapt f x).outcome w = ((x.outcome w).1.mapError (Stop.map f), (x.outcome w).2) := rfl

theorem outcome_bind_eq_ok_iff {x : Work σ ε α} {f : α → Work σ ε β} {w v : World σ} {b : β} :
    (x >>= f).outcome w = (.ok b, v) ↔ ∃ a u, x.outcome w = (.ok a, u) ∧ (f a).outcome u = (.ok b, v) := by
  rw [outcome_bind]
  rcases x.outcome w with ⟨e | a, u⟩
  · simp
  · constructor
    · exact fun h => ⟨a, u, rfl, h⟩
    · rintro ⟨_, _, h, hf⟩
      cases h
      exact hf

theorem outcome_adapt_eq_ok_iff {f : ε → δ} {x : Work σ ε α} {w v : World σ} {a : α} :
    (adapt f x).outcome w = (.ok a, v) ↔ x.outcome w = (.ok a, v) := by
  rw [outcome_adapt]
  rcases x.outcome w with ⟨r, u⟩
  rw [Prod.mk.injEq, Prod.mk.injEq, mapError_eq_ok_iff]

theorem outcome_now (s : Service σ) (w : World σ) :
    (s.now : Work σ ε Timestamp).outcome w = (.ok (s.clock w.readings), { w with readings := w.readings + 1 }) := rfl

theorem outcome_ask (s : Service σ) (c : Call) (w : World σ) :
    (s.ask c).outcome w =
      ((s.store c w.store).outcome,
        { w with store := (s.store c w.store).state, events := w.events ++ (s.store c w.store).events }) := rfl

def Keeps (P : σ → Prop) (x : Work σ ε α) : Prop :=
  ∀ w, P w.store → P (x.outcome w).2.store

theorem Keeps.pure (a : α) : Keeps P (pure a : Work σ ε α) :=
  fun _ h => h

theorem Keeps.bind {x : Work σ ε α} {f : α → Work σ ε β} (hx : Keeps P x) (hf : ∀ a, Keeps P (f a)) :
    Keeps P (x >>= f) := by
  intro w h
  have hw := hx w h
  rw [outcome_bind]
  split
  · rename_i a v he
    rw [he] at hw
    exact hf a v hw
  · rename_i e v he
    rw [he] at hw
    exact hw

theorem Keeps.settled (r : Except (Stop ε) α) : Keeps P (settled r : Work σ ε α) :=
  fun _ h => h

theorem Keeps.adapt (f : ε → δ) {x : Work σ ε α} (hx : Keeps P x) : Keeps P (adapt f x) :=
  hx

theorem Keeps.attempt {x : Work σ ε α} (hx : Keeps P x) : Keeps P (attempt x : Work σ δ (Except ε α)) := by
  intro w h
  have hw := hx w h
  rw [Work.attempt, outcome_mk]
  split
  all_goals
    rename_i he
    rw [he] at hw
    exact hw

theorem Keeps.refuse (e : ε) : Keeps P (refuse e : Work σ ε α) :=
  fun _ h => h

theorem Keeps.tell (e : Event) : Keeps P (tell e : Work σ ε Unit) :=
  fun _ h => h

theorem Keeps.sleep (d : Delay) : Keeps P (sleep d : Work σ ε Unit) :=
  fun _ h => h

theorem Keeps.now (s : Service σ) : Keeps P (s.now : Work σ ε Timestamp) :=
  fun _ h => h

theorem Keeps.ask {s : Service σ} {c : Call} (h : ∀ t, P t → P (s.store c t).state) : Keeps P (s.ask c) :=
  fun w hw => h w.store hw

end Work

namespace Service

open Work

variable {σ : Type} {P : σ → Prop} {s : Service σ}

theorem keeps_overlapping (hlist : ∀ b t, P t → P (s.store (.listActiveFarms b) t).state) (p : Polygon)
    (exclude : Option FarmId) : Keeps P (s.overlapping p exclude) := by
  refine Keeps.bind ?_ ?_
  · exact Keeps.adapt _ (Keeps.ask (hlist _))
  · intro farms
    exact Keeps.pure _

theorem keeps_repair (hreconcile : ∀ i t, P t → P (s.store (.reconcileFarmer i) t).state) (i : FarmerId) :
    Keeps P (s.repair i) := by
  refine Keeps.bind ?_ ?_
  · exact Keeps.adapt _ (Keeps.ask (hreconcile i))
  · intro farmer
    exact Keeps.tell _

theorem keeps_backOff (m : Intent) (conflicts : Nat) (detail : String) : Keeps P (s.backOff m conflicts detail) := by
  refine Keeps.bind (Keeps.now s) ?_
  intro now
  refine Keeps.bind (Keeps.tell _) ?_
  intro _
  exact Keeps.sleep _

theorem keeps_retry {m : Intent} (htry : Keeps P (s.tryOnce m))
    (hreconcile : ∀ i t, P t → P (s.store (.reconcileFarmer i) t).state) (conflicts : Nat) (repaired : Bool) :
    Keeps P (s.retry m conflicts repaired) := by
  induction conflicts, repaired using retry.induct (s := s) with
  | case1 conflicts repaired ihConflict ihRepair =>
    rw [retry]
    refine Keeps.bind htry.attempt ?_
    intro r
    match r with
    | .ok farm => exact Keeps.pure _
    | .error (.final e) => exact Keeps.refuse _
    | .error (.store (.conflict detail)) =>
      by_cases hspent : s.config.retry.attempts ≤ conflicts + 1
      · simp only [hspent, ↓reduceDIte]
        refine Keeps.bind (Keeps.tell _) ?_
        intro _
        exact Keeps.refuse _
      · simp only [hspent, ↓reduceDIte]
        refine Keeps.bind (keeps_backOff m _ _) ?_
        intro _
        exact ihConflict hspent
    | .error (.store (.negativeAggregate i)) =>
      refine Keeps.bind (Keeps.tell _) ?_
      intro _
      by_cases hrepaired : repaired
      · simp only [hrepaired]
        exact Keeps.refuse _
      · simp only [hrepaired]
        refine Keeps.bind (keeps_repair hreconcile i) ?_
        intro _
        exact ihRepair hrepaired
    | .error (.store (.connection m)) => exact Keeps.refuse _
    | .error (.store (.query m)) => exact Keeps.refuse _
    | .error (.store (.farmNotFound i)) => exact Keeps.refuse _
    | .error (.store (.farmerNotFound i)) => exact Keeps.refuse _

end Service

end FarmRegistry
