import FarmRegistry.Proofs.Sql.Server
import FarmRegistry.Sql.Store

namespace FarmRegistry.Sql

namespace Session

variable {δ ε ζ α β : Type} {db : Database δ} {view : δ → Server}

/-- Started on one server, a computation comes to an outcome and a server that stand in a relation. -/
def Leads (view : δ → Server) (x : Session δ ε α) (before : Server) (P : Except (Stop ε) α → Server → Prop) : Prop :=
  ∀ c, view c.state = before → P (x.outcome c).1 (view (x.outcome c).2.state)

namespace Leads

variable {before : Server} {P Q : Except (Stop ε) α → Server → Prop} {R : Except (Stop ε) β → Server → Prop}

theorem imp {x : Session δ ε α} (hx : Leads view x before P) (h : ∀ r after, P r after → Q r after) :
    Leads view x before Q :=
  fun c hc => h _ _ (hx c hc)

theorem settled {r : Except (Stop ε) α} (h : P r before) : Leads view (settled r) before P := by
  intro c hc
  rw [outcome_settled, hc]
  exact h

theorem tell {P : Except (Stop ε) Unit → Server → Prop} (e : Event) (h : P (.ok ()) before) :
    Leads view (tell e : Session δ ε Unit) before P := by
  intro c hc
  rw [outcome_tell, hc]
  exact h

theorem bind {x : Session δ ε α} {f : α → Session δ ε β} (hx : Leads view x before P)
    (hstop : ∀ e after, P (.error e) after → R (.error e) after)
    (hf : ∀ a mid, P (.ok a) mid → Leads view (f a) mid R) : Leads view (x >>= f) before R := by
  intro c hc
  have hp := hx c hc
  rw [outcome_bind]
  rcases h : x.outcome c with ⟨e | a, d⟩
  all_goals rw [h] at hp
  · exact hstop e _ hp
  · exact hf a _ hp d rfl

theorem bind_ok {x : Session δ ε α} {f : α → Session δ ε β} {a : α} {mid : Server}
    (hx : Leads view x before fun r after => r = .ok a ∧ after = mid) (hf : Leads view (f a) mid R) :
    Leads view (x >>= f) before R := by
  refine .bind hx ?_ ?_
  · rintro e after ⟨he, _⟩
    cases he
  · rintro _ _ ⟨ha, rfl⟩
    cases ha
    exact hf

theorem settled_bind {r : Except (Stop ε) α} {f : α → Session δ ε β} (hstop : ∀ e, r = .error e → R (.error e) before)
    (hf : ∀ a, r = .ok a → Leads view (f a) before R) : Leads view (Session.settled r >>= f) before R := by
  intro c hc
  rw [outcome_bind, outcome_settled]
  cases r with
  | error e =>
    change R (.error e) (view c.state)
    rw [hc]
    exact hstop e rfl
  | ok a => exact hf a rfl c hc

theorem attempt {P : Except (Stop ζ) (Except (Stop ε) α) → Server → Prop} {x : Session δ ε α}
    (hx : Leads view x before fun r => P (.ok r)) : Leads view (attempt x : Session δ ζ _) before P := by
  intro c hc
  rw [outcome_attempt]
  exact hx c hc

theorem explained {P : Except (Stop StoreError) α → Server → Prop} (f : QueryError → StoreError)
    {x : Session δ QueryError α} (hx : Leads view x before fun r => P (r.mapError (Stop.map f))) :
    Leads view (explained f x) before P := by
  refine .bind (.attempt (P := fun r after => ∃ s, r = .ok s ∧ P (s.mapError (Stop.map f)) after) ?_) ?_ ?_
  · exact hx.imp fun r after h => ⟨r, rfl, h⟩
  · rintro e after ⟨s, hs, _⟩
    cases hs
  · rintro r mid ⟨_, hs, hp⟩
    cases hs
    match r with
    | .ok a => exact .settled hp
    | .error (.refused e) => exact .bind_ok (.tell e.event ⟨rfl, rfl⟩) (.settled hp)
    | .error (.overflow o) => exact .settled hp

variable {s : Statement} {t u : Tables} {x : Session δ QueryError α} {read : Answer → Except (Stop QueryError) α}
  {P : Except (Stop QueryError) α → Server → Prop}

theorem asks (hdb : Postgres db view) (hx : Asks db s read x) (hs : s.IsQuery)
    (h : ∀ a u, Executes t s a u → P (a.outcome >>= read) ⟨u, .idle⟩) : Leads view x ⟨t, .idle⟩ P := by
  intro c hc
  obtain ⟨u, hmeaning, hafter⟩ := hdb.executes s c.state hs (congrArg Server.phase hc)
  rw [hc] at hmeaning
  rw [hx c]
  change P _ (view (db s c.state).2)
  rw [hafter]
  exact h _ u hmeaning

theorem asksWithin (hdb : Postgres db view) (hx : Asks db s read x) (hs : s.IsQuery)
    (h : ∀ a v, Executes u s a v → P (a.outcome >>= read) ⟨t, .after v a⟩) : Leads view x ⟨t, .working u⟩ P := by
  intro c hc
  obtain ⟨v, hmeaning, hafter⟩ := hdb.executesWithin s c.state u hs (congrArg Server.phase hc)
  rw [hc] at hafter
  rw [hx c]
  change P _ (view (db s c.state).2)
  rw [hafter]
  exact h _ v hmeaning

theorem begins (hdb : Postgres db view) {P : Except (Stop QueryError) Unit → Server → Prop}
    (h : P (.ok ()) ⟨t, .working t⟩) : Leads view (act db .begin) ⟨t, .idle⟩ P := by
  intro c hc
  obtain ⟨hsound, hafter⟩ := hdb.begins c.state (congrArg Server.phase hc)
  rw [asks_act db .begin c, Answer.outcome_of_sound hsound]
  change P _ (view (db .begin c.state).2)
  rw [hafter, hc]
  exact h

theorem commits (hdb : Postgres db view) {P : Except (Stop QueryError) Unit → Server → Prop}
    (h : P (.ok ()) ⟨u, .idle⟩) : Leads view (act db .commit) ⟨t, .working u⟩ P := by
  intro c hc
  obtain ⟨hsound, hafter⟩ := hdb.commits c.state u (congrArg Server.phase hc)
  rw [asks_act db .commit c, Answer.outcome_of_sound hsound]
  change P _ (view (db .commit c.state).2)
  rw [hafter]
  exact h

theorem rollsBack (hdb : Postgres db view) {phase : Phase} (hphase : phase ≠ .idle)
    {P : Except (Stop QueryError) Unit → Server → Prop} (h : P (.ok ()) ⟨t, .idle⟩) :
    Leads view (act db .rollback) ⟨t, phase⟩ P := by
  intro c hc
  have hopen : (view c.state).phase ≠ .idle := by
    rw [hc]
    exact hphase
  obtain ⟨hsound, hafter⟩ := hdb.rollsBack c.state hopen
  rw [asks_act db .rollback c, Answer.outcome_of_sound hsound]
  change P _ (view (db .rollback c.state).2)
  rw [hafter, hc]
  exact h

section Transaction

variable {P Q : Except (Stop StoreError) β → Server → Prop} {before : Server}

theorem queried {x : Session δ QueryError β}
    (hx : Leads view x before fun r => P (r.mapError (Stop.map QueryError.storeError))) :
    Leads view (adapt TransactionError.storeError (Sql.queried x)) before P := by
  rw [Sql.queried, adapt_query]
  exact hx

theorem owned {i : FarmerId} {x : Session δ QueryError β}
    (hx : Leads view x before fun r => P (r.mapError (Stop.map (QueryError.writeError i)))) :
    Leads view (adapt TransactionError.storeError (Sql.owned i x)) before P := by
  rw [Sql.owned, adapt_store]
  exact .explained _ hx

theorem concluded {x : Session δ TransactionError β}
    (hx : Leads view (adapt TransactionError.storeError x) before P) : Leads view (concluded x) before P := by
  intro c hc
  obtain ⟨hsame, hstate⟩ := outcome_concluded x c
  rw [hsame, hstate]
  exact hx c hc

theorem transaction (hdb : Postgres db view) {work : Session δ TransactionError β}
    (hwork : Leads view (adapt TransactionError.storeError work) ⟨t, .working t⟩ Q)
    (hdone : ∀ b after, Q (.ok b) after → ∃ u, after = ⟨t, .working u⟩ ∧ P (.ok b) ⟨u, .idle⟩)
    (hrefused : ∀ e after, Q (.error (.refused e)) after →
      ∃ phase, phase ≠ .idle ∧ after = ⟨t, phase⟩ ∧ P (.error (.refused e)) ⟨t, .idle⟩)
    (hoverflow : ∀ o after, Q (.error (.overflow o)) after → P (.error (.overflow o)) after) :
    Leads view (Session.concluded (transaction db .query work)) ⟨t, .idle⟩ P := by
  have hattempt : Leads view (adapt TransactionError.storeError (Session.attempt work)) ⟨t, .working t⟩
      fun r after => ∃ s, r = .ok s ∧ Q (s.mapError (Stop.map TransactionError.storeError)) after :=
    fun c hc => ⟨_, rfl, hwork c hc⟩
  refine .concluded ?_
  rw [Session.transaction, adapt_bind]
  refine .bind_ok (.queried (.begins hdb ⟨rfl, rfl⟩)) ?_
  rw [adapt_bind]
  refine .bind hattempt ?_ ?_
  · rintro e after ⟨s, hs, _⟩
    cases hs
  · rintro r after ⟨_, hs, hq⟩
    cases hs
    match r with
    | .ok b =>
      obtain ⟨u, rfl, hp⟩ := hdone b after hq
      change Leads _ (adapt _ (adapt _ _ >>= _)) _ _
      rw [adapt_bind]
      exact .bind_ok (.queried (.commits hdb ⟨rfl, rfl⟩)) (.settled hp)
    | .error (.refused e) =>
      obtain ⟨phase, hphase, rfl, hp⟩ := hrefused _ after hq
      change Leads _ (adapt _ (adapt _ _ >>= _)) _ _
      rw [adapt_bind]
      exact .bind_ok (.queried (.rollsBack hdb hphase ⟨rfl, rfl⟩)) (.settled hp)
    | .error (.overflow o) => exact .settled (hoverflow o after hq)

end Transaction

end Leads

end Session

end FarmRegistry.Sql
