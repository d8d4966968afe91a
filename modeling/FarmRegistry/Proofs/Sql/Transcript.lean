import FarmRegistry.Proofs.Sql.Session
import FarmRegistry.Sql.Store

namespace FarmRegistry.Sql

structure Turn where
  statement : Statement
  answer : Answer

structure Watched (δ : Type) where
  inner : δ
  log : List Turn

section Watched

variable {δ : Type}

def Watched.database (db : Database δ) : Database (Watched δ) := fun s w =>
  ((db s w.inner).1, ⟨(db s w.inner).2, w.log ++ [⟨s, (db s w.inner).1⟩]⟩)

def Connection.bare (c : Connection (Watched δ)) : Connection δ :=
  ⟨c.state.inner, c.events⟩

end Watched

namespace Session

variable {δ ε ζ α β : Type}

def Mirrors (x : Session (Watched δ) ε α) (y : Session δ ε α) : Prop :=
  ∀ c, ((x.outcome c).1, (x.outcome c).2.bare) = y.outcome c.bare

namespace Mirrors

theorem pure (a : α) : Mirrors (pure a : Session (Watched δ) ε α) (pure a) :=
  fun _ => rfl

theorem bind {x : Session (Watched δ) ε α} {y : Session δ ε α} {f : α → Session (Watched δ) ε β}
    {g : α → Session δ ε β} (hx : Mirrors x y) (hf : ∀ a, Mirrors (f a) (g a)) : Mirrors (x >>= f) (y >>= g) := by
  intro c
  rw [outcome_bind, outcome_bind, ← hx c]
  rcases x.outcome c with ⟨e | a, d⟩
  · rfl
  · exact hf a d

theorem refuse (e : ε) : Mirrors (refuse e : Session (Watched δ) ε α) (refuse e) :=
  fun _ => rfl

theorem settled (r : Except (Stop ε) α) : Mirrors (settled r : Session (Watched δ) ε α) (settled r) :=
  fun _ => rfl

theorem tell (e : Event) : Mirrors (tell e : Session (Watched δ) ε Unit) (tell e) :=
  fun _ => rfl

theorem attempt {x : Session (Watched δ) ε α} {y : Session δ ε α} (hx : Mirrors x y) :
    Mirrors (attempt x : Session _ ζ _) (attempt y) := by
  intro c
  rw [outcome_attempt, outcome_attempt, ← hx c]

theorem send (db : Database δ) (s : Statement) :
    Mirrors (send (Watched.database db) s : Session _ ε _) (send db s) :=
  fun _ => rfl

theorem query (db : Database δ) (s : Statement) : Mirrors (query (Watched.database db) s) (query db s) := by
  refine .bind (.send db s) ?_
  intro a
  cases a with
  | failed f => exact .refuse _
  | rows rs => exact .pure _
  | affected n => exact .pure _

theorem count (db : Database δ) (s : Statement) : Mirrors (count (Watched.database db) s) (count db s) :=
  .bind (.query db s) fun _ => .pure _

theorem act (db : Database δ) (s : Statement) : Mirrors (act (Watched.database db) s) (act db s) :=
  .bind (.query db s) fun _ => .pure _

theorem decodeRow (read : Row → Option α) (r : Row) :
    Mirrors (decodeRow read r : Session (Watched δ) _ _) (decodeRow read r) := by
  unfold Session.decodeRow
  cases read r with
  | none => exact .refuse _
  | some a => exact .pure a

theorem first? (db : Database δ) (read : Row → Option α) (s : Statement) :
    Mirrors (first? (Watched.database db) read s) (first? db read s) := by
  refine .bind (.query db s) ?_
  intro a
  cases a.toRows.head? with
  | none => exact .pure none
  | some r => exact .bind (.decodeRow read r) fun _ => .pure _

theorem first (db : Database δ) (read : Row → Option α) (s : Statement) :
    Mirrors (first (Watched.database db) read s) (first db read s) := by
  refine .bind (.first? db read s) ?_
  intro a
  cases a with
  | none => exact .refuse _
  | some a => exact .pure a

theorem all (db : Database δ) (read : Row → Option α) (s : Statement) :
    Mirrors (all (Watched.database db) read s) (all db read s) := by
  refine .bind (.query db s) ?_
  intro a
  induction a.toRows with
  | nil => exact .pure []
  | cons r rows ih =>
    rw [List.mapM_cons, List.mapM_cons]
    exact .bind (.decodeRow read r) fun _ => .bind ih fun _ => .pure _

theorem explained (f : QueryError → StoreError) {x : Session (Watched δ) QueryError α} {y : Session δ QueryError α}
    (hx : Mirrors x y) : Mirrors (explained f x) (explained f y) := by
  refine .bind hx.attempt ?_
  intro r
  match r with
  | .ok a => exact .pure a
  | .error (.refused e) => exact .bind (.tell _) fun _ => .refuse _
  | .error (.overflow o) => exact .settled (.error (.overflow o))

theorem forM {l : List ζ} {f : ζ → Session (Watched δ) ε Unit} {g : ζ → Session δ ε Unit}
    (h : ∀ a, Mirrors (f a) (g a)) : Mirrors (l.forM f) (l.forM g) := by
  induction l with
  | nil => exact .pure _
  | cons a l ih => exact .bind (h a) fun _ => ih

theorem adapt (f : ε → ζ) {x : Session (Watched δ) ε α} {y : Session δ ε α} (hx : Mirrors x y) :
    Mirrors (adapt f x) (adapt f y) := by
  intro c
  change (((x.outcome c).1.mapError _, (x.outcome c).2.bare) : Except _ _ × _) =
    ((y.outcome c.bare).1.mapError _, (y.outcome c.bare).2)
  rw [← hx c]

theorem transaction {db : Database δ} (f : QueryError → ε) {x : Session (Watched δ) ε α} {y : Session δ ε α}
    (hx : Mirrors x y) : Mirrors (transaction (Watched.database db) f x) (transaction db f y) := by
  refine .bind (.adapt f (.act db .begin)) ?_
  intro _
  refine .bind hx.attempt ?_
  intro r
  match r with
  | .ok a => exact .bind (.adapt f (.act db .commit)) fun _ => .pure a
  | .error (.refused e) => exact .bind (.adapt f (.act db .rollback)) fun _ => .refuse e
  | .error (.overflow o) => exact .settled (.error (.overflow o))

theorem concluded {x : Session (Watched δ) TransactionError α} {y : Session δ TransactionError α}
    (hx : Mirrors x y) : Mirrors (concluded x) (concluded y) := by
  refine .bind hx.attempt ?_
  intro r
  match r with
  | .ok a => exact .pure a
  | .error (.refused (.query e)) => exact .bind (.tell _) fun _ => .refuse _
  | .error (.refused (.store e)) => exact .refuse _
  | .error (.overflow o) => exact .settled (.error (.overflow o))

end Mirrors

def Speaks (P : List Turn → Except (Stop ε) α → Prop) (x : Session (Watched δ) ε α) : Prop :=
  ∀ c, ∃ turns, (x.outcome c).2.state.log = c.state.log ++ turns ∧ P turns (x.outcome c).1

namespace Speaks

variable {P Q : List Turn → Except (Stop ε) α → Prop}

theorem imp {x : Session (Watched δ) ε α} (hx : Speaks P x) (h : ∀ turns r, P turns r → Q turns r) : Speaks Q x := by
  intro c
  obtain ⟨turns, hlog, hp⟩ := hx c
  exact ⟨turns, hlog, h _ _ hp⟩

theorem settled {r : Except (Stop ε) α} (h : P [] r) : Speaks P (settled r : Session (Watched δ) ε α) :=
  fun _ => ⟨[], (List.append_nil _).symm, h⟩

theorem tell {P : List Turn → Except (Stop ε) Unit → Prop} (e : Event) (h : P [] (.ok ())) :
    Speaks P (tell e : Session (Watched δ) ε Unit) :=
  fun _ => ⟨[], (List.append_nil _).symm, h⟩

theorem bind {R : List Turn → Except (Stop ε) β → Prop} {x : Session (Watched δ) ε α}
    {f : α → Session (Watched δ) ε β} (hx : Speaks P x) (hstop : ∀ turns e, P turns (.error e) → R turns (.error e))
    (hf : ∀ a turns, P turns (.ok a) → Speaks (fun later => R (turns ++ later)) (f a)) : Speaks R (x >>= f) := by
  intro c
  obtain ⟨turns, hlog, hp⟩ := hx c
  rw [outcome_bind]
  rcases h : x.outcome c with ⟨e | a, d⟩
  all_goals rw [h] at hlog hp
  · exact ⟨turns, hlog, hstop turns e hp⟩
  · obtain ⟨later, hlater, hr⟩ := hf a turns hp d
    refine ⟨turns ++ later, ?_, hr⟩
    rw [hlater, hlog, List.append_assoc]

theorem attempt {P : List Turn → Except (Stop ε) α → Prop} {x : Session (Watched δ) ε α} (hx : Speaks P x) :
    Speaks (fun turns r => ∃ s, r = .ok s ∧ P turns s) (attempt x : Session _ ζ _) := by
  intro c
  obtain ⟨turns, hlog, hp⟩ := hx c
  exact ⟨turns, hlog, _, rfl, hp⟩

theorem asks {db : Database δ} {s : Statement} {read : Answer → Except (Stop QueryError) α}
    {x : Session (Watched δ) QueryError α} (h : Asks (Watched.database db) s read x) :
    Speaks (fun turns r => ∃ a, turns = [⟨s, a⟩] ∧ r = a.outcome >>= read) x := by
  intro c
  rw [h c]
  exact ⟨[_], rfl, _, rfl, rfl⟩

theorem explained (f : QueryError → StoreError) {P : List Turn → Except (Stop QueryError) α → Prop}
    {x : Session (Watched δ) QueryError α} (hx : Speaks P x) :
    Speaks (fun turns r => ∃ s, P turns s ∧ r = s.mapError (Stop.map f)) (explained f x) := by
  refine .bind hx.attempt ?_ ?_
  · rintro turns e ⟨s, hs, _⟩
    cases hs
  · rintro s turns ⟨_, hs, hp⟩
    cases hs
    match s with
    | .ok a => exact .settled ⟨_, (List.append_nil turns).symm ▸ hp, rfl⟩
    | .error (.refused e) =>
      refine .bind (.tell e.event (P := fun later r => later = [] ∧ r = .ok ()) ⟨rfl, rfl⟩) ?_ ?_
      · rintro later d ⟨_, hd⟩
        cases hd
      · rintro _ later ⟨rfl, _⟩
        exact .settled ⟨_, by simpa using hp, rfl⟩
    | .error (.overflow o) => exact .settled ⟨_, (List.append_nil turns).symm ▸ hp, rfl⟩

theorem concluded {P : List Turn → Except (Stop StoreError) α → Prop} {x : Session (Watched δ) TransactionError α}
    (hx : Speaks P (Session.adapt TransactionError.storeError x)) : Speaks P (concluded x) := by
  intro c
  obtain ⟨hsame, hstate⟩ := outcome_concluded x c
  rw [hsame, hstate]
  exact hx c

end Speaks

end Session

end FarmRegistry.Sql
