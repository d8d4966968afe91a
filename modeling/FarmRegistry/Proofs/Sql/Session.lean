import FarmRegistry.Proofs.Order.Outcomes
import FarmRegistry.Sql.Session

namespace FarmRegistry.Sql

def Answer.failure? : Answer → Option Failure
  | .failed f => some f
  | _ => none

def Answer.outcome (a : Answer) : Except (Stop QueryError) Answer :=
  match a.failure? with
  | some f => .error (.refused (.failed f))
  | none => .ok a

def Answer.first? {α : Type} (read : Row → Option α) (a : Answer) : Except (Stop QueryError) (Option α) :=
  match a.toRows.head? with
  | none => .ok none
  | some r =>
    match read r with
    | none => .error (.refused .unexpectedNull)
    | some v => .ok (some v)

def Answer.first {α : Type} (read : Row → Option α) (a : Answer) : Except (Stop QueryError) α :=
  match a.first? read with
  | .ok (some v) => .ok v
  | .ok none => .error (.refused .noRecord)
  | .error e => .error e

def Row.decoded {α : Type} (read : Row → Option α) (r : Row) : Except (Stop QueryError) α :=
  match read r with
  | some a => .ok a
  | none => .error (.refused .unexpectedNull)

theorem Row.decoded_eq_ok_iff {α : Type} {read : Row → Option α} {r : Row} {a : α} :
    r.decoded read = .ok a ↔ read r = some a := by
  unfold decoded
  cases read r with
  | none => exact iff_of_false nofun nofun
  | some v => simp

theorem Row.decoded_eq_error_iff {α : Type} {read : Row → Option α} {r : Row} {e : Stop QueryError} :
    r.decoded read = .error e ↔ read r = none ∧ e = .refused .unexpectedNull := by
  unfold decoded
  cases read r with
  | none => simp [eq_comm]
  | some v => simp

def Answer.all {α : Type} (read : Row → Option α) (a : Answer) : Except (Stop QueryError) (List α) :=
  a.toRows.mapM (Row.decoded read)

section Readings

variable {α : Type} {read : Row → Option α} {a : Answer} {e : Stop QueryError}

theorem Answer.first?_eq_ok_iff {v : Option α} :
    a.first? read = .ok v ↔ a.toRows.head?.map read = v.map some := by
  unfold first?
  cases a.toRows.head? with
  | none => cases v <;> simp
  | some r => cases hread : read r <;> cases v <;> simp [hread]

theorem Answer.first?_eq_error_iff :
    a.first? read = .error e ↔ a.toRows.head?.map read = some none ∧ e = .refused .unexpectedNull := by
  unfold first?
  cases a.toRows.head? with
  | none => simp
  | some r => cases hread : read r <;> simp [hread, eq_comm]

theorem Answer.first_eq_error (h : a.first read = .error e) :
    (a.toRows.head? = none ∧ e = .refused .noRecord) ∨
      (a.toRows.head?.map read = some none ∧ e = .refused .unexpectedNull) := by
  unfold first at h
  cases hfirst : a.first? read with
  | error d =>
    rw [hfirst] at h
    cases h
    exact .inr (first?_eq_error_iff.mp hfirst)
  | ok v =>
    cases v with
    | none =>
      rw [hfirst] at h
      cases h
      exact .inl ⟨Option.map_eq_none_iff.mp (first?_eq_ok_iff.mp hfirst), rfl⟩
    | some v =>
      rw [hfirst] at h
      cases h

theorem Answer.all_eq_ok_iff {vs : List α} :
    a.all read = .ok vs ↔ List.Forall₂ (fun row v => read row = some v) a.toRows vs := by
  simp only [all, mapM_eq_ok_iff, Row.decoded_eq_ok_iff]

theorem Answer.all_eq_error (h : a.all read = .error e) :
    (∃ row ∈ a.toRows, read row = none) ∧ e = .refused .unexpectedNull := by
  obtain ⟨row, hrow, hdecoded⟩ := mapM_eq_error h
  obtain ⟨hnull, he⟩ := Row.decoded_eq_error_iff.mp hdecoded
  exact ⟨⟨row, hrow, hnull⟩, he⟩

end Readings

theorem Answer.outcome_of_sound {a : Answer} (h : a.failure? = none) : a.outcome = .ok a := by
  rw [outcome, h]

theorem Answer.outcome_of_failure {a : Answer} {f : Failure} (h : a.failure? = some f) :
    a.outcome = .error (.refused (.failed f)) := by
  rw [outcome, h]

namespace Session

variable {δ ε ζ α β : Type}

theorem outcome_bind (x : Session δ ε α) (f : α → Session δ ε β) (c : Connection δ) :
    (x >>= f).outcome c =
      match x.outcome c with
      | (.ok a, d) => (f a).outcome d
      | (.error e, d) => (.error e, d) := by
  change (ExceptT.run (x >>= f) : StateM _ _) c = _
  simp only [outcome, ExceptT.run_bind, StateT.run]
  rcases h : ExceptT.run x c with ⟨r, d⟩
  cases r with
  | ok a => simp only [bind, StateT.bind, h]
  | error e =>
    simp only [bind, StateT.bind, h]
    rfl

theorem outcome_bind_ok {x : Session δ ε α} {f : α → Session δ ε β} {c d : Connection δ} {a : α}
    (h : x.outcome c = (.ok a, d)) : (x >>= f).outcome c = (f a).outcome d := by
  rw [outcome_bind, h]

theorem outcome_settled (r : Except (Stop ε) α) (c : Connection δ) : (settled r).outcome c = (r, c) := rfl

theorem outcome_tell (e : Event) (c : Connection δ) :
    (tell e : Session δ ε Unit).outcome c = (.ok (), { c with events := c.events ++ [e] }) := rfl

theorem outcome_attempt (x : Session δ ε α) (c : Connection δ) :
    (attempt x : Session δ ζ _).outcome c = (.ok (x.outcome c).1, (x.outcome c).2) := rfl

theorem outcome_send (db : Database δ) (s : Statement) (c : Connection δ) :
    (send db s : Session δ ε Answer).outcome c = (.ok (db s c.state).1, { c with state := (db s c.state).2 }) := rfl

theorem outcome_query (db : Database δ) (s : Statement) (c : Connection δ) :
    (query db s).outcome c = ((db s c.state).1.outcome, { c with state := (db s c.state).2 }) := by
  rw [query, outcome_bind_ok (outcome_send db s c)]
  cases (db s c.state).1 <;> rfl

theorem outcome_ext {x y : Session δ ε α} (h : ∀ c, x.outcome c = y.outcome c) : x = y :=
  funext h

theorem adapt_bind (f : ε → ζ) (x : Session δ ε α) (k : α → Session δ ε β) :
    adapt f (x >>= k) = adapt f x >>= fun a => adapt f (k a) := by
  apply outcome_ext
  intro c
  rw [outcome_bind]
  change ((x >>= k).outcome c |>.1.mapError (Stop.map f), ((x >>= k).outcome c).2) =
    match ((x.outcome c).1.mapError (Stop.map f), (x.outcome c).2) with
    | (.ok a, d) => (adapt f (k a)).outcome d
    | (.error e, d) => (.error e, d)
  rw [outcome_bind]
  rcases x.outcome c with ⟨e | a, d⟩ <;> rfl

theorem adapt_query (x : Session δ QueryError α) :
    adapt TransactionError.storeError (adapt .query x) = adapt QueryError.storeError x := by
  apply outcome_ext
  intro c
  change (((x.outcome c).1.mapError _).mapError _, (x.outcome c).2) = ((x.outcome c).1.mapError _, (x.outcome c).2)
  rcases x.outcome c with ⟨(e | o) | a, d⟩ <;> rfl

theorem adapt_store (x : Session δ StoreError α) : adapt TransactionError.storeError (adapt .store x) = x := by
  apply outcome_ext
  intro c
  change (((x.outcome c).1.mapError _).mapError _, (x.outcome c).2) = x.outcome c
  rcases x.outcome c with ⟨(e | o) | a, d⟩ <;> rfl

theorem outcome_concluded (x : Session δ TransactionError α) (c : Connection δ) :
    ((concluded x).outcome c).1 = ((adapt TransactionError.storeError x).outcome c).1 ∧
      ((concluded x).outcome c).2.state = ((adapt TransactionError.storeError x).outcome c).2.state := by
  have hadapt : (adapt TransactionError.storeError x).outcome c =
      ((x.outcome c).1.mapError (Stop.map TransactionError.storeError), (x.outcome c).2) := rfl
  rw [hadapt, concluded, outcome_bind, outcome_attempt]
  rcases x.outcome c with ⟨((e | e) | o) | a, d⟩ <;> exact ⟨rfl, rfl⟩

def Asks (db : Database δ) (s : Statement) (read : Answer → Except (Stop QueryError) α)
    (x : Session δ QueryError α) : Prop :=
  ∀ c, x.outcome c = ((db s c.state).1.outcome >>= read, { c with state := (db s c.state).2 })

theorem asks_bind {db : Database δ} {s : Statement} {f : Answer → Session δ QueryError α}
    {read : Answer → Except (Stop QueryError) α} (h : ∀ a c, (f a).outcome c = (read a, c)) :
    Asks db s read (query db s >>= f) := by
  intro c
  rw [outcome_bind, outcome_query]
  cases (db s c.state).1.outcome with
  | error e => rfl
  | ok a => exact h a _

theorem asks_count (db : Database δ) (s : Statement) : Asks db s (fun a => .ok a.count) (count db s) :=
  asks_bind fun _ _ => rfl

theorem asks_act (db : Database δ) (s : Statement) : Asks db s (fun _ => .ok ()) (act db s) :=
  asks_bind fun _ _ => rfl

theorem asks_all (db : Database δ) (read : Row → Option α) (s : Statement) :
    Asks db s (Answer.all read) (all db read s) := by
  apply asks_bind
  intro a c
  unfold Answer.all
  induction a.toRows with
  | nil => rfl
  | cons r rows ih =>
    rw [List.mapM_cons, List.mapM_cons, outcome_bind]
    have hrow : (decodeRow read r).outcome c = (Row.decoded read r, c) := by
      unfold decodeRow Row.decoded
      cases read r <;> rfl
    rw [hrow]
    cases Row.decoded read r with
    | error e => rfl
    | ok v =>
      simp only
      rw [outcome_bind, ih]
      cases rows.mapM (Row.decoded read) <;> rfl

theorem asks_first? (db : Database δ) (read : Row → Option α) (s : Statement) :
    Asks db s (Answer.first? read) (first? db read s) := by
  apply asks_bind
  intro a c
  unfold Answer.first?
  cases a.toRows.head? with
  | none => rfl
  | some r =>
    change (decodeRow read r >>= fun v => pure (some v)).outcome c = _
    rw [outcome_bind, decodeRow]
    cases h : read r <;> simp only [h] <;> rfl

theorem asks_first (db : Database δ) (read : Row → Option α) (s : Statement) :
    Asks db s (Answer.first read) (first db read s) := by
  intro c
  rw [first, outcome_bind, asks_first? db read s c]
  cases (db s c.state).1.outcome with
  | error e => rfl
  | ok a =>
    simp only [bind, Except.bind, Answer.first]
    rcases a.first? read with e | v
    · rfl
    · cases v <;> rfl

end Session

end FarmRegistry.Sql
