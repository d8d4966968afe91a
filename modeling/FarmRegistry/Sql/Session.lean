import FarmRegistry.Registry.Store
import FarmRegistry.Sql.Database

namespace FarmRegistry.Sql

structure Connection (δ : Type) where
  state : δ
  events : List Event

/-- Work on a connection. What was sent stays sent when it stops. -/
abbrev Session (δ ε α : Type) := ExceptT (Stop ε) (StateM (Connection δ)) α

inductive TransactionError where
  | query (e : QueryError)
  | store (e : StoreError)

namespace TransactionError

def storeError : TransactionError → StoreError
  | query e => e.storeError
  | store e => e

def event? : TransactionError → Option Event
  | query e => some e.event
  | store _ => none

end TransactionError

namespace Session

variable {δ ε ζ α : Type}

def outcome (x : Session δ ε α) (c : Connection δ) : Except (Stop ε) α × Connection δ :=
  x.run.run c

def settled (r : Except (Stop ε) α) : Session δ ε α :=
  ExceptT.mk (pure r)

def ofExcept (r : Except ε α) : Session δ ε α :=
  settled (r.mapError .refused)

def refuse (e : ε) : Session δ ε α :=
  throw (.refused e)

def tell (e : Event) : Session δ ε Unit :=
  modify fun c => { c with events := c.events ++ [e] }

def adapt (f : ε → ζ) (x : Session δ ε α) : Session δ ζ α :=
  ExceptT.mk fun c =>
    let (r, c) := x.outcome c
    (r.mapError (Stop.map f), c)

def attempt (x : Session δ ε α) : Session δ ζ (Except (Stop ε) α) :=
  ExceptT.mk fun c =>
    let (r, c) := x.outcome c
    (.ok r, c)

def send (db : Database δ) (s : Statement) : Session δ ε Answer :=
  ExceptT.mk fun c =>
    let (answer, state) := db s c.state
    (.ok answer, { c with state := state })

def query (db : Database δ) (s : Statement) : Session δ QueryError Answer := do
  match ← send db s with
  | .failed f => refuse (.failed f)
  | answer => return answer

def count (db : Database δ) (s : Statement) : Session δ QueryError Nat := do
  return (← query db s).count

def act (db : Database δ) (s : Statement) : Session δ QueryError Unit := do
  let _ ← query db s

def decodeRow (read : Row → Option α) (r : Row) : Session δ QueryError α :=
  match read r with
  | some a => return a
  | none => refuse .unexpectedNull

def all (db : Database δ) (read : Row → Option α) (s : Statement) : Session δ QueryError (List α) := do
  (← query db s).toRows.mapM (decodeRow read)

def first? (db : Database δ) (read : Row → Option α) (s : Statement) : Session δ QueryError (Option α) := do
  (← query db s).toRows.head?.mapM (decodeRow read)

def first (db : Database δ) (read : Row → Option α) (s : Statement) : Session δ QueryError α := do
  match ← first? db read s with
  | some a => return a
  | none => refuse .noRecord

def explained (f : QueryError → StoreError) (x : Session δ QueryError α) : Session δ StoreError α := do
  match ← attempt x with
  | .ok a => return a
  | .error (.refused e) =>
    tell e.event
    refuse (f e)
  | .error (.overflow o) => throw (.overflow o)

/-- All of the work between a begin and a commit, or none of it: when the work is refused it is rolled back, and a
rollback that fails hides why. An overflow leaves the transaction to end with its connection. -/
def transaction (db : Database δ) (f : QueryError → ε) (work : Session δ ε α) : Session δ ε α := do
  adapt f (act db .begin)
  match ← attempt work with
  | .ok a =>
    adapt f (act db .commit)
    return a
  | .error (.refused e) =>
    adapt f (act db .rollback)
    refuse e
  | .error (.overflow o) => throw (.overflow o)

def concluded (x : Session δ TransactionError α) : Session δ StoreError α := do
  match ← attempt x with
  | .ok a => return a
  | .error (.refused e) =>
    if let some told := e.event? then tell told
    refuse e.storeError
  | .error (.overflow o) => throw (.overflow o)

def reply (x : Session δ StoreError α) (s : δ) : Reply δ α :=
  let (r, c) := x.outcome ⟨s, []⟩
  ⟨r, c.state, c.events⟩

end Session

end FarmRegistry.Sql
