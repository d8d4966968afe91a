import FarmRegistry.Registry.Store

namespace FarmRegistry

/-- What happens to the next call of a kind: others change the store before it, and then it may fail
without reaching the store. -/
structure Fault (σ : Type) where
  call : String
  before : σ → σ × List Event
  error : Option StoreError

structure Rehearsal (σ : Type) where
  inner : σ
  faults : List (Fault σ)
  naming : Option FarmId
  calls : List Call

namespace Rehearsal

variable {σ : Type}

def ofStore (s : σ) : Rehearsal σ :=
  ⟨s, [], none, []⟩

def renamed (naming : Option FarmId) (c : Change) : Change :=
  match naming, c.write with
  | some i, .insert f => { c with write := .insert { f with id := i } }
  | _, _ => c

def takeFault (name : String) : List (Fault σ) → Option (Fault σ) × List (Fault σ)
  | [] => (none, [])
  | f :: rest =>
    if f.call = name then (some f, rest)
    else
      let (found, others) := takeFault name rest
      (found, f :: others)

def passOn (inner : Store σ) (c : Call) (r : Rehearsal σ) : Reply (Rehearsal σ) c.Answer :=
  let (fault, faults) := takeFault c.name r.faults
  let (s, told) := (fault.map fun f => f.before r.inner).getD (r.inner, [])
  let after := fun (s : σ) => { r with inner := s, faults := faults, calls := r.calls ++ [c] }
  match fault.bind (·.error) with
  | some e => ⟨.error (.refused e), after s, told⟩
  | none =>
    let reply := inner c s
    ⟨reply.outcome, after reply.state, told ++ reply.events⟩

def store (inner : Store σ) : Store (Rehearsal σ)
  | .commit c, r => passOn inner (.commit (renamed r.naming c)) r
  | c, r => passOn inner c r

end Rehearsal

end FarmRegistry
