import FarmRegistry.Proofs.Sql.Session
import FarmRegistry.Sql.Store

namespace FarmRegistry.Sql

namespace Failure

def BlamesOwner (f : Failure) : Prop :=
  f.kind = .foreignKeyViolation ∨
    (f.kind = .checkViolation ∧ ∃ name, f.constraint = some name ∧ "farmers_".toList <+: name.toList)

def TellsRace (f : Failure) : Prop :=
  f.kind = .serializationFailure ∨ f.kind = .uniqueViolation ∨
    "deadlock detected".toList <:+: f.message.toList

inductive Reported (f : Failure) : Option FarmerId → StoreError → Prop where
  | absent {i : FarmerId} (hkind : f.kind = .foreignKeyViolation) : Reported f (some i) (.farmerNotFound i)
  | negative {i : FarmerId} (hkind : f.kind = .checkViolation)
    (hname : ∃ name, f.constraint = some name ∧ "farmers_".toList <+: name.toList) :
    Reported f (some i) (.negativeAggregate i)
  | raced {owner : Option FarmerId} (howner : owner.isSome → ¬f.BlamesOwner) (hrace : f.TellsRace) :
    Reported f owner (.conflict f.message)
  | closed {owner : Option FarmerId} (howner : owner.isSome → ¬f.BlamesOwner) (hcalm : ¬f.TellsRace)
    (hkind : f.kind = .closedConnection) : Reported f owner (.connection f.message)
  | other {owner : Option FarmerId} (howner : owner.isSome → ¬f.BlamesOwner) (hcalm : ¬f.TellsRace)
    (hkind : f.kind ≠ .closedConnection) : Reported f owner (.query f.message)

variable {f : Failure}

theorem isRace_iff : QueryError.isRace f ↔ f.TellsRace := by
  simp only [QueryError.isRace, TellsRace, Bool.or_eq_true, decide_eq_true_eq, Text.occursIn_iff, or_assoc]
  simp only [List.IsInfix, eq_comm]

theorem breaksTotals_iff :
    QueryError.breaksTotals f ↔
      f.kind = .checkViolation ∧ ∃ name, f.constraint = some name ∧ "farmers_".toList <+: name.toList := by
  simp only [QueryError.breaksTotals, Bool.and_eq_true, decide_eq_true_eq, Option.any_eq_true, List.isPrefixOf_iff_prefix]

theorem reported_storeError {owner : Option FarmerId} (howner : owner.isSome → ¬f.BlamesOwner) :
    f.Reported owner (QueryError.failed f).storeError := by
  simp only [QueryError.storeError]
  by_cases hrace : f.TellsRace
  · rw [if_pos (isRace_iff.mpr hrace)]
    exact .raced howner hrace
  · rw [if_neg (mt isRace_iff.mp hrace)]
    by_cases hkind : f.kind = .closedConnection
    · rw [if_pos hkind]
      exact .closed howner hrace hkind
    · rw [if_neg hkind]
      exact .other howner hrace hkind

theorem reported_writeError (i : FarmerId) : f.Reported (some i) ((QueryError.failed f).writeError i) := by
  simp only [QueryError.writeError]
  by_cases hkind : f.kind = .foreignKeyViolation
  · rw [if_pos hkind]
    exact .absent hkind
  · rw [if_neg hkind]
    by_cases hbreaks : QueryError.breaksTotals f
    · rw [if_pos hbreaks]
      obtain ⟨hcheck, hname⟩ := breaksTotals_iff.mp hbreaks
      exact .negative hcheck hname
    · rw [if_neg hbreaks]
      apply reported_storeError
      rintro _ (habsent | hnegative)
      · exact hkind habsent
      · exact hbreaks (breaksTotals_iff.mpr hnegative)

end Failure

inductive Answer.Settles (i : FarmId) (v : Signed64) : Answer → StoreError → Prop where
  | outdated {p : Answer} (hp : p.failure? = none) (hfirst : p.first (·.truth? "exists") = .ok true) :
    Settles i v p (.conflict s!"farm {i} is no longer at version {v.val}")
  | missing {p : Answer} (hp : p.failure? = none) (hfirst : p.first (·.truth? "exists") = .ok false) :
    Settles i v p (.farmNotFound i)
  | failed {f : Failure} {e : StoreError} (he : f.Reported none e) : Settles i v (.failed f) e
  | empty {p : Answer} (hp : p.failure? = none) (hrow : p.toRows.head? = none) :
    Settles i v p (.query "record not found")
  | unreadable {p : Answer} {r : Row} (hp : p.failure? = none) (hrow : p.toRows.head? = some r)
    (htruth : r.truth? "exists" = none) : Settles i v p (.query QueryError.unexpectedNull.message)

namespace Answer

variable {p : Answer} {i : FarmId} {v : Signed64} {α : Type}

theorem eq_failed {f : Failure} (h : p.failure? = some f) : p = .failed f := by
  cases p with
  | failed g => exact congrArg Answer.failed (Option.some.inj h)
  | _ => cases h

theorem adapted_cases {read : Answer → Except (Stop QueryError) α} {f : QueryError → StoreError}
    {r : Except (Stop StoreError) α} (h : r = (p.outcome >>= read).mapError (Stop.map f)) :
    (∃ g, p = .failed g ∧ r = .error (.refused (f (.failed g)))) ∨
      (p.failure? = none ∧ r = (read p).mapError (Stop.map f)) := by
  cases hp : p.failure? with
  | some g =>
    rw [outcome_of_failure hp] at h
    exact .inl ⟨g, eq_failed hp, h⟩
  | none =>
    rw [outcome_of_sound hp] at h
    exact .inr ⟨rfl, h⟩

theorem settles_of_error {e : Stop QueryError} (hp : p.failure? = none)
    (h : p.first (·.truth? "exists") = .error e) : ∃ q, e = .refused q ∧ p.Settles i v q.storeError := by
  rcases first_eq_error h with ⟨hrow, rfl⟩ | ⟨hnull, rfl⟩
  · exact ⟨_, rfl, .empty hp hrow⟩
  · obtain ⟨row, hrow, htruth⟩ := Option.map_eq_some_iff.mp hnull
    exact ⟨_, rfl, .unreadable hp hrow htruth⟩

end Answer

end FarmRegistry.Sql
