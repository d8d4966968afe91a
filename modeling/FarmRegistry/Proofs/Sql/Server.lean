import FarmRegistry.Proofs.Order.Collections
import FarmRegistry.Proofs.Sql.Session
import FarmRegistry.Proofs.Sql.Tables

namespace FarmRegistry.Sql

inductive Phase where
  | idle
  | working (tables : Tables)
  | aborted

def Phase.after (t : Tables) : Answer → Phase
  | .failed _ => .aborted
  | _ => .working t

structure Server where
  stored : Tables
  phase : Phase

def Statement.IsQuery : Statement → Prop
  | .begin => False
  | .commit => False
  | .rollback => False
  | .createMigrationTable => False
  | .listMigrations => False
  | .runMigration _ => False
  | .recordMigration _ => False
  | _ => True

/-- A database, seen as a server, that gives each statement its meaning and keeps its transactions: what is done in one
is stored when it is committed, and nothing of it when it is rolled back. -/
structure Postgres {δ : Type} (db : Database δ) (view : δ → Server) : Prop where
  begins : ∀ d, (view d).phase = .idle →
    (db .begin d).1.failure? = none ∧ view (db .begin d).2 = ⟨(view d).stored, .working (view d).stored⟩
  commits : ∀ d t, (view d).phase = .working t →
    (db .commit d).1.failure? = none ∧ view (db .commit d).2 = ⟨t, .idle⟩
  rollsBack : ∀ d, (view d).phase ≠ .idle →
    (db .rollback d).1.failure? = none ∧ view (db .rollback d).2 = ⟨(view d).stored, .idle⟩
  executes : ∀ s d, s.IsQuery → (view d).phase = .idle →
    ∃ t, Executes (view d).stored s (db s d).1 t ∧ view (db s d).2 = ⟨t, .idle⟩
  executesWithin : ∀ s d t, s.IsQuery → (view d).phase = .working t →
    ∃ u, Executes t s (db s d).1 u ∧ view (db s d).2 = ⟨(view d).stored, .after u (db s d).1⟩

theorem FarmRule.mem_all (rule : FarmRule) : rule ∈ all := by
  cases rule <;> decide

theorem FarmerRule.mem_all (rule : FarmerRule) : rule ∈ all := by
  cases rule <;> decide

namespace Tables

variable {t : Tables}

def broken? (t : Tables) (e : FarmWriting) : Option FarmRule :=
  FarmRule.all.find? (t.breaks e)

theorem breaks_of_broken? {e : FarmWriting} {rule : FarmRule} (h : t.broken? e = some rule) :
    t.breaks e rule = true :=
  List.find?_some h

theorem breaks_of_unbroken {e : FarmWriting} (h : t.broken? e = none) (rule : FarmRule) : t.breaks e rule = false :=
  Bool.eq_false_iff.mpr (List.find?_eq_none.mp h rule rule.mem_all)

end Tables

namespace StoredFarmer

variable {r : StoredFarmer}

def broken? (r : StoredFarmer) : Option FarmerRule :=
  FarmerRule.all.find? r.breaks

theorem breaks_of_broken? {rule : FarmerRule} (h : r.broken? = some rule) : r.breaks rule = true :=
  List.find?_some h

theorem breaks_of_unbroken (h : r.broken? = none) (rule : FarmerRule) : r.breaks rule = false :=
  Bool.eq_false_iff.mpr (List.find?_eq_none.mp h rule rule.mem_all)

end StoredFarmer

namespace Tables

def write (t : Tables) (e : FarmWriting) : Answer × Tables :=
  match t.broken? e with
  | some rule => (.failed (rule.failure "new row violates a constraint of relation farms"), t)
  | none => (.affected 1, t.putFarm e)

def writeFarmer (t : Tables) (r : StoredFarmer) : Answer × Tables :=
  match r.broken? with
  | some rule => (.failed (rule.failure "new row violates a constraint of relation farmers"), t)
  | none => (.affected 1, t.putFarmer r)

def execute (t : Tables) : Statement → Answer × Tables
  | .findFarm i => (.rows (t.farms[i]?.map FarmWriting.row).toList, t)
  | .findFarmer i => (.rows (t.farmers[i]?.map StoredFarmer.row).toList, t)
  | .registerFarmer i => if i ∈ t.farmers then (.affected 0, t) else (.affected 1, t.putFarmer (.new i))
  | .insertFarm e =>
    if e.id ∈ t.farms then (.failed (.taken "duplicate key value violates unique constraint farms_pkey"), t)
    else t.write e
  | .updateFarm e v => if t.version? e.id = some v then t.write e else (.affected 0, t)
  | .removeFarm i v => if t.version? i = some v then (.affected 1, t.dropFarm i) else (.affected 0, t)
  | .farmExists i => (.rows [[("exists", .truth (t.farms.contains i))]], t)
  | .adjustFarmer d =>
    match t.farmers[d.farmerId]? with
    | none => (.affected 0, t)
    | some r =>
      match r.plus? d with
      | none => (.failed .outOfRange, t)
      | some q => t.writeFarmer q
  | .listActiveFarms bounds => (.rows ((t.entries.filter (FarmWriting.isListed bounds)).map FarmWriting.row), t)
  | .lockFarmer i => (.rows (t.farmers[i]?.map fun r => [("id", .uuid r.id.uuid)]).toList, t)
  | .farmerFarms i => (.rows ((t.entries.filter (FarmWriting.isHeldBy i)).map FarmWriting.row), t)
  | .setFarmer i sums => if i ∈ t.farmers then t.writeFarmer (.ofTotals i sums) else (.affected 0, t)
  | _ => (.nothing, t)

theorem executes_execute (t : Tables) {s : Statement} (hs : s.IsQuery) :
    Executes t s (t.execute s).1 (t.execute s).2 := by
  cases s with
  | findFarm i => exact .findsFarm i
  | findFarmer i => exact .findsFarmer i
  | registerFarmer i =>
    by_cases h : i ∈ t.farmers
    · simpa only [execute, if_pos h] using Executes.knows h
    · simpa only [execute, if_neg h] using Executes.registers h
  | insertFarm e =>
    by_cases h : e.id ∈ t.farms
    · simpa only [execute, if_pos h] using Executes.insertTaken _ h
    · rw [execute, if_neg h, write]
      cases hrule : t.broken? e with
      | some rule => exact .insertBreaks _ (breaks_of_broken? hrule)
      | none => exact .inserts h (breaks_of_unbroken hrule)
  | updateFarm e v =>
    by_cases h : t.version? e.id = some v
    · rw [execute, if_pos h, write]
      cases hrule : t.broken? e with
      | some rule => exact .updateBreaks _ h (breaks_of_broken? hrule)
      | none => exact .updates h (breaks_of_unbroken hrule)
    · simpa only [execute, if_neg h] using Executes.updateMisses h
  | removeFarm i v =>
    by_cases h : t.version? i = some v
    · simpa only [execute, if_pos h] using Executes.removes h
    · simpa only [execute, if_neg h] using Executes.removeMisses h
  | farmExists i => exact .farmExists i
  | adjustFarmer d =>
    rw [execute]
    cases hr : t.farmers[d.farmerId]? with
    | none =>
      refine .adjustMisses fun hmem => ?_
      obtain ⟨r, h⟩ := mem_iff_exists_getElem?.mp hmem
      rw [hr] at h
      cases h
    | some r =>
      cases hq : r.plus? d with
      | none => simpa only [hq] using Executes.adjustOverflows hr hq
      | some q =>
        simp only [hq, writeFarmer]
        cases hrule : q.broken? with
        | some rule => exact .adjustBreaks _ hr hq (StoredFarmer.breaks_of_broken? hrule)
        | none => exact .adjusts hr hq (StoredFarmer.breaks_of_unbroken hrule)
  | listActiveFarms bounds => exact .lists bounds
  | lockFarmer i => exact .locks i
  | farmerFarms i => exact .gathers (.refl _)
  | setFarmer i sums =>
    by_cases h : i ∈ t.farmers
    · rw [execute, if_pos h, writeFarmer]
      cases hrule : (StoredFarmer.ofTotals i sums).broken? with
      | some rule => exact .setBreaks _ h (StoredFarmer.breaks_of_broken? hrule)
      | none => exact .sets h (StoredFarmer.breaks_of_unbroken hrule)
    · simpa only [execute, if_neg h] using Executes.setMisses h
  | reindex => exact .reindexes
  | analyze => exact .analyzes
  | _ => exact hs.elim

end Tables

namespace Server

def database : Database Server := fun s server =>
  match s, server.phase with
  | .begin, .idle => (.nothing, ⟨server.stored, .working server.stored⟩)
  | .commit, .working t => (.nothing, ⟨t, .idle⟩)
  | .rollback, _ => (.nothing, ⟨server.stored, .idle⟩)
  | s, .idle => ((server.stored.execute s).1, ⟨(server.stored.execute s).2, .idle⟩)
  | s, .working t => ((t.execute s).1, ⟨server.stored, .after (t.execute s).2 (t.execute s).1⟩)
  | _, .aborted => (.failed ⟨.unknown, "current transaction is aborted", none⟩, server)

theorem postgres : Postgres database id := by
  refine ⟨?_, ?_, ?_, ?_, ?_⟩
  · rintro ⟨stored, _⟩ rfl
    exact ⟨rfl, rfl⟩
  · rintro ⟨stored, _⟩ t rfl
    exact ⟨rfl, rfl⟩
  · rintro ⟨stored, phase⟩ _
    cases phase <;> exact ⟨rfl, rfl⟩
  · rintro s ⟨stored, _⟩ hs rfl
    refine ⟨(stored.execute s).2, ?_⟩
    have hmeaning := stored.executes_execute hs
    cases s <;> first | exact hs.elim | exact ⟨hmeaning, rfl⟩
  · rintro s ⟨stored, _⟩ t hs rfl
    refine ⟨(t.execute s).2, ?_⟩
    have hmeaning := t.executes_execute hs
    cases s <;> first | exact hs.elim | exact ⟨hmeaning, rfl⟩

end Server

end FarmRegistry.Sql
