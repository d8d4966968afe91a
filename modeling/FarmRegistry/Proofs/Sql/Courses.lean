import FarmRegistry.Proofs.Sql.Failures
import FarmRegistry.Proofs.Sql.Transcript

namespace FarmRegistry

def Write.statement : Write → Sql.Statement
  | .insert f => .insertFarm (.ofFarm f)
  | .update f v => .updateFarm (.ofFarm f) v
  | .remove i v => .removeFarm i v

def Change.statements (c : Change) : List Sql.Statement :=
  c.write.statement :: c.deltas.map .adjustFarmer

namespace Sql

def Statement.owner? : Statement → Option FarmerId
  | .insertFarm e => some e.farmerId
  | .updateFarm e _ => some e.farmerId
  | .adjustFarmer d => some d.farmerId
  | _ => none

def Statement.expected? : Statement → Option (FarmId × Signed64)
  | .updateFarm e v => some (e.id, v)
  | .removeFarm i v => some (i, v)
  | _ => none

def Statement.NeedsRow : Statement → Prop
  | .updateFarm _ _ => True
  | .removeFarm _ _ => True
  | .adjustFarmer _ => True
  | _ => False

def Statement.Ends : Statement → Prop
  | .commit => True
  | .rollback => True
  | _ => False

namespace Turn

structure Holds (t : Turn) : Prop where
  sound : t.answer.failure? = none
  matched : t.statement.NeedsRow → 0 < t.answer.count

inductive Fails : Turn → List Turn → StoreError → Prop where
  | raised {s : Statement} {f : Failure} {e : StoreError} (he : f.Reported s.owner? e) : Fails ⟨s, .failed f⟩ [] e
  | unregistered {d : TotalsDelta} {a : Answer} (ha : a.failure? = none) (hnone : a.count = 0) :
    Fails ⟨.adjustFarmer d, a⟩ [] (.farmerNotFound d.farmerId)
  | unmatched {s : Statement} {i : FarmId} {v : Signed64} {a p : Answer} {e : StoreError}
    (hs : s.expected? = some (i, v)) (ha : a.failure? = none) (hnone : a.count = 0) (hp : p.Settles i v e) :
    Fails ⟨s, a⟩ [⟨.farmExists i, p⟩] e

end Turn

inductive Works (statements : List Statement) : List Turn → Except (Stop StoreError) Unit → Prop where
  | done {turns : List Turn} (hall : turns.map Turn.statement = statements) (hheld : ∀ t ∈ turns, t.Holds) :
    Works statements turns (.ok ())
  | failed {held later : List Turn} {t : Turn} {e : StoreError}
    (hsent : held.map Turn.statement ++ [t.statement] <+: statements) (hheld : ∀ u ∈ held, u.Holds)
    (hfails : t.Fails later e) : Works statements (held ++ t :: later) (.error (.refused e))

inductive Closes {α : Type} : Except (Stop StoreError) α → List Turn → Except (Stop StoreError) α → Prop where
  | undone {e : StoreError} {b : Answer} (hb : b.failure? = none) :
    Closes (.error (.refused e)) [⟨.rollback, b⟩] (.error (.refused e))
  | unreverted {e : StoreError} {f : Failure} :
    Closes (.error (.refused e)) [⟨.rollback, .failed f⟩] (.error (.refused (QueryError.failed f).storeError))
  | abandoned {o : Overflow} : Closes (.error (.overflow o)) [] (.error (.overflow o))
  | unacknowledged {v : α} {f : Failure} :
    Closes (.ok v) [⟨.commit, .failed f⟩] (.error (.refused (QueryError.failed f).storeError))
  | acknowledged {v : α} {b : Answer} (hb : b.failure? = none) : Closes (.ok v) [⟨.commit, b⟩] (.ok v)

inductive Enclosed {α : Type} (P : List Turn → Except (Stop StoreError) α → Prop) :
    List Turn → Except (Stop StoreError) α → Prop where
  | unopened {f : Failure} : Enclosed P [⟨.begin, .failed f⟩] (.error (.refused (QueryError.failed f).storeError))
  | opened {a : Answer} {work rest : List Turn} {s r : Except (Stop StoreError) α} (ha : a.failure? = none)
    (hwork : P work s) (hrest : Closes s rest r) : Enclosed P (⟨.begin, a⟩ :: (work ++ rest)) r

inductive Transacts (c : Change) : List Turn → Except (Stop StoreError) Unit → Prop where
  | unopened {f : Failure} {e : StoreError} (he : f.Reported none e) :
    Transacts c [⟨.begin, .failed f⟩] (.error (.refused e))
  | undone {a b : Answer} {work : List Turn} {e : StoreError} (ha : a.failure? = none)
    (hwork : Works c.statements work (.error (.refused e))) (hb : b.failure? = none) :
    Transacts c (⟨.begin, a⟩ :: work ++ [⟨.rollback, b⟩]) (.error (.refused e))
  | unreverted {a : Answer} {work : List Turn} {f : Failure} {d e : StoreError} (ha : a.failure? = none)
    (hwork : Works c.statements work (.error (.refused d))) (he : f.Reported none e) :
    Transacts c (⟨.begin, a⟩ :: work ++ [⟨.rollback, .failed f⟩]) (.error (.refused e))
  | unacknowledged {a : Answer} {work : List Turn} {f : Failure} {e : StoreError} (ha : a.failure? = none)
    (hwork : Works c.statements work (.ok ())) (he : f.Reported none e) :
    Transacts c (⟨.begin, a⟩ :: work ++ [⟨.commit, .failed f⟩]) (.error (.refused e))
  | acknowledged {a b : Answer} {work : List Turn} (ha : a.failure? = none)
    (hwork : Works c.statements work (.ok ())) (hb : b.failure? = none) :
    Transacts c (⟨.begin, a⟩ :: work ++ [⟨.commit, b⟩]) (.ok ())

section Courses

variable {statements rest : List Statement} {turns later work : List Turn} {t : Turn} {e : StoreError}
  {r : Except (Stop StoreError) Unit} {c : Change} {log : List Turn}

theorem Works.append (hfirst : Works statements turns (.ok ())) (hrest : Works rest later r) :
    Works (statements ++ rest) (turns ++ later) r := by
  cases hfirst with
  | done hall hheld =>
    have hboth : ∀ {l : List Turn}, (∀ t ∈ l, t.Holds) → ∀ t ∈ turns ++ l, t.Holds := by
      intro l hl t ht
      rcases List.mem_append.mp ht with ht | ht
      · exact hheld t ht
      · exact hl t ht
    cases hrest with
    | done hall' hheld' => exact .done (by rw [List.map_append, hall, hall']) (hboth hheld')
    | failed hsent hheld' hfails =>
      rw [← List.append_assoc]
      refine .failed ?_ (hboth hheld') hfails
      rw [List.map_append, hall, List.append_assoc]
      exact (List.prefix_append_right_inj _).mpr hsent

theorem Works.stop (hfirst : Works statements turns (.error (.refused e))) :
    Works (statements ++ rest) turns (.error (.refused e)) := by
  cases hfirst with
  | failed hsent hheld hfails => exact .failed (hsent.trans (List.prefix_append _ _)) hheld hfails

theorem Turn.Fails.not_holds (h : t.Fails later e) : ¬t.Holds := by
  intro ht
  cases h with
  | raised => cases ht.sound
  | unregistered ha hnone => exact absurd (ht.matched trivial) (by simp only [hnone, Nat.lt_irrefl, not_false_eq_true])
  | @unmatched s i v a p e hs ha hnone hp =>
    have hneeds : s.NeedsRow := by
      cases s with
      | updateFarm => trivial
      | removeFarm => trivial
      | _ => cases hs
    exact absurd (ht.matched hneeds) (by simp only [hnone, Nat.lt_irrefl, not_false_eq_true])

theorem Turn.Fails.later_open (h : t.Fails later e) : ∀ u ∈ later, ¬u.statement.Ends := by
  cases h with
  | unmatched =>
    rw [List.forall_mem_singleton]
    exact id
  | _ => exact List.forall_mem_nil _

theorem Change.statements_open (c : Change) : ∀ s ∈ c.statements, ¬s.Ends := by
  intro s hs
  rcases List.mem_cons.mp hs with rfl | hs
  · cases c.write <;> exact id
  · obtain ⟨d, _, rfl⟩ := List.mem_map.mp hs
    exact id

theorem Works.work_open (h : Works c.statements work r) : ∀ t ∈ work, ¬t.statement.Ends := by
  intro t ht
  cases h with
  | done hall => exact Change.statements_open c _ (hall ▸ List.mem_map_of_mem ht)
  | @failed held later u e hsent _ hfails =>
    have hsome : ∀ s ∈ held.map Turn.statement ++ [u.statement], ¬s.Ends :=
      fun s hs => Change.statements_open c s (hsent.subset hs)
    rcases List.mem_append.mp ht with ht | ht
    · exact hsome _ (List.mem_append_left _ (List.mem_map_of_mem ht))
    · rcases List.mem_cons.mp ht with rfl | ht
      · exact hsome _ (List.mem_append_right _ List.mem_cons_self)
      · exact hfails.later_open t ht

theorem Works.single {s : Statement} {a : Answer} (ha : a.failure? = none) (hmatched : s.NeedsRow → 0 < a.count) :
    Works [s] [⟨s, a⟩] (.ok ()) :=
  .done rfl (List.forall_mem_singleton.mpr ⟨ha, hmatched⟩)

theorem Works.fails {s : Statement} {a : Answer} (h : Turn.Fails ⟨s, a⟩ later e) :
    Works [s] (⟨s, a⟩ :: later) (.error (.refused e)) :=
  .failed (List.prefix_refl _) (List.forall_mem_nil _) h

end Courses

section Enclosed

variable {α : Type} {P : List Turn → Except (Stop StoreError) α → Prop} {log rest : List Turn}
  {s r : Except (Stop StoreError) α} {t : Turn}

theorem Closes.ends (h : Closes s rest r) : ∀ t ∈ rest, t.statement.Ends := by
  cases h with
  | abandoned => exact List.forall_mem_nil _
  | _ => exact List.forall_mem_singleton.mpr trivial

theorem Closes.commits {v : α} (h : Closes (.ok v) rest r) :
    ∃ b, rest = [⟨.commit, b⟩] ∧ (b.failure? = none → r = .ok v) := by
  cases h with
  | unacknowledged => exact ⟨_, rfl, nofun⟩
  | acknowledged => exact ⟨_, rfl, fun _ => rfl⟩

theorem Closes.rollsBack {e : StoreError} (h : Closes (.error (.refused e)) rest r) :
    ∃ b, rest = [⟨.rollback, b⟩] ∧ (b.failure? = none → r = .error (.refused e)) := by
  cases h with
  | undone => exact ⟨_, rfl, fun _ => rfl⟩
  | unreverted => exact ⟨_, rfl, nofun⟩

theorem Enclosed.of_mem (h : Enclosed P log r) (ht : t ∈ log) (hbegin : t.statement ≠ .begin)
    (hends : ¬t.statement.Ends) :
    ∃ a work s rest, log = ⟨.begin, a⟩ :: (work ++ rest) ∧ t ∈ work ∧ P work s ∧ Closes s rest r := by
  cases h with
  | unopened =>
    cases List.mem_singleton.mp ht
    exact absurd rfl hbegin
  | opened ha hwork hrest =>
    rcases List.mem_cons.mp ht with rfl | ht
    · exact absurd rfl hbegin
    · rcases List.mem_append.mp ht with ht | ht
      · exact ⟨_, _, _, _, rfl, ht, hwork, hrest⟩
      · exact absurd (hrest.ends t ht) hends

end Enclosed

section Transacts

variable {c : Change} {log : List Turn} {r : Except (Stop StoreError) Unit}

theorem Enclosed.transacts (h : Enclosed (Works c.statements) log r) : Transacts c log r := by
  cases h with
  | unopened => exact .unopened (Failure.reported_storeError nofun)
  | opened ha hwork hrest =>
    cases hrest with
    | undone hb => exact .undone ha hwork hb
    | unreverted => exact .unreverted ha hwork (Failure.reported_storeError nofun)
    | abandoned => cases hwork
    | unacknowledged => exact .unacknowledged ha hwork (Failure.reported_storeError nofun)
    | acknowledged hb => exact .acknowledged ha hwork hb

theorem Transacts.closing (h : Transacts c log r) {s : Statement} {a : Answer} (hmem : ⟨s, a⟩ ∈ log) (hs : s.Ends) :
    ∃ front, log = front ++ [⟨s, a⟩] := by
  have hlast : ∀ {work : List Turn} {r : Except (Stop StoreError) Unit} {opening t : Turn},
      Works c.statements work r → opening.statement = .begin → ⟨s, a⟩ ∈ opening :: work ++ [t] →
      ∃ front, opening :: work ++ [t] = front ++ [⟨s, a⟩] := by
    intro work r opening t hwork hopening hmem
    rcases List.mem_append.mp hmem with hmem | hmem
    · rcases List.mem_cons.mp hmem with rfl | hmem
      · obtain rfl : s = .begin := hopening
        exact hs.elim
      · exact absurd hs (hwork.work_open _ hmem)
    · rw [List.mem_singleton.mp hmem]
      exact ⟨_, rfl⟩
  cases h with
  | unopened he =>
    cases List.mem_singleton.mp hmem
    exact hs.elim
  | undone ha hwork hb => exact hlast hwork rfl hmem
  | unreverted ha hwork he => exact hlast hwork rfl hmem
  | unacknowledged ha hwork he => exact hlast hwork rfl hmem
  | acknowledged ha hwork hb => exact hlast hwork rfl hmem

theorem Transacts.last_eq (h : Transacts c log r) {s : Statement} {a : Answer} {t : Turn} {front : List Turn}
    (hmem : ⟨s, a⟩ ∈ log) (hs : s.Ends) (hlog : log = front ++ [t]) : t = ⟨s, a⟩ := by
  obtain ⟨earlier, hearlier⟩ := h.closing hmem hs
  rw [hlog] at hearlier
  exact (List.append_inj' hearlier rfl).2 |> List.singleton_inj.mp

theorem Transacts.commits_iff (h : Transacts c log r) :
    (∃ a, ⟨.commit, a⟩ ∈ log) ↔ ∀ t ∈ log, t.statement ≠ .commit → t.Holds := by
  have hsent : ∀ {work : List Turn} {a b : Answer}, a.failure? = none → Works c.statements work (.ok ()) →
      ∀ t ∈ ⟨.begin, a⟩ :: work ++ [⟨.commit, b⟩], t.statement ≠ .commit → t.Holds := by
    rintro work a b ha ⟨_, hheld⟩ t ht hne
    rcases List.mem_append.mp ht with ht | ht
    · rcases List.mem_cons.mp ht with rfl | ht
      · exact ⟨ha, False.elim⟩
      · exact hheld t ht
    · cases List.mem_singleton.mp ht
      exact absurd rfl hne
  have hfailed : ∀ {work : List Turn} {e : StoreError} {opening closing : Turn},
      Works c.statements work (.error (.refused e)) →
      ¬∀ t ∈ opening :: work ++ [closing], t.statement ≠ .commit → t.Holds := by
    intro work e opening closing hwork hall
    have hopen := hwork.work_open
    cases hwork with
    | @failed held later t e hsent hheld hfails =>
      have hmem : t ∈ held ++ t :: later := List.mem_append_right _ List.mem_cons_self
      refine absurd (hall t (List.mem_append_left _ (List.mem_cons_of_mem _ hmem)) ?_) hfails.not_holds
      intro hcommit
      exact hopen t hmem (hcommit ▸ trivial)
  cases h with
  | unopened he =>
    constructor
    · rintro ⟨a, ha⟩
      cases List.mem_singleton.mp ha
    · intro hall
      cases (hall _ List.mem_cons_self nofun).sound
  | undone ha hwork hb =>
    refine iff_of_false ?_ (hfailed hwork)
    rintro ⟨d, hd⟩
    cases (Transacts.undone ha hwork hb).last_eq hd trivial rfl
  | unreverted ha hwork he =>
    refine iff_of_false ?_ (hfailed hwork)
    rintro ⟨d, hd⟩
    cases (Transacts.unreverted ha hwork he).last_eq hd trivial rfl
  | unacknowledged ha hwork he =>
    exact iff_of_true ⟨_, List.mem_append_right _ List.mem_cons_self⟩ (hsent ha hwork)
  | acknowledged ha hwork hb =>
    exact iff_of_true ⟨_, List.mem_append_right _ List.mem_cons_self⟩ (hsent ha hwork)

theorem Transacts.ok_iff (h : Transacts c log r) :
    r = .ok () ↔ ∃ a, ⟨.commit, a⟩ ∈ log ∧ a.failure? = none := by
  cases h with
  | unopened he =>
    refine iff_of_false nofun ?_
    rintro ⟨a, ha, _⟩
    cases List.mem_singleton.mp ha
  | undone ha hwork hb =>
    refine iff_of_false nofun ?_
    rintro ⟨d, hd, _⟩
    cases (Transacts.undone ha hwork hb).last_eq hd trivial rfl
  | unreverted ha hwork he =>
    refine iff_of_false nofun ?_
    rintro ⟨d, hd, _⟩
    cases (Transacts.unreverted ha hwork he).last_eq hd trivial rfl
  | unacknowledged ha hwork he =>
    refine iff_of_false nofun ?_
    rintro ⟨d, hd, hsound⟩
    cases (Transacts.unacknowledged ha hwork he).last_eq hd trivial rfl
    cases hsound
  | acknowledged ha hwork hb =>
    exact iff_of_true rfl ⟨_, List.mem_append_right _ List.mem_cons_self, hb⟩

theorem Transacts.unreverted_reported (h : Transacts c log r) {f : Failure} (hmem : ⟨.rollback, .failed f⟩ ∈ log) :
    ∃ e, f.Reported none e ∧ r = .error (.refused e) := by
  cases h with
  | unopened he => cases List.mem_singleton.mp hmem
  | undone ha hwork hb =>
    cases (Transacts.undone ha hwork hb).last_eq hmem trivial rfl
    cases hb
  | unreverted ha hwork he =>
    cases (Transacts.unreverted ha hwork he).last_eq hmem trivial rfl
    exact ⟨_, he, rfl⟩
  | unacknowledged ha hwork he => cases (Transacts.unacknowledged ha hwork he).last_eq hmem trivial rfl
  | acknowledged ha hwork hb => cases (Transacts.acknowledged ha hwork hb).last_eq hmem trivial rfl

end Transacts

end Sql

end FarmRegistry
