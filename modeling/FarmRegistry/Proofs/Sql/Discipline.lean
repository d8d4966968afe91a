import FarmRegistry.Proofs.Sql.Courses
import FarmRegistry.Sql.Script

namespace FarmRegistry.Sql

open Session

variable {δ : Type} (db : Database δ)

def Answered {α : Type} (f : QueryError → StoreError) (s : Statement) (read : Answer → Except (Stop QueryError) α)
    (turns : List Turn) (r : Except (Stop StoreError) α) : Prop :=
  ∃ a, turns = [⟨s, a⟩] ∧ r = (a.outcome >>= read).mapError (Stop.map f)

section Answered

variable {α β : Type} {P : List Turn → Except (Stop StoreError) β → Prop} {s : Statement}
  {read : Answer → Except (Stop QueryError) α} {f : QueryError → StoreError}

theorem speaks_explained {x : Session (Watched δ) QueryError α} (hx : Asks (Watched.database db) s read x)
    (f : QueryError → StoreError) : Speaks (Answered f s read) (explained f x) := by
  refine (Speaks.explained f (.asks hx)).imp ?_
  rintro turns r ⟨s, ⟨a, hturns, rfl⟩, hr⟩
  exact ⟨a, hturns, hr⟩

theorem speaks_queried {x : Session (Watched δ) QueryError α} (hx : Asks (Watched.database db) s read x) :
    Speaks (Answered QueryError.storeError s read) (adapt TransactionError.storeError (queried x)) := by
  rw [queried, adapt_query]
  intro c
  obtain ⟨turns, hlog, a, hturns, ha⟩ := Speaks.asks hx c
  exact ⟨turns, hlog, a, hturns, congrArg (Except.mapError _) ha⟩

theorem speaks_owned {x : Session (Watched δ) QueryError α} (hx : Asks (Watched.database db) s read x)
    (i : FarmerId) :
    Speaks (Answered (QueryError.writeError i) s read) (adapt TransactionError.storeError (owned i x)) := by
  rw [owned, adapt_store]
  exact speaks_explained db hx _

theorem Answered.bind {x : Session (Watched δ) StoreError α} {k : α → Session (Watched δ) StoreError β}
    (hx : Speaks (Answered f s read) x) (hfailed : ∀ g, P [⟨s, .failed g⟩] (.error (.refused (f (.failed g)))))
    (hunread : ∀ a e, a.failure? = none → read a = .error e → P [⟨s, a⟩] (.error (e.map f)))
    (hread : ∀ a v, a.failure? = none → read a = .ok v → Speaks (fun later => P (⟨s, a⟩ :: later)) (k v)) :
    Speaks P (x >>= k) := by
  refine Speaks.bind hx ?_ ?_
  · rintro turns e ⟨a, rfl, ha⟩
    rcases Answer.adapted_cases ha with ⟨g, rfl, hg⟩ | ⟨hsound, he⟩
    · cases hg
      exact hfailed g
    · obtain ⟨d, hd, rfl⟩ := mapError_eq_error_iff.mp he.symm
      exact hunread a d hsound hd
  · rintro v turns ⟨a, rfl, ha⟩
    rcases Answer.adapted_cases ha with ⟨g, _, hg⟩ | ⟨hsound, hv⟩
    · cases hg
    · exact hread a v hsound (mapError_eq_ok_iff.mp hv.symm)

theorem Answered.bind_ok {read : Answer → α} {x : Session (Watched δ) StoreError α}
    {k : α → Session (Watched δ) StoreError β} (hx : Speaks (Answered f s fun a => .ok (read a)) x)
    (hfailed : ∀ g, P [⟨s, .failed g⟩] (.error (.refused (f (.failed g)))))
    (hread : ∀ a, a.failure? = none → Speaks (fun later => P (⟨s, a⟩ :: later)) (k (read a))) :
    Speaks P (x >>= k) := by
  refine Answered.bind hx hfailed ?_ ?_
  · intro a e _ he
    cases he
  · intro a v hsound hv
    cases hv
    exact hread a hsound

end Answered

theorem speaks_transaction {α : Type} {P : List Turn → Except (Stop StoreError) α → Prop}
    {x : Session (Watched δ) TransactionError α} (hx : Speaks P (adapt TransactionError.storeError x)) :
    Speaks (Enclosed P) (concluded (transaction (Watched.database db) .query x)) := by
  have hact : ∀ s, Speaks (Answered QueryError.storeError s fun _ => .ok ())
      (adapt TransactionError.storeError (adapt .query (act (Watched.database db) s))) :=
    fun s => speaks_queried db (asks_act _ s)
  have hattempt : Speaks (fun turns r => ∃ s, r = .ok s ∧ P turns (s.mapError (Stop.map TransactionError.storeError)))
      (adapt TransactionError.storeError (attempt x)) := by
    intro c
    obtain ⟨turns, hlog, hp⟩ := hx c
    exact ⟨turns, hlog, _, rfl, hp⟩
  refine .concluded ?_
  rw [transaction, adapt_bind]
  refine Answered.bind_ok (hact .begin) (fun _ => .unopened) ?_
  intro a hsound
  rw [adapt_bind]
  refine .bind hattempt ?_ ?_
  · rintro work e ⟨_, he, _⟩
    cases he
  · rintro s work ⟨_, hs, hwork⟩
    cases hs
    -- Whatever the work came to, what is left is to close the transaction.
    refine Speaks.imp (P := Closes (s.mapError (Stop.map TransactionError.storeError))) ?_
      fun rest r hrest => .opened hsound hwork hrest
    match s with
    | .ok v =>
      change Speaks _ (adapt _ (adapt _ _ >>= _))
      rw [adapt_bind]
      refine Answered.bind_ok (hact .commit) (fun _ => .unacknowledged) ?_
      exact fun b hb => .settled (.acknowledged hb)
    | .error (.refused e) =>
      change Speaks _ (adapt _ (adapt _ _ >>= _))
      rw [adapt_bind]
      refine Answered.bind_ok (hact .rollback) (fun _ => .unreverted) ?_
      exact fun b hb => .settled (.undone hb)
    | .error (.overflow o) => exact .settled .abandoned

theorem speaks_confirmMatch (i : FarmId) (v : Signed64) (matched : Nat) :
    Speaks (fun turns r => (0 < matched ∧ turns = [] ∧ r = .ok ()) ∨
        (matched = 0 ∧ ∃ p e, turns = [⟨.farmExists i, p⟩] ∧ p.Settles i v e ∧ r = .error (.refused e)))
      (adapt TransactionError.storeError (confirmMatch (Watched.database db) i v matched)) := by
  unfold confirmMatch
  by_cases hmatched : matched = 0
  · rw [if_pos hmatched, adapt_bind]
    refine Answered.bind (speaks_queried db (asks_first _ _ _)) ?_ ?_ ?_
    · intro g
      exact .inr ⟨hmatched, _, _, rfl, .failed (Failure.reported_storeError nofun), rfl⟩
    · intro p e hp he
      obtain ⟨q, rfl, hsettles⟩ := Answer.settles_of_error hp he
      exact .inr ⟨hmatched, p, _, rfl, hsettles, rfl⟩
    · intro p b hp hfirst
      cases b with
      | true => exact .settled (.inr ⟨hmatched, p, _, rfl, .outdated hp hfirst, rfl⟩)
      | false => exact .settled (.inr ⟨hmatched, p, _, rfl, .missing hp hfirst, rfl⟩)
  · rw [if_neg hmatched]
    exact .settled (.inl ⟨Nat.pos_of_ne_zero hmatched, rfl, rfl⟩)

theorem speaks_versioned {s : Statement} {i : FarmId} {v : Signed64} (hs : s.expected? = some (i, v))
    {f : QueryError → StoreError} (hf : ∀ g : Failure, g.Reported s.owner? (f (.failed g)))
    {x : Session (Watched δ) TransactionError Nat}
    (hx : Speaks (Answered f s fun a => .ok a.count) (adapt TransactionError.storeError x)) :
    Speaks (Works [s]) (adapt TransactionError.storeError (x >>= confirmMatch (Watched.database db) i v)) := by
  rw [adapt_bind]
  refine Answered.bind_ok hx (fun g => .fails (.raised (hf g))) ?_
  intro a hsound
  refine (speaks_confirmMatch db i v a.count).imp ?_
  rintro later r (⟨hpos, rfl, rfl⟩ | ⟨hnone, p, e, rfl, hsettles, rfl⟩)
  · exact .single hsound fun _ => hpos
  · exact .fails (.unmatched hs hsound hnone hsettles)

theorem speaks_write (w : Write) :
    Speaks (Works [w.statement]) (adapt TransactionError.storeError (write (Watched.database db) w)) := by
  cases w with
  | insert f =>
    refine (speaks_owned db (asks_act _ _) _).imp ?_
    rintro turns r ⟨a, rfl, ha⟩
    rcases Answer.adapted_cases ha with ⟨g, rfl, rfl⟩ | ⟨hsound, rfl⟩
    · exact .fails (.raised (Failure.reported_writeError _))
    · exact .single hsound False.elim
  | update f v =>
    exact speaks_versioned db rfl (fun _ => Failure.reported_writeError _) (speaks_owned db (asks_count _ _) _)
  | remove i v =>
    have hf : ∀ g : Failure, g.Reported none (QueryError.failed g).storeError :=
      fun g => Failure.reported_storeError nofun
    exact speaks_versioned (s := .removeFarm i v) db rfl hf (speaks_queried db (asks_count _ _))

theorem speaks_adjust (d : TotalsDelta) :
    Speaks (Works [.adjustFarmer d]) (adapt TransactionError.storeError (adjust (Watched.database db) d)) := by
  rw [adjust, adapt_bind]
  refine Answered.bind_ok (speaks_owned db (asks_count _ (.adjustFarmer d)) _) ?_ ?_
  · exact fun g => .fails (.raised (Failure.reported_writeError _))
  · intro a hsound
    by_cases hnone : a.count = 0
    · rw [if_pos hnone]
      exact .settled (.fails (.unregistered hsound hnone))
    · rw [if_neg hnone]
      exact .settled (.single hsound fun _ => Nat.pos_of_ne_zero hnone)

theorem Works.bind {statements rest : List Statement} {x : Session (Watched δ) StoreError Unit}
    {f : Unit → Session (Watched δ) StoreError Unit} (hx : Speaks (Works statements) x)
    (hf : Speaks (Works rest) (f ())) : Speaks (Works (statements ++ rest)) (x >>= f) := by
  refine Speaks.bind hx ?_ ?_
  · rintro turns (e | o) h
    · exact h.stop
    · cases h
  · rintro ⟨⟩ turns h
    exact hf.imp fun _ _ hrest => h.append hrest

theorem speaks_adjustments (ds : List TotalsDelta) : Speaks (Works (ds.map .adjustFarmer))
    (adapt TransactionError.storeError (ds.forM (adjust (Watched.database db)))) := by
  induction ds with
  | nil => exact .settled (.done rfl (List.forall_mem_nil _))
  | cons d ds ih =>
    change Speaks _ (adapt _ (adjust _ d >>= fun _ => ds.forM (adjust _)))
    rw [adapt_bind]
    exact Works.bind (speaks_adjust db d) ih

theorem speaks_commit (c : Change) : Speaks (Transacts c) (commit (Watched.database db) c) := by
  have hwork : Speaks (Works c.statements) (adapt TransactionError.storeError
      (do write (Watched.database db) c.write; c.deltas.forM (adjust (Watched.database db)))) := by
    rw [adapt_bind]
    exact Works.bind (speaks_write db c.write) (speaks_adjustments db c.deltas)
  have htransaction := (speaks_transaction db hwork).imp fun _ _ => Enclosed.transacts
  refine htransaction.bind (fun _ _ h => h) ?_
  rintro ⟨⟩ turns h
  refine .tell _ ?_
  rw [List.append_nil]
  exact h

theorem commit_mirrors (c : Change) : Mirrors (commit (Watched.database db) c) (commit db c) := by
  have hconfirm : ∀ i v n, Mirrors (confirmMatch (Watched.database db) i v n) (confirmMatch db i v n) := by
    intro i v n
    unfold confirmMatch
    by_cases hn : n = 0
    · rw [if_pos hn, if_pos hn]
      refine .bind (.adapt _ (.first db _ _)) ?_
      intro b
      cases b <;> exact .refuse _
    · rw [if_neg hn, if_neg hn]
      exact .pure _
  have hwrite : Mirrors (write (Watched.database db) c.write) (write db c.write) := by
    cases c.write with
    | insert f => exact .adapt _ (.explained _ (.act db _))
    | update f v => exact .bind (.adapt _ (.explained _ (.count db _))) fun n => hconfirm _ _ n
    | remove i v => exact .bind (.adapt _ (.count db _)) fun n => hconfirm _ _ n
  have hadjust : ∀ d, Mirrors (adjust (Watched.database db) d) (adjust db d) := by
    intro d
    refine .bind (.adapt _ (.explained _ (.count db _))) ?_
    intro n
    by_cases hn : n = 0
    · rw [if_pos hn, if_pos hn]
      exact .refuse _
    · rw [if_neg hn, if_neg hn]
      exact .pure _
  have hwork : Mirrors (do write (Watched.database db) c.write; c.deltas.forM (adjust (Watched.database db)))
      (do write db c.write; c.deltas.forM (adjust db)) := .bind hwrite fun _ => .forM hadjust
  exact .bind (.concluded (.transaction _ hwork)) fun _ => .tell _

/-- However a database answers, the transaction of a change takes one of five courses: it is not opened, its work
fails and is rolled back, the rollback fails as well, it is not acknowledged, or it is. It is committed exactly if all
that was sent before holds. The error is that of the work, unless the rollback raises one of its own. -/
theorem commit_transacts (c : Change) (s : δ) :
    let watched := (commit (Watched.database db) c).outcome ⟨⟨s, []⟩, []⟩
    let log := watched.2.state.log
    (watched.1, watched.2.bare) = (commit db c).outcome ⟨s, []⟩ ∧
      Transacts c log watched.1 ∧
      ((∃ a, ⟨.commit, a⟩ ∈ log) ↔ ∀ t ∈ log, t.statement ≠ .commit → t.Holds) ∧
      ((∃ a, ⟨.commit, a⟩ ∈ log) → ∀ b, ⟨.rollback, b⟩ ∉ log) ∧
      (∀ f, ⟨.rollback, .failed f⟩ ∈ log → ∃ e, f.Reported none e ∧ watched.1 = .error (.refused e)) ∧
      (watched.1 = .ok () ↔ ∃ a, ⟨.commit, a⟩ ∈ log ∧ a.failure? = none) := by
  intro watched log
  obtain ⟨turns, hlog, hcourse⟩ := speaks_commit db c ⟨⟨s, []⟩, []⟩
  have hturns : log = turns := hlog
  rw [← hturns] at hcourse
  refine ⟨commit_mirrors db c _, hcourse, hcourse.commits_iff, ?_, fun f => hcourse.unreverted_reported, hcourse.ok_iff⟩
  rintro ⟨a, ha⟩ b hb
  obtain ⟨front, hfront⟩ := hcourse.closing ha trivial
  cases hcourse.last_eq hb trivial hfront

theorem late_removal_undone :
    let i : FarmId := ⟨⟨3⟩⟩
    let v : Signed64 := ⟨1, by decide, by decide⟩
    let script := Script.ofAnswers [.affected 0, .rows [[("exists", .truth true)]]]
    let watched := (commit (Watched.database Script.database) ⟨.remove i v, []⟩).outcome ⟨⟨script, []⟩, []⟩
    watched.1 = .error (.refused (.conflict s!"farm {i} is no longer at version {v.val}")) ∧
      ∀ a, ⟨.commit, a⟩ ∉ watched.2.state.log := by
  intro i v script watched
  obtain ⟨_, _, hcommits, _⟩ := commit_transacts Script.database ⟨.remove i v, []⟩ script
  refine ⟨rfl, ?_⟩
  intro a ha
  have hremoval := hcommits.mp ⟨a, ha⟩ ⟨.removeFarm i v, .affected 0⟩ (List.mem_cons_of_mem _ List.mem_cons_self) nofun
  exact absurd (hremoval.matched trivial) (Nat.lt_irrefl 0)

end FarmRegistry.Sql
