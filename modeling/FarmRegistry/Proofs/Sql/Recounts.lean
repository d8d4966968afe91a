import FarmRegistry.Proofs.Sql.Courses
import FarmRegistry.Proofs.Sql.RoundTrip
import FarmRegistry.Proofs.Totals.Exact

namespace FarmRegistry.Sql

def Row.Tells (row : Row) (f : Farm) : Prop :=
  ∃ r, StoredFarm.ofRow? row = some r ∧ r.toFarm = .ok f

theorem Row.tells_unique : Relator.RightUnique Row.Tells := by
  rintro row f g ⟨r, hr, hf⟩ ⟨s, hs, hg⟩
  rw [hr] at hs
  cases hs
  rw [hf] at hg
  exact Except.ok.inj hg

theorem Row.tells_of_records {rows : List Row} {records : List StoredFarm} {farms : List Farm}
    (hrecords : List.Forall₂ (fun row r => StoredFarm.ofRow? row = some r) rows records)
    (hfarms : List.Forall₂ (fun r f => r.toFarm = .ok f) records farms) : List.Forall₂ Row.Tells rows farms := by
  induction hrecords generalizing farms with
  | nil =>
    cases hfarms
    exact .nil
  | cons hr _ ih =>
    cases hfarms with
    | cons hf hrest => exact .cons ⟨_, hr, hf⟩ (ih hrest)

namespace Turn

inductive Raises : Turn → QueryError → Prop where
  | failed {s : Statement} {f : Failure} : Raises ⟨s, .failed f⟩ (.failed f)
  | nullFarmer {i : FarmerId} {a : Answer} {row : Row} (hrow : a.toRows.head? = some row)
    (hnull : row.uuid? "id" = none) : Raises ⟨.lockFarmer i, a⟩ .unexpectedNull
  | nullFarm {i : FarmerId} {a : Answer} {row : Row} (hrow : row ∈ a.toRows)
    (hnull : StoredFarm.ofRow? row = none) : Raises ⟨.farmerFarms i, a⟩ .unexpectedNull

def Quiet (t : Turn) : Prop :=
  ∀ q, ¬t.Raises q

theorem Raises.unique {t : Turn} {p q : QueryError} (hp : t.Raises p) (hq : t.Raises q) : p = q := by
  cases hp with
  | failed =>
    cases hq with
    | failed => rfl
    | nullFarmer hrow _ => cases hrow
    | nullFarm hrow _ => cases hrow
  | nullFarmer hrow _ =>
    cases hq with
    | failed => cases hrow
    | nullFarmer _ _ => rfl
  | nullFarm hrow _ =>
    cases hq with
    | failed => cases hrow
    | nullFarm _ _ => rfl

variable {i : FarmerId} {a : Answer}

theorem Quiet.lock {found : Option Uuid} (ha : a.failure? = none) (hread : a.first? (·.uuid? "id") = .ok found) :
    Quiet ⟨.lockFarmer i, a⟩ := by
  rintro q (_ | ⟨hrow, hnull⟩ | _)
  · cases ha
  · rw [Answer.first?_eq_ok_iff, hrow, Option.map_some, hnull] at hread
    cases found <;> cases hread

theorem Quiet.farms (ha : a.failure? = none) (hread : ∀ row ∈ a.toRows, ∃ r, StoredFarm.ofRow? row = some r) :
    Quiet ⟨.farmerFarms i, a⟩ := by
  rintro q (_ | _ | ⟨hrow, hnull⟩)
  · cases ha
  · obtain ⟨r, hr⟩ := hread _ hrow
    rw [hnull] at hr
    cases hr

theorem Quiet.told {farms : List Farm} (ha : a.failure? = none) (h : List.Forall₂ Row.Tells a.toRows farms) :
    Quiet ⟨.farmerFarms i, a⟩ := by
  apply Quiet.farms ha
  intro row hrow
  obtain ⟨f, _, r, hr, _⟩ := forall₂_mem_left h hrow
  exact ⟨r, hr⟩

end Turn

inductive Due (i : FarmerId) : List Turn → Statement → Prop where
  | lock : Due i [] (.lockFarmer i)
  | farms {a : Answer} (ha : Turn.Quiet ⟨.lockFarmer i, a⟩) (hrow : a.toRows ≠ []) :
    Due i [⟨.lockFarmer i, a⟩] (.farmerFarms i)
  | sums {front : List Turn} {b : Answer} {farms : List Farm} {sums : Totals} (hs : Due i front (.farmerFarms i))
    (hb : b.failure? = none) (hfarms : List.Forall₂ Row.Tells b.toRows farms)
    (hsums : Totals.ofFarms i farms = .ok sums) : Due i (front ++ [⟨.farmerFarms i, b⟩]) (.setFarmer i sums)

/-- Computing the totals of a farmer anew, up to the first turn that stops it. -/
inductive Recounts (i : FarmerId) : List Turn → Except (Stop StoreError) Totals → Prop where
  | raised {front : List Turn} {s : Statement} {a : Answer} {q : QueryError} (hs : Due i front s)
    (ha : Turn.Raises ⟨s, a⟩ q) : Recounts i (front ++ [⟨s, a⟩]) (.error (.refused q.storeError))
  | unregistered {a : Answer} (ha : Turn.Quiet ⟨.lockFarmer i, a⟩) (hnone : a.toRows = []) :
    Recounts i [⟨.lockFarmer i, a⟩] (.error (.refused (.farmerNotFound i)))
  | corrupt {front : List Turn} {b : Answer} {m : String} (hs : Due i front (.farmerFarms i))
    (hb : Turn.Quiet ⟨.farmerFarms i, b⟩) (hrow : ∃ row ∈ b.toRows, ∀ f, ¬Row.Tells row f) :
    Recounts i (front ++ [⟨.farmerFarms i, b⟩]) (.error (.refused (.query m)))
  | overflowed {front : List Turn} {b : Answer} {farms : List Farm} {o : Overflow} (hs : Due i front (.farmerFarms i))
    (hb : b.failure? = none) (hfarms : List.Forall₂ Row.Tells b.toRows farms)
    (hsums : Totals.ofFarms i farms = .error o) :
    Recounts i (front ++ [⟨.farmerFarms i, b⟩]) (.error (.overflow o))
  | stored {front : List Turn} {c : Answer} {sums : Totals} (hs : Due i front (.setFarmer i sums))
    (hc : c.failure? = none) : Recounts i (front ++ [⟨.setFarmer i sums, c⟩]) (.ok sums)

section Courses

variable {i : FarmerId} {front work : List Turn} {s : Statement} {t : Turn} {r : Except (Stop StoreError) Totals}
  {b : Answer}

theorem Due.sent_farms (h : Due i front (.farmerFarms i)) : front.map Turn.statement = [.lockFarmer i] := by
  cases h
  rfl

theorem Due.sent_sums {sums : Totals} (h : Due i front (.setFarmer i sums)) :
    front.map Turn.statement = [.lockFarmer i, .farmerFarms i] := by
  cases h with
  | sums hs _ _ _ => rw [List.map_append, hs.sent_farms, List.map_singleton, List.singleton_append]

theorem Due.quiet (h : Due i front s) : ∀ t ∈ front, t.Quiet := by
  induction h with
  | lock => exact List.forall_mem_nil _
  | farms ha _ => exact List.forall_mem_singleton.mpr ha
  | sums _ hb hfarms _ ih => exact List.forall_mem_append.mpr ⟨ih, List.forall_mem_singleton.mpr (.told hb hfarms)⟩

theorem Due.found (h : Due i front s) : ∀ a, ⟨.lockFarmer i, a⟩ ∈ front → a.toRows ≠ [] := by
  induction h with
  | lock => exact fun a ha => nomatch ha
  | farms _ hrow =>
    intro a ha
    cases List.mem_singleton.mp ha
    exact hrow
  | sums _ _ _ _ ih =>
    intro a ha
    rcases List.mem_append.mp ha with ha | ha
    · exact ih a ha
    · cases List.mem_singleton.mp ha

theorem Due.told (h : Due i front s) (hb : ⟨.farmerFarms i, b⟩ ∈ front) :
    ∃ farms sums, List.Forall₂ Row.Tells b.toRows farms ∧ Totals.ofFarms i farms = .ok sums ∧
      s = .setFarmer i sums := by
  cases h with
  | lock => cases hb
  | farms _ _ => cases List.mem_singleton.mp hb
  | sums hs _ hfarms hsums =>
    rcases List.mem_append.mp hb with hb | hb
    · cases hs
      cases List.mem_singleton.mp hb
    · cases List.mem_singleton.mp hb
      exact ⟨_, _, hfarms, hsums, rfl⟩

theorem Recounts.sent (h : Recounts i work r) :
    ∃ sums, work.map Turn.statement <+: [.lockFarmer i, .farmerFarms i, .setFarmer i sums] := by
  have hfront : ∀ {front : List Turn} {s : Statement} {a : Answer}, Due i front s →
      ∃ sums, (front ++ [Turn.mk s a]).map Turn.statement <+: [.lockFarmer i, .farmerFarms i, .setFarmer i sums] := by
    intro front s a hs
    cases hs with
    | lock => exact ⟨.zero, _, rfl⟩
    | farms _ _ => exact ⟨.zero, _, rfl⟩
    | @sums front b farms sums hs hb hfarms hsums =>
      have hset : Due i (front ++ [⟨.farmerFarms i, b⟩]) (.setFarmer i sums) := .sums hs hb hfarms hsums
      rw [List.map_append, hset.sent_sums]
      exact ⟨sums, List.prefix_refl _⟩
  cases h with
  | raised hs _ => exact hfront hs
  | unregistered _ _ => exact ⟨.zero, _, rfl⟩
  | corrupt hs _ _ => exact hfront hs
  | overflowed hs _ _ _ => exact hfront hs
  | stored hs _ => exact hfront hs

theorem Recounts.work_open (h : Recounts i work r) : ∀ t ∈ work, ¬t.statement.Ends := by
  intro t ht
  obtain ⟨sums, hsent⟩ := h.sent
  have hsome : ∀ s ∈ [Statement.lockFarmer i, .farmerFarms i, .setFarmer i sums], ¬s.Ends := by
    simp [Statement.Ends]
  exact hsome _ (hsent.subset (List.mem_map_of_mem ht))

theorem Recounts.stored_of_ok {v : Totals} (h : Recounts i work (.ok v)) :
    work.map Turn.statement = [.lockFarmer i, .farmerFarms i, .setFarmer i v] ∧
      ∃ c, ⟨.setFarmer i v, c⟩ ∈ work ∧ c.failure? = none := by
  cases h with
  | stored hs hc =>
    refine ⟨?_, _, List.mem_concat_self, hc⟩
    rw [List.map_append, hs.sent_sums]
    rfl

theorem Recounts.of_raises (h : Recounts i work r) {q : QueryError} (ht : t ∈ work) (hq : t.Raises q) :
    r = .error (.refused q.storeError) ∧ ∃ front, work = front ++ [t] := by
  have hlast : ∀ {front : List Turn} {s : Statement} {last : Turn}, Due i front s → last.Quiet →
      t ∉ front ++ [last] := by
    intro front s last hs hquiet hmem
    rcases List.mem_append.mp hmem with hmem | hmem
    · exact hs.quiet t hmem q hq
    · obtain rfl := List.mem_singleton.mp hmem
      exact hquiet q hq
  cases h with
  | raised hs ha =>
    rcases List.mem_append.mp ht with ht | ht
    · exact absurd hq (hs.quiet t ht q)
    · obtain rfl := List.mem_singleton.mp ht
      rw [hq.unique ha]
      exact ⟨rfl, _, rfl⟩
  | unregistered ha _ =>
    obtain rfl := List.mem_singleton.mp ht
    exact absurd hq (ha q)
  | corrupt hs hb _ => exact absurd ht (hlast hs hb)
  | overflowed hs hb hfarms _ => exact absurd ht (hlast hs (.told hb hfarms))
  | stored hs hc =>
    refine absurd ht (hlast hs ?_)
    rintro p (_ | _ | _)
    cases hc

theorem Recounts.asks (h : Recounts i work r) : ∃ a, ⟨.lockFarmer i, a⟩ ∈ work ∧
    (Turn.Quiet ⟨.lockFarmer i, a⟩ → a.toRows ≠ [] → ∃ b, ⟨.farmerFarms i, b⟩ ∈ work) := by
  have hread : ∀ {front : List Turn} {b : Answer}, Due i front (.farmerFarms i) →
      front ++ [⟨.farmerFarms i, b⟩] <+: work → ∃ a, ⟨.lockFarmer i, a⟩ ∈ work ∧
        (Turn.Quiet ⟨.lockFarmer i, a⟩ → a.toRows ≠ [] → ∃ b, ⟨.farmerFarms i, b⟩ ∈ work) := by
    intro front b hs hfront
    cases hs
    exact ⟨_, hfront.subset List.mem_cons_self, fun _ _ => ⟨b, hfront.subset List.mem_concat_self⟩⟩
  cases h with
  | raised hs ha =>
    cases hs with
    | lock => exact ⟨_, List.mem_cons_self, fun hquiet => absurd ha (hquiet _)⟩
    | farms hquiet hrow => exact hread (.farms hquiet hrow) (List.prefix_refl _)
    | sums hs _ _ _ => exact hread hs (List.prefix_append _ _)
  | unregistered _ hnone => exact ⟨_, List.mem_cons_self, fun _ hrow => absurd hnone hrow⟩
  | corrupt hs _ _ => exact hread hs (List.prefix_refl _)
  | overflowed hs _ _ _ => exact hread hs (List.prefix_refl _)
  | stored hs _ =>
    cases hs with
    | sums hs _ _ _ => exact hread hs (List.prefix_append _ _)

theorem Recounts.of_unregistered (h : Recounts i work r) {a : Answer} (ha : ⟨.lockFarmer i, a⟩ ∈ work)
    (hsound : a.failure? = none) (hnone : a.toRows = []) :
    r = .error (.refused (.farmerNotFound i)) ∧ work.map Turn.statement = [.lockFarmer i] := by
  have hlast : ∀ {front : List Turn} {s : Statement} {b : Answer}, Due i front s →
      ⟨.lockFarmer i, a⟩ ∈ front ++ [⟨s, b⟩] → s = .lockFarmer i ∧ b = a := by
    intro front s b hs hmem
    rcases List.mem_append.mp hmem with hmem | hmem
    · exact absurd hnone (hs.found a hmem)
    · cases List.mem_singleton.mp hmem
      exact ⟨rfl, rfl⟩
  cases h with
  | raised hs hq =>
    obtain ⟨rfl, rfl⟩ := hlast hs ha
    cases hq with
    | failed => cases hsound
    | nullFarmer hrow _ =>
      rw [hnone] at hrow
      cases hrow
  | unregistered _ _ => exact ⟨rfl, rfl⟩
  | corrupt hs _ _ => cases (hlast hs ha).1
  | overflowed hs _ _ _ => cases (hlast hs ha).1
  | stored hs _ => cases (hlast hs ha).1

theorem Recounts.of_corrupt (h : Recounts i work r) (hb : ⟨.farmerFarms i, b⟩ ∈ work) {row : Row}
    (hrow : row ∈ b.toRows) (hcorrupt : ∀ f, ¬row.Tells f) :
    (∃ m, r = .error (.refused (.query m))) ∧ work.map Turn.statement = [.lockFarmer i, .farmerFarms i] := by
  have htold : ∀ {farms : List Farm}, ¬List.Forall₂ Row.Tells b.toRows farms := by
    intro farms hfarms
    obtain ⟨f, _, hf⟩ := forall₂_mem_left hfarms hrow
    exact hcorrupt f hf
  have hlast : ∀ {front : List Turn} {s : Statement} {a : Answer}, Due i front s →
      ⟨.farmerFarms i, b⟩ ∈ front ++ [⟨s, a⟩] → s = .farmerFarms i ∧ a = b ∧
        (front ++ [Turn.mk s a]).map Turn.statement = [.lockFarmer i, .farmerFarms i] := by
    intro front s a hs hmem
    rcases List.mem_append.mp hmem with hmem | hmem
    · obtain ⟨farms, _, hfarms, _⟩ := hs.told hmem
      exact absurd hfarms htold
    · cases List.mem_singleton.mp hmem
      refine ⟨rfl, rfl, ?_⟩
      rw [List.map_append, hs.sent_farms]
      rfl
  cases h with
  | raised hs hq =>
    obtain ⟨rfl, rfl, hsent⟩ := hlast hs hb
    refine ⟨?_, hsent⟩
    cases hq with
    | failed => cases hrow
    | nullFarm _ _ => exact ⟨_, rfl⟩
  | unregistered _ _ => cases List.mem_singleton.mp hb
  | corrupt hs _ _ => exact ⟨⟨_, rfl⟩, (hlast hs hb).2.2⟩
  | overflowed hs _ hfarms _ =>
    obtain ⟨_, rfl, _⟩ := hlast hs hb
    exact absurd hfarms htold
  | stored hs _ => cases (hlast hs hb).1

theorem Recounts.of_told (h : Recounts i work r) (hb : ⟨.farmerFarms i, b⟩ ∈ work) (hsound : b.failure? = none)
    {farms : List Farm} (hfarms : List.Forall₂ Row.Tells b.toRows farms) :
    (∃ o, Totals.ofFarms i farms = .error o ∧ r = .error (.overflow o) ∧
        work.map Turn.statement = [.lockFarmer i, .farmerFarms i]) ∨
      ∃ sums c, Totals.ofFarms i farms = .ok sums ∧ ⟨.setFarmer i sums, c⟩ ∈ work ∧
        work.map Turn.statement = [.lockFarmer i, .farmerFarms i, .setFarmer i sums] ∧
        (r = .ok sums ∨ ∃ f, c = .failed f ∧ r = .error (.refused (QueryError.failed f).storeError)) := by
  -- The farms came in answer to the last statement, or the last statement is due to them.
  have hread : ∀ {front : List Turn} {s : Statement} {a : Answer}, Due i front s →
      ⟨.farmerFarms i, b⟩ ∈ front ++ [⟨s, a⟩] → (s = .farmerFarms i ∧ a = b) ∨
        ∃ sums, s = .setFarmer i sums ∧ Totals.ofFarms i farms = .ok sums := by
    intro front s a hs hmem
    rcases List.mem_append.mp hmem with hmem | hmem
    · obtain ⟨others, sums, hothers, hsums, hset⟩ := hs.told hmem
      obtain rfl := List.right_unique_forall₂' Row.tells_unique hothers hfarms
      exact .inr ⟨sums, hset, hsums⟩
    · cases List.mem_singleton.mp hmem
      exact .inl ⟨rfl, rfl⟩
  cases h with
  | raised hs hq =>
    rcases hread hs hb with ⟨rfl, rfl⟩ | ⟨sums, rfl, hsums⟩
    · exact absurd hq (Turn.Quiet.told hsound hfarms _)
    · refine .inr ⟨sums, _, hsums, List.mem_concat_self, ?_, ?_⟩
      · rw [List.map_append, hs.sent_sums]
        rfl
      · cases hq with
        | failed => exact .inr ⟨_, rfl, rfl⟩
  | unregistered _ _ => cases List.mem_singleton.mp hb
  | corrupt hs _ hcorrupt =>
    rcases hread hs hb with ⟨_, rfl⟩ | ⟨_, hset, _⟩
    · obtain ⟨row, hrow, hnone⟩ := hcorrupt
      obtain ⟨f, _, hf⟩ := forall₂_mem_left hfarms hrow
      exact absurd hf (hnone f)
    · cases hset
  | overflowed hs _ hothers hsums =>
    rcases hread hs hb with ⟨_, rfl⟩ | ⟨_, hset, _⟩
    · obtain rfl := List.right_unique_forall₂' Row.tells_unique hothers hfarms
      refine .inl ⟨_, hsums, rfl, ?_⟩
      rw [List.map_append, hs.sent_farms]
      rfl
    · cases hset
  | stored hs hc =>
    rcases hread hs hb with ⟨hset, _⟩ | ⟨_, hset, hsums⟩
    · cases hset
    · cases hset
      refine .inr ⟨_, _, hsums, List.mem_concat_self, ?_, .inl rfl⟩
      rw [List.map_append, hs.sent_sums]
      rfl

end Courses

end FarmRegistry.Sql
