import FarmRegistry.Proofs.Service.Traces

namespace FarmRegistry

def Overflows {α : Type} (r : Except Overflow α) : Prop :=
  ∃ o, r = .error o

namespace Overflows

variable {α β : Type}

theorem ok {a : α} : ¬Overflows (.ok a) := by
  rintro ⟨o, ho⟩
  cases ho

theorem iff_not {r : Except Overflow α} : Overflows r ↔ ¬∃ a, r = .ok a := by
  cases r with
  | error o => simp [Overflows]
  | ok a => simp [Overflows]

theorem bind {r : Except Overflow α} {f : α → Except Overflow β} :
    Overflows (r >>= f) ↔ Overflows r ∨ ∃ a, r = .ok a ∧ Overflows (f a) := by
  simp only [Overflows, bind_eq_error_iff, exists_or]
  exact or_congr_right ⟨fun ⟨o, a, hr, ho⟩ => ⟨a, hr, o, ho⟩, fun ⟨a, hr, o, ho⟩ => ⟨o, a, hr, ho⟩⟩

theorem bind_ok {r : Except Overflow α} {f : α → β} : Overflows (r >>= fun a => .ok (f a)) ↔ Overflows r := by
  refine bind.trans (or_iff_left ?_)
  rintro ⟨a, _, ha⟩
  exact ok ha

theorem map {r : Except Overflow α} {f : α → β} : Overflows (r.map f) ↔ Overflows r :=
  exists_congr fun _ => map_eq_error_iff

end Overflows

theorem ok_ne_overflow {ε α : Type} {a : α} : ¬∃ o, (.ok a : Except (Stop ε) α) = .error (.overflow o) := by
  rintro ⟨o, ho⟩
  cases ho

theorem refused_ne_overflow {ε α : Type} {e : ε} :
    ¬∃ o, (.error (.refused e) : Except (Stop ε) α) = .error (.overflow o) := by
  rintro ⟨o, ho⟩
  cases ho

namespace Area

theorem add_overflows_iff {a b : Area} :
    Overflows (a.add b) ↔ ¬(-9223372036854775808 ≤ a.val + b.val ∧ a.val + b.val ≤ 9223372036854775807) := by
  rw [Overflows.iff_not, not_iff_not]
  constructor
  · rintro ⟨c, hc⟩
    rw [← add_eq_ok_iff.mp hc]
    exact ⟨c.lo_le, c.le_hi⟩
  · intro hrange
    obtain ⟨c, hc, _⟩ := exists_add hrange
    exact ⟨c, hc⟩

theorem zero_sub_overflows_iff {a : Area} : Overflows (zero.sub a) ↔ a.val = -9223372036854775808 := by
  have hlo := a.lo_le
  have hhi := a.le_hi
  rw [Overflows.iff_not, not_iff_comm]
  constructor
  · intro hleast
    obtain ⟨c, hc, _⟩ := exists_sub (a := zero) (b := a) (by rw [zero_val]; omega)
    exact ⟨c, hc⟩
  · rintro ⟨c, hc⟩ hleast
    have hval := sub_eq_ok_iff.mp hc
    have hc' := c.le_hi
    rw [zero_val] at hval
    omega

end Area

namespace Farm

variable {f g : Farm} {now : Timestamp}

def HasNoNext (f : Farm) : Prop :=
  f.version.val = 9223372036854775807

def HasNoLoss (f : Farm) : Prop :=
  f.isActive ∧ f.area.val = -9223372036854775808

theorem nextVersion_overflows_iff : Overflows (f.nextVersion now) ↔ f.HasNoNext := by
  have hhi := f.version.le_hi
  rw [Overflows.iff_not, not_iff_comm]
  constructor
  · intro hnext
    exact exists_nextVersion now (lt_of_le_of_ne hhi hnext)
  · rintro ⟨g, hg⟩ hlast
    obtain ⟨v, hv, _⟩ := nextVersion_eq_ok hg
    have hv' := v.le_hi
    rw [HasNoNext] at hlast
    omega

end Farm

namespace TotalsDelta

theorem loss_overflows_iff {i : FarmerId} {a : Area} : Overflows (loss i a) ↔ a.val = -9223372036854775808 :=
  Overflows.map.trans Area.zero_sub_overflows_iff

theorem move_overflows_iff {l : TotalsDelta} {k : FarmerId} {a : Area} :
    Overflows (move l k a) ↔ l.farmerId = k ∧
      ¬(-9223372036854775808 ≤ l.area.val + a.val ∧ l.area.val + a.val ≤ 9223372036854775807) := by
  by_cases hsame : l.farmerId = k
  · rw [move, if_pos hsame, Overflows.map, Area.add_overflows_iff]
    simp only [hsame, true_and]
  · rw [move, if_neg hsame]
    simp only [hsame, false_and, iff_false]
    split
    all_goals exact Overflows.ok

variable {f g : Farm} {after : Option Farm}

theorem loss_area {i : FarmerId} {a : Area} {l : TotalsDelta} (h : loss i a = .ok l) : l.area.val = -a.val := by
  obtain ⟨b, hb, rfl⟩ := map_eq_ok_iff.mp h
  have hval := Area.sub_eq_ok_iff.mp hb
  rw [Area.zero_val, Int.zero_sub] at hval
  exact hval

theorem contribution_of_active (hf : f.isActive) : f.contribution = some (gain f.farmerId f.area) := by
  rw [Farm.contribution, if_pos hf]

theorem contribution_of_inactive (hf : ¬f.isActive) : f.contribution = none := by
  rw [Farm.contribution, if_neg hf]

theorem loss_of_active (hf : f.isActive) : Overflows (loss f.farmerId f.area) ↔ f.HasNoLoss :=
  loss_overflows_iff.trans (and_iff_right hf).symm

theorem between_inactive (hf : ¬f.isActive) (after : Option Farm) : ¬Overflows (between (some f) after) := by
  rw [between, Option.bind_some, contribution_of_inactive hf]
  cases after.bind Farm.contribution <;> exact Overflows.ok

theorem between_gone (hf : f.isActive) (hafter : after.bind Farm.contribution = none) :
    Overflows (between (some f) after) ↔ f.HasNoLoss := by
  rw [between, Option.bind_some, contribution_of_active hf, hafter, ← loss_of_active hf]
  exact Overflows.bind_ok

theorem between_active (hf : f.isActive) (hg : g.isActive) :
    Overflows (between (some f) (some g)) ↔ f.HasNoLoss ∨ f.farmerId = g.farmerId ∧
      ¬(-9223372036854775808 ≤ g.area.val - f.area.val ∧ g.area.val - f.area.val ≤ 9223372036854775807) := by
  have hchanges : between (some f) (some g) = loss f.farmerId f.area >>= fun l =>
      move l g.farmerId g.area >>= fun ds => .ok (ds.filter (!·.isZero)) := by
    rw [between, Option.bind_some, Option.bind_some, contribution_of_active hf, contribution_of_active hg]
    rfl
  rw [hchanges, ← loss_of_active hf]
  cases hl : loss f.farmerId f.area with
  | error o => exact iff_of_true ⟨o, rfl⟩ (.inl ⟨o, rfl⟩)
  | ok l =>
    have hmove : Overflows (move l g.farmerId g.area) ↔ f.farmerId = g.farmerId ∧
        ¬(-9223372036854775808 ≤ g.area.val - f.area.val ∧ g.area.val - f.area.val ≤ 9223372036854775807) := by
      rw [move_overflows_iff, loss_farmerId hl, loss_area hl, neg_add_eq_sub]
    rw [or_iff_right Overflows.ok, ← hmove]
    exact Overflows.bind_ok

end TotalsDelta

namespace Intent

/-- The farms that an intent can make no plan for: the revision would have no version, or the change of the totals
would leave the range of areas. -/
def Exceeds : Intent → Farm → Prop
  | create _, _ => False
  | reshape _ p, f => f.HasNoNext ∨ f.isActive ∧ 9223372036854775807 < (Area.ofPolygon p).val - f.area.val
  | retire _, f => f.isActive ∧ (f.HasNoNext ∨ f.HasNoLoss)
  | restore _, f => ¬f.isActive ∧ f.HasNoNext
  | erase _, f => f.HasNoLoss
  | reassign _ i, f => f.farmerId ≠ i ∧ (f.HasNoNext ∨ f.HasNoLoss)

variable {m : Intent} {f : Farm} {now : Timestamp}

theorem commit_overflows_iff {w : Write} {deltas : Except Overflow (List TotalsDelta)} {result : Option Farm} :
    Overflows (deltas.map (Change.mk w) >>= fun c => (.ok (.commit c result) : Except Overflow Plan)) ↔
      Overflows deltas := by
  rw [Overflows.bind_ok, Overflows.map]

theorem revision_overflows_iff {update : Farm → Farm} {P : Prop}
    (hchange : ∀ v : Signed64,
      Overflows (TotalsDelta.between (some f) (some (update { f with version := v, updatedAt := now }))) ↔ P) :
    Overflows (do
      let after ← (f.nextVersion now).map update
      return .commit (← Change.update f after) (some after) : Except Overflow Plan) ↔ f.HasNoNext ∨ P := by
  have hlast : Overflows (f.nextVersion now) ↔ f.HasNoNext := Farm.nextVersion_overflows_iff
  rw [← hlast]
  cases hnext : f.nextVersion now with
  | error o => exact iff_of_true ⟨o, rfl⟩ (.inl ⟨o, rfl⟩)
  | ok g =>
    obtain ⟨v, _, rfl⟩ := Farm.nextVersion_eq_ok hnext
    rw [or_iff_right Overflows.ok, ← hchange v]
    exact commit_overflows_iff

theorem revise_overflows_iff : Overflows (m.revise f now) ↔ m.Exceeds f := by
  cases m with
  | create g => exact iff_of_false Overflows.ok id
  | reshape i p =>
    have hlo := Area.ofPolygon_val_nonneg p
    have hhi := (Area.ofPolygon p).le_hi
    have harea := f.area.le_hi
    refine revision_overflows_iff fun v => ?_
    by_cases hactive : f.isActive
    · -- The new area is not negative, so a loss that has no negative makes the growth too large as well.
      rw [and_iff_right hactive]
      refine (TotalsDelta.between_active hactive ?_).trans ⟨?_, ?_⟩
      · exact hactive
      · rintro (⟨_, hleast⟩ | ⟨_, hrange⟩)
        · omega
        · dsimp only at hrange
          omega
      · intro hgrown
        refine .inr ⟨rfl, ?_⟩
        dsimp only
        omega
    · exact iff_of_false (TotalsDelta.between_inactive hactive _) fun h => hactive h.1
  | retire i =>
    by_cases hactive : f.isActive
    · rw [revise, if_pos hactive, Exceeds, and_iff_right hactive]
      exact revision_overflows_iff fun v => TotalsDelta.between_gone hactive rfl
    · rw [revise, if_neg hactive]
      exact iff_of_false Overflows.ok fun h => hactive h.1
  | restore i =>
    by_cases hactive : f.isActive
    · rw [revise, if_pos hactive]
      exact iff_of_false Overflows.ok fun h => h.1 hactive
    · rw [revise, if_neg hactive, Exceeds, and_iff_right hactive, ← or_false f.HasNoNext]
      exact revision_overflows_iff fun v => iff_of_false (TotalsDelta.between_inactive hactive _) id
  | erase i =>
    refine commit_overflows_iff.trans ?_
    by_cases hactive : f.isActive
    · exact TotalsDelta.between_gone hactive rfl
    · exact iff_of_false (TotalsDelta.between_inactive hactive _) fun h => hactive h.1
  | reassign i j =>
    by_cases howner : f.farmerId = j
    · rw [revise, if_pos howner]
      exact iff_of_false Overflows.ok fun h => h.1 howner
    · rw [revise, if_neg howner, Exceeds, and_iff_right howner]
      refine revision_overflows_iff fun v => ?_
      by_cases hactive : f.isActive
      · refine (TotalsDelta.between_active hactive ?_).trans (or_iff_left ?_)
        · exact hactive
        · rintro ⟨hkept, _⟩
          exact howner hkept
      · exact iff_of_false (TotalsDelta.between_inactive hactive _) fun h => hactive h.1

theorem ofOverflow_overflows_iff {ε α : Type} {r : Except Overflow α} :
    (∃ o, (Stop.ofOverflow r : Except (Stop ε) α) = .error (.overflow o)) ↔ Overflows r := by
  cases r <;> simp [Stop.ofOverflow, Overflows]

theorem plan_overflows_iff {farm : Option Farm} :
    (∃ o, m.plan farm now = .error (.overflow o)) ↔ ∃ f, farm = some f ∧ m.Exceeds f := by
  have hrevise : ∀ f, (∃ o, (Stop.ofOverflow (m.revise f now) : Except (Stop ServiceError) Plan) =
      .error (.overflow o)) ↔ ∃ g, some f = some g ∧ m.Exceeds g := by
    intro f
    rw [ofOverflow_overflows_iff, revise_overflows_iff]
    exact ⟨fun h => ⟨f, rfl, h⟩, fun ⟨_, hf, h⟩ => Option.some.inj hf ▸ h⟩
  cases m with
  | create g =>
    obtain ⟨c, hc⟩ := insert_eq_ok g
    rw [plan, hc]
    refine iff_of_false ok_ne_overflow ?_
    rintro ⟨f, _, h⟩
    exact h
  | _ =>
    cases farm with
    | none =>
      refine iff_of_false refused_ne_overflow ?_
      rintro ⟨f, hf, _⟩
      cases hf
    | some f => exact hrevise f

end Intent

/-- The store stopped at the call, or found a farm that the intent can make no plan for. -/
def Exchange.Stops (m : Intent) (e : Exchange) : Prop :=
  (∃ o, e.outcome = .error (.overflow o)) ∨ ∃ i f, e = ⟨.findFarm i, .ok (some f)⟩ ∧ m.Exceeds f

def Recorded.Halted {σ : Type} (r : Recorded σ) (m : Intent) : Prop :=
  ∃ e ∈ r.log, e.Stops m

theorem Recorded.halted_snoc {σ : Type} {r t : Recorded σ} {m : Intent} {e : Exchange} (h : t.log = r.log ++ [e]) :
    t.Halted m ↔ r.Halted m ∨ e.Stops m := by
  rw [Halted, h]
  simp only [List.mem_append, List.mem_singleton, or_and_right, exists_or, exists_eq_left]
  exact Iff.rfl

namespace Work

variable {σ ε δ α β : Type} {m : Intent} {before : Prop}

/-- A computation stops by an overflow exactly where it was halted, and what it gives tells whether it was. -/
def Accounts (after : α → Prop) : Except (Stop ε) α → Prop → Prop
  | .ok a, halted => halted ↔ after a
  | .error (.overflow _), halted => halted
  | .error (.refused _), halted => ¬halted

def Heeds (m : Intent) (before : Prop) (x : Work (Recorded σ) ε α) (after : α → Prop) : Prop :=
  ∀ w, (w.store.Halted m ↔ before) → Accounts after (x.outcome w).1 ((x.outcome w).2.store.Halted m)

namespace Heeds

theorem pure {a : α} {after : α → Prop} (ha : after a ↔ before) :
    Heeds m before (pure a : Work (Recorded σ) ε α) after :=
  fun _ hw => hw.trans ha.symm

theorem bind {x : Work (Recorded σ) ε α} {f : α → Work (Recorded σ) ε β} {between : α → Prop} {after : β → Prop}
    (hx : Heeds m before x between) (hf : ∀ a, Heeds m (between a) (f a) after) :
    Heeds m before (x >>= f) after := by
  intro w hw
  have hfirst := hx w hw
  rw [outcome_bind]
  rcases h : x.outcome w with ⟨⟨e | o⟩ | a, v⟩
  all_goals rw [h] at hfirst
  · exact hfirst
  · exact hfirst
  · exact hf a v hfirst

theorem adapt (f : ε → δ) {x : Work (Recorded σ) ε α} {after : α → Prop} (hx : Heeds m before x after) :
    Heeds m before (adapt f x) after := by
  intro w hw
  have hfirst := hx w hw
  rw [outcome_adapt]
  rcases h : x.outcome w with ⟨⟨e | o⟩ | a, v⟩
  all_goals rw [h] at hfirst
  all_goals exact hfirst

theorem settled {r : Except (Stop ε) α} (hr : (∃ o, r = .error (.overflow o)) ↔ before) :
    Heeds m before (settled r : Work (Recorded σ) ε α) fun _ => False := by
  intro w hw
  rw [outcome_settled, hw, ← hr]
  rcases r with ⟨e | o⟩ | a
  · exact refused_ne_overflow
  · exact ⟨o, rfl⟩
  · exact iff_of_false ok_ne_overflow id

theorem refuse (e : ε) {after : α → Prop} : Heeds m False (refuse e : Work (Recorded σ) ε α) after :=
  fun _ hw => hw.mp

theorem tell (e : Event) : Heeds m before (tell e : Work (Recorded σ) ε Unit) fun _ => before :=
  fun _ hw => hw

theorem now (s : Service σ) : Heeds m before (s.recorded.now : Work _ ε _) fun _ => before :=
  fun _ hw => hw

theorem ask (s : Service σ) {c : Call} {after : c.Answer → Prop}
    (hafter : ∀ a, after a ↔ Exchange.Stops m ⟨c, .ok a⟩) : Heeds m False (s.recorded.ask c) after := by
  intro w hw
  rw [outcome_ask, Recorded.halted_snoc rfl, hw, false_or]
  change Accounts after (s.store c w.store.inner).outcome (Exchange.Stops m ⟨c, (s.store c w.store.inner).outcome⟩)
  rcases (s.store c w.store.inner).outcome with ⟨e | o⟩ | a
  · rintro (⟨o, ho⟩ | ⟨i, f, hfound, _⟩)
    · cases ho
    · cases hfound
  · exact .inl ⟨o, rfl⟩
  · exact (hafter a).symm

theorem ask_other (s : Service σ) {c : Call} (hc : ∀ i, c ≠ .findFarm i) :
    Heeds m False (s.recorded.ask c) fun _ => False := by
  refine .ask s fun a => iff_of_false id ?_
  rintro (⟨o, ho⟩ | ⟨i, f, hfound, _⟩)
  · cases ho
  · exact hc i (congrArg Exchange.call hfound)

end Heeds

end Work

namespace Service

open Work

variable {σ : Type} (s : Service σ) (m : Intent)

theorem current_heeds : Heeds m False (s.recorded.current m) fun farm => ∃ f, farm = some f ∧ m.Exceeds f := by
  have hask : ∀ i, Heeds m False (s.recorded.ask (.findFarm i)) fun farm => ∃ f, farm = some f ∧ m.Exceeds f := by
    intro i
    refine .ask s fun farm => ⟨?_, ?_⟩
    · rintro ⟨f, rfl, hf⟩
      exact .inr ⟨i, f, rfl, hf⟩
    · rintro (⟨o, ho⟩ | ⟨j, f, hfound, hf⟩)
      · cases ho
      · cases hfound
        exact ⟨f, rfl, hf⟩
  cases m with
  | create g => exact .pure (iff_of_false (by rintro ⟨f, hf, _⟩; cases hf) id)
  | _ => exact hask _

theorem checkGround_heeds (f : Farm) : Heeds m False (s.recorded.checkGround f) fun _ => False := by
  unfold checkGround
  by_cases hreject : s.recorded.config.overlaps = .reject
  · have hfound : Heeds m False (s.recorded.overlapping f.polygon (some f.id)) fun _ => False :=
      .bind (.adapt _ (.ask_other s fun _ => nofun)) fun _ => .pure Iff.rfl
    rw [if_pos hreject]
    refine .bind hfound ?_
    intro ids
    cases ids with
    | nil => exact .pure Iff.rfl
    | cons i is => exact .refuse _
  · rw [if_neg hreject]
    exact .pure Iff.rfl

theorem draft_heeds : Heeds m False (s.recorded.draft m) fun _ => False := by
  refine .bind (.adapt _ (s.current_heeds m)) ?_
  intro farm
  refine .bind (.now s) ?_
  intro now
  refine .bind (.adapt _ (.settled Intent.plan_overflows_iff)) ?_
  intro plan
  refine .bind ?_ fun _ => .pure Iff.rfl
  cases m.claimant? plan with
  | none => exact .pure Iff.rfl
  | some f => exact .adapt _ (s.checkGround_heeds m f)

theorem tryOnce_heeds : Heeds m False (s.recorded.tryOnce m) fun _ => False := by
  rw [tryOnce_eq]
  refine .bind (s.draft_heeds m) ?_
  intro plan
  cases plan with
  | unchanged f => exact .bind (.tell _) fun _ => .pure Iff.rfl
  | commit c result =>
    refine .bind (.adapt _ (.ask_other s fun _ => nofun)) ?_
    intro _
    exact .bind (.tell _) fun _ => .pure Iff.rfl

theorem repair_heeds (i : FarmerId) : Heeds m False (s.recorded.repair i) fun _ => False :=
  .bind (.adapt _ (.ask_other s fun _ => nofun)) fun _ => .tell _

variable {s m}

theorem Course.overflows_iff {conflicts tries : Nat} {repaired : Bool} {w v : World (Recorded σ)}
    {r : Except (Stop ServiceError) (Option Farm)} (h : s.recorded.Course m conflicts repaired w tries r v)
    (hw : ¬w.store.Halted m) : (∃ o, r = .error (.overflow o)) ↔ v.store.Halted m := by
  -- What the induction carries: only a try that ends the run by an overflow can have been halted.
  have hafter : ∀ {w u o}, ¬w.store.Halted m → (s.recorded.tryOnce m).outcome w = (o, u) →
      Accounts (fun _ => False) o (u.store.Halted m) := by
    intro w u o hw htry
    have hheeds := s.tryOnce_heeds m w (iff_of_false hw id)
    rw [htry] at hheeds
    exact hheeds
  induction h with
  | last htry htold hend =>
    have haccounts := hafter hw htry
    rw [htold.store]
    cases hend with
    | stopped o => exact iff_of_true ⟨o, rfl⟩ haccounts
    | done result => exact iff_of_false ok_ne_overflow haccounts.mp
    | _ => exact iff_of_false refused_ne_overflow haccounts
  | raced hmore htry hwait hrest ih =>
    apply ih
    rw [(backOff_waits hwait).1]
    exact hafter hw htry
  | @unrepaired conflicts w u x v i e htry htold hrepair =>
    have hx : ¬x.store.Halted m := by
      rw [htold.store]
      exact hafter hw htry
    have haccounts := s.repair_heeds m i x (iff_of_false hx id)
    rw [hrepair] at haccounts
    cases e with
    | refused e => exact iff_of_false refused_ne_overflow haccounts
    | overflow o => exact iff_of_true ⟨o, rfl⟩ haccounts
  | @repaired conflicts n w u x y v i r htry htold hrepair hrest ih =>
    have hx : ¬x.store.Halted m := by
      rw [htold.store]
      exact hafter hw htry
    have haccounts := s.repair_heeds m i x (iff_of_false hx id)
    rw [hrepair] at haccounts
    exact ih haccounts.mp

end Service

end FarmRegistry
