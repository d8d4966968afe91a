import FarmRegistry.Proofs.Service.Recording
import FarmRegistry.Registry.Envelope

namespace FarmRegistry

inductive StoreError.Reworded : StoreError → StoreError → Prop where
  | connection (m n : String) : Reworded (.connection m) (.connection n)
  | query (m n : String) : Reworded (.query m) (.query n)
  | conflict (m n : String) : Reworded (.conflict m) (.conflict n)
  | farmNotFound (i : FarmId) : Reworded (.farmNotFound i) (.farmNotFound i)
  | farmerNotFound (i : FarmerId) : Reworded (.farmerNotFound i) (.farmerNotFound i)
  | negativeAggregate (i : FarmerId) : Reworded (.negativeAggregate i) (.negativeAggregate i)

inductive ServiceError.Reworded : ServiceError → ServiceError → Prop where
  | repository (m n : String) : Reworded (.repository m) (.repository n)
  | same (e : ServiceError) : Reworded e e

inductive Setback.Reworded : Setback → Setback → Prop where
  | final {e f : ServiceError} (h : e.Reworded f) : Reworded (.final e) (.final f)
  | store {e f : StoreError} (h : e.Reworded f) : Reworded (.store e) (.store f)

theorem ServiceError.ofStore_reworded {e f : StoreError} (h : e.Reworded f) : (ofStore e).Reworded (ofStore f) := by
  cases h with
  | connection m n => exact .repository m n
  | query m n => exact .repository m n
  | _ => exact .same _

theorem StoreError.Reworded.refl (e : StoreError) : e.Reworded e := by
  cases e <;> constructor

theorem Setback.Reworded.refl (e : Setback) : e.Reworded e := by
  cases e with
  | final e => exact .final (.same e)
  | store e => exact .store (.refl e)

structure ServiceError.ToldAlike (e f : ServiceError) : Prop where
  code : e.code = f.code
  isTransient : e.isTransient = f.isTransient
  envelope : e.envelope = f.envelope

theorem ServiceError.Reworded.toldAlike {e f : ServiceError} (h : e.Reworded f) : e.ToldAlike f := by
  cases h <;> exact ⟨rfl, rfl, rfl⟩

inductive Alike {ε α : Type} (R : ε → ε → Prop) : Except (Stop ε) α → Except (Stop ε) α → Prop where
  | ok (a : α) : Alike R (.ok a) (.ok a)
  | refused {e f : ε} (h : R e f) : Alike R (.error (.refused e)) (.error (.refused f))
  | overflow (o : Overflow) : Alike R (.error (.overflow o)) (.error (.overflow o))

inductive Exchange.Reworded : Exchange → Exchange → Prop where
  | mk (c : Call) {x y : Except (Stop StoreError) c.Answer} (h : Alike StoreError.Reworded x y) :
    Reworded ⟨c, x⟩ ⟨c, y⟩

def AnsweredAlike (l m : List Exchange) : Prop :=
  ∀ (k : Nat) (e f : Exchange), l[k]? = some e → m[k]? = some f → e.call = f.call → e.Reworded f

theorem Alike.refl {ε α : Type} {R : ε → ε → Prop} (hR : ∀ e, R e e) (r : Except (Stop ε) α) : Alike R r r := by
  rcases r with (e | o) | a
  · exact .refused (hR e)
  · exact .overflow o
  · exact .ok a

theorem getElem?_of_isPrefix {α : Type} {l m : List α} (h : l <+: m) {k : Nat} {a : α} (ha : l[k]? = some a) :
    m[k]? = some a := by
  obtain ⟨rest, rfl⟩ := h
  obtain ⟨hk, _⟩ := List.getElem?_eq_some_iff.mp ha
  rw [List.getElem?_append_left hk, ha]

theorem Alike.imp {ε α : Type} {R R' : ε → ε → Prop} (hR : ∀ e f, R e f → R' e f) {r r' : Except (Stop ε) α}
    (h : Alike R r r') : Alike R' r r' := by
  cases h with
  | ok a => exact .ok a
  | refused h => exact .refused (hR _ _ h)
  | overflow o => exact .overflow o

theorem AnsweredAlike.prefixes {l m l' m' : List Exchange} (h : AnsweredAlike l' m') (hl : l <+: l') (hm : m <+: m') :
    AnsweredAlike l m := by
  intro k e f he hf
  exact h k e f (getElem?_of_isPrefix hl he) (getElem?_of_isPrefix hm hf)

theorem AnsweredAlike.of_forall₂ {l m : List Exchange} (h : List.Forall₂ Exchange.Reworded l m) :
    AnsweredAlike l m := by
  intro k e f he hf _
  induction h generalizing k with
  | nil => cases he
  | cons hR _ ih =>
    cases k with
    | zero =>
      cases he
      cases hf
      exact hR
    | succ k => exact ih k he hf

theorem Exchange.Reworded.calls {l m : List Exchange} (h : List.Forall₂ Exchange.Reworded l m) :
    l.map Exchange.call = m.map Exchange.call := by
  induction h with
  | nil => rfl
  | cons hR _ ih =>
    cases hR
    rw [List.map_cons, List.map_cons, ih]

def Service.over {σ τ : Type} (s : Service σ) (b : Store τ) : Service τ :=
  ⟨b, s.config, s.jitter, s.clock⟩

namespace Work

variable {σ τ ε δ α β : Type}

structure Aligned (w : World (Recorded σ)) (v : World (Recorded τ)) : Prop where
  log : List.Forall₂ Exchange.Reworded w.store.log v.store.log
  readings : w.readings = v.readings
  sleeps : w.sleeps = v.sleeps

def Grows (x : Work (Recorded σ) ε α) : Prop :=
  ∀ w, w.store.log <+: (x.outcome w).2.store.log

theorem attempt_store (x : Work (Recorded σ) ε α) (w : World (Recorded σ)) :
    ((attempt x : Work (Recorded σ) δ _).outcome w).2 = (x.outcome w).2 := by
  rw [Work.attempt, outcome_mk]
  rcases x.outcome w with ⟨⟨e | o⟩ | a, u⟩ <;> rfl

theorem prefix_bind {x : Work (Recorded σ) ε α} {f : α → Work (Recorded σ) ε β} (hf : ∀ a, Grows (f a))
    (w : World (Recorded σ)) : (x.outcome w).2.store.log <+: ((x >>= f).outcome w).2.store.log := by
  rw [outcome_bind]
  rcases x.outcome w with ⟨e | a, u⟩
  · exact List.prefix_rfl
  · exact hf a u

theorem Grows.bind {x : Work (Recorded σ) ε α} {f : α → Work (Recorded σ) ε β} (hx : Grows x)
    (hf : ∀ a, Grows (f a)) : Grows (x >>= f) :=
  fun w => (hx w).trans (prefix_bind hf w)

theorem Grows.attempt {x : Work (Recorded σ) ε α} (hx : Grows x) : Grows (attempt x : Work (Recorded σ) δ _) := by
  intro w
  rw [attempt_store]
  exact hx w

/-- Two computations that do the same and end alike, if they are answered alike on the way. -/
structure Twins (R : ε → ε → Prop) (x : Work (Recorded σ) ε α) (y : Work (Recorded τ) ε α) : Prop where
  left : Grows x
  right : Grows y
  agree : ∀ w v, Aligned w v → AnsweredAlike (x.outcome w).2.store.log (y.outcome v).2.store.log →
    Aligned (x.outcome w).2 (y.outcome v).2 ∧ Alike R (x.outcome w).1 (y.outcome v).1

namespace Twins

variable {R : ε → ε → Prop}

theorem of_unasked {x : Work (Recorded σ) ε α} {y : Work (Recorded τ) ε α}
    (hx : ∀ w, (x.outcome w).2.store = w.store) (hy : ∀ v, (y.outcome v).2.store = v.store)
    (h : ∀ w v, Aligned w v → (x.outcome w).2.readings = (y.outcome v).2.readings ∧
      (x.outcome w).2.sleeps = (y.outcome v).2.sleeps ∧ Alike R (x.outcome w).1 (y.outcome v).1) : Twins R x y := by
  refine ⟨?_, ?_, ?_⟩
  · intro w
    exact ⟨[], (List.append_nil _).trans (congrArg Recorded.log (hx w)).symm⟩
  · intro v
    exact ⟨[], (List.append_nil _).trans (congrArg Recorded.log (hy v)).symm⟩
  · intro w v hwv _
    obtain ⟨hreadings, hsleeps, halike⟩ := h w v hwv
    refine ⟨⟨?_, hreadings, hsleeps⟩, halike⟩
    rw [hx, hy]
    exact hwv.log

theorem pure (a : α) : Twins R (pure a : Work (Recorded σ) ε α) (pure a : Work (Recorded τ) ε α) :=
  of_unasked (fun _ => rfl) (fun _ => rfl) fun _ _ h => ⟨h.readings, h.sleeps, .ok a⟩

theorem settled {r : Except (Stop ε) α} (hr : Alike R r r) :
    Twins R (settled r : Work (Recorded σ) ε α) (settled r : Work (Recorded τ) ε α) :=
  of_unasked (fun _ => rfl) (fun _ => rfl) fun _ _ h => ⟨h.readings, h.sleeps, hr⟩

theorem refuse {e f : ε} (h : R e f) :
    Twins R (refuse e : Work (Recorded σ) ε α) (refuse f : Work (Recorded τ) ε α) :=
  of_unasked (fun _ => rfl) (fun _ => rfl) fun _ _ hwv => ⟨hwv.readings, hwv.sleeps, .refused h⟩

theorem tell (e f : Event) : Twins R (tell e : Work (Recorded σ) ε Unit) (tell f : Work (Recorded τ) ε Unit) :=
  of_unasked (fun _ => rfl) (fun _ => rfl) fun _ _ h => ⟨h.readings, h.sleeps, .ok ()⟩

theorem sleep (d : Delay) : Twins R (sleep d : Work (Recorded σ) ε Unit) (sleep d : Work (Recorded τ) ε Unit) :=
  of_unasked (fun _ => rfl) (fun _ => rfl) fun _ _ h => ⟨h.readings, congrArg (· ++ [d]) h.sleeps, .ok ()⟩

theorem adapt {R' : δ → δ → Prop} {f : ε → δ} (hf : ∀ d e, R d e → R' (f d) (f e)) {x : Work (Recorded σ) ε α}
    {y : Work (Recorded τ) ε α} (hxy : Twins R x y) : Twins R' (adapt f x) (adapt f y) := by
  refine ⟨hxy.left, hxy.right, ?_⟩
  intro w v hwv hlogs
  obtain ⟨haligned, halike⟩ := hxy.agree w v hwv hlogs
  refine ⟨haligned, ?_⟩
  rw [outcome_adapt, outcome_adapt]
  generalize (x.outcome w).1 = r, (y.outcome v).1 = r' at halike ⊢
  cases halike with
  | ok a => exact .ok a
  | refused h => exact .refused (hf _ _ h)
  | overflow o => exact .overflow o

theorem bind {x : Work (Recorded σ) ε α} {y : Work (Recorded τ) ε α} {f : α → Work (Recorded σ) ε β}
    {g : α → Work (Recorded τ) ε β} (hxy : Twins R x y) (hfg : ∀ a, Twins R (f a) (g a)) :
    Twins R (x >>= f) (y >>= g) := by
  have hf : ∀ a, Grows (f a) := fun a => (hfg a).left
  have hg : ∀ a, Grows (g a) := fun a => (hfg a).right
  refine ⟨hxy.left.bind hf, hxy.right.bind hg, ?_⟩
  intro w v hwv hlogs
  obtain ⟨haligned, halike⟩ := hxy.agree w v hwv (hlogs.prefixes (prefix_bind hf w) (prefix_bind hg v))
  rw [outcome_bind, outcome_bind] at hlogs ⊢
  rcases hx : x.outcome w with ⟨r, u⟩
  rcases hy : y.outcome v with ⟨r', u'⟩
  simp only [hx, hy] at haligned halike hlogs ⊢
  cases halike with
  | ok a => exact (hfg a).agree u u' haligned hlogs
  | refused h => exact ⟨haligned, .refused h⟩
  | overflow o => exact ⟨haligned, .overflow o⟩

theorem attempt_bind {R' : δ → δ → Prop} (hR : ∀ e, R e e) {x : Work (Recorded σ) ε α} {y : Work (Recorded τ) ε α}
    {f : Except ε α → Work (Recorded σ) δ β} {g : Except ε α → Work (Recorded τ) δ β} (hxy : Twins R x y)
    (hok : ∀ a, Twins R' (f (.ok a)) (g (.ok a))) (herror : ∀ d e, R d e → Twins R' (f (.error d)) (g (.error e))) :
    Twins R' (attempt x >>= f) (attempt y >>= g) := by
  have hf : ∀ r, Grows (f r) := by
    rintro (e | a)
    · exact (herror e e (hR e)).left
    · exact (hok a).left
  have hg : ∀ r, Grows (g r) := by
    rintro (e | a)
    · exact (herror e e (hR e)).right
    · exact (hok a).right
  refine ⟨hxy.left.attempt.bind hf, hxy.right.attempt.bind hg, ?_⟩
  intro w v hwv hlogs
  have hleft := prefix_bind hf (x := attempt x) w
  have hright := prefix_bind hg (x := attempt y) v
  rw [attempt_store] at hleft hright
  obtain ⟨haligned, halike⟩ := hxy.agree w v hwv (hlogs.prefixes hleft hright)
  rw [outcome_bind, outcome_bind, attempt, attempt, outcome_mk, outcome_mk] at hlogs ⊢
  rcases hx : x.outcome w with ⟨r, u⟩
  rcases hy : y.outcome v with ⟨r', u'⟩
  simp only [hx, hy] at haligned halike hlogs ⊢
  cases halike with
  | ok a => exact (hok a).agree u u' haligned hlogs
  | refused h => exact (herror _ _ h).agree u u' haligned hlogs
  | overflow o => exact ⟨haligned, .overflow o⟩

section Services

variable (s : Service σ) (b : Store τ)

theorem now : Twins R s.recorded.now (s.over b).recorded.now := by
  apply of_unasked
  · exact fun _ => rfl
  · exact fun _ => rfl
  · intro w v h
    rw [outcome_now, outcome_now, h.readings]
    exact ⟨rfl, h.sleeps, .ok _⟩

theorem ask (c : Call) : Twins StoreError.Reworded (s.recorded.ask c) ((s.over b).recorded.ask c) := by
  refine ⟨fun _ => List.prefix_append _ _, fun _ => List.prefix_append _ _, ?_⟩
  intro w v h hlogs
  have hlast : Exchange.Reworded ⟨c, (s.store c w.store.inner).outcome⟩ ⟨c, (b c v.store.inner).outcome⟩ := by
    apply hlogs w.store.log.length
    · exact List.getElem?_concat_length
    · rw [h.log.length_eq]
      exact List.getElem?_concat_length
    · rfl
  have halike : Alike StoreError.Reworded (s.store c w.store.inner).outcome (b c v.store.inner).outcome := by
    cases hlast with
    | mk _ h => exact h
  exact ⟨⟨List.rel_append h.log (.cons hlast .nil), h.readings, h.sleeps⟩, halike⟩

theorem ask_adapted (c : Call) : Twins ServiceError.Reworded (Work.adapt ServiceError.ofStore (s.recorded.ask c))
    (Work.adapt ServiceError.ofStore ((s.over b).recorded.ask c)) :=
  .adapt (fun _ _ h => ServiceError.ofStore_reworded h) (.ask s b c)

end Services

end Twins

end Work

namespace Service

open Work

variable {σ τ : Type} (s : Service σ) (b : Store τ) (m : Intent)

theorem overlapping_twins (p : Polygon) (exclude : Option FarmId) :
    Twins ServiceError.Reworded (s.recorded.overlapping p exclude) ((s.over b).recorded.overlapping p exclude) := by
  refine .bind (.ask_adapted s b _) ?_
  intro farms
  exact .pure _

theorem checkGround_twins (f : Farm) :
    Twins ServiceError.Reworded (s.recorded.checkGround f) ((s.over b).recorded.checkGround f) := by
  unfold checkGround
  by_cases hreject : s.config.overlaps = .reject
  · have hleft : s.recorded.config.overlaps = .reject := hreject
    have hright : (s.over b).recorded.config.overlaps = .reject := hreject
    rw [if_pos hleft, if_pos hright]
    refine .bind (s.overlapping_twins b _ _) ?_
    intro ids
    cases ids with
    | nil => exact .pure _
    | cons i is => exact .refuse (.same _)
  · have hleft : s.recorded.config.overlaps ≠ .reject := hreject
    have hright : (s.over b).recorded.config.overlaps ≠ .reject := hreject
    rw [if_neg hleft, if_neg hright]
    exact .pure _

theorem draft_twins : Twins Setback.Reworded (s.recorded.draft m) ((s.over b).recorded.draft m) := by
  have hcurrent : Twins StoreError.Reworded (s.recorded.current m) ((s.over b).recorded.current m) := by
    cases m with
    | create f => exact .pure none
    | _ => exact .ask s b _
  refine .bind (.adapt (fun _ _ => .store) hcurrent) ?_
  intro farm
  refine .bind (.now s b) ?_
  intro now
  refine .bind (.adapt (R := ServiceError.Reworded) (fun _ _ => .final) (.settled (.refl .same _))) ?_
  intro plan
  refine .bind ?_ fun _ => .pure plan
  cases m.claimant? plan with
  | none => exact .pure _
  | some f => exact .adapt (fun _ _ => .final) (s.checkGround_twins b f)

theorem carryOut_twins (plan : Plan) :
    Twins Setback.Reworded (s.recorded.carryOut m plan) ((s.over b).recorded.carryOut m plan) := by
  cases plan with
  | unchanged f => exact .bind (.tell _ _) fun _ => .pure _
  | commit c result =>
    refine .bind (.adapt (fun _ _ => .store) (.ask s b _)) ?_
    intro _
    exact .bind (.tell _ _) fun _ => .pure _

theorem tryOnce_twins : Twins Setback.Reworded (s.recorded.tryOnce m) ((s.over b).recorded.tryOnce m) := by
  rw [tryOnce_eq, tryOnce_eq]
  exact .bind (s.draft_twins b m) (s.carryOut_twins b m)

theorem repair_twins (i : FarmerId) :
    Twins ServiceError.Reworded (s.recorded.repair i) ((s.over b).recorded.repair i) := by
  refine .bind (.ask_adapted s b _) ?_
  intro farmer
  exact .tell _ _

theorem backOff_twins (conflicts : Nat) (detail detail' : String) :
    Twins ServiceError.Reworded (s.recorded.backOff m conflicts detail)
      ((s.over b).recorded.backOff m conflicts detail') := by
  refine .bind (.now s b) ?_
  intro now
  exact .bind (.tell _ _) fun _ => .sleep _

theorem retry_twins (conflicts : Nat) (repaired : Bool) :
    Twins ServiceError.Reworded (s.recorded.retry m conflicts repaired)
      ((s.over b).recorded.retry m conflicts repaired) := by
  induction conflicts, repaired using retry.induct (s := s) with
  | case1 conflicts repaired ihConflict ihRepair =>
    have hleft : s.recorded.config = s.config := rfl
    have hright : (s.over b).recorded.config = s.config := rfl
    rw [retry.eq_def s.recorded, retry.eq_def (s.over b).recorded]
    simp only [hleft, hright]
    refine .attempt_bind Setback.Reworded.refl (s.tryOnce_twins b m) ?_ ?_
    · intro farm
      exact .pure farm
    · rintro d e (h | h)
      · exact .refuse h
      · cases h with
        | conflict detail detail' =>
          by_cases hspent : s.config.retry.attempts ≤ conflicts + 1
          · simp only [hspent, ↓reduceDIte]
            exact .bind (.tell _ _) fun _ => .refuse (.same _)
          · simp only [hspent, ↓reduceDIte]
            exact .bind (s.backOff_twins b m _ _ _) fun _ => ihConflict hspent
        | negativeAggregate i =>
          refine .bind (.tell _ _) ?_
          intro _
          by_cases hrepaired : repaired
          · simp only [hrepaired]
            exact .refuse (.same _)
          · simp only [hrepaired]
            exact .bind (s.repair_twins b i) fun _ => ihRepair hrepaired
        | connection n n' => exact .refuse (.repository n n')
        | query n n' => exact .refuse (.repository n n')
        | _ => exact .refuse (.same _)

theorem run_twins : Twins ServiceError.Reworded (s.recorded.run m) ((s.over b).recorded.run m) :=
  s.retry_twins b m 0 false

theorem runToFarm_twins :
    Twins ServiceError.Reworded (s.recorded.runToFarm m) ((s.over b).recorded.runToFarm m) := by
  refine .bind (s.run_twins b m) ?_
  intro farm
  cases farm with
  | none => exact .refuse (.same _)
  | some f => exact .pure f

theorem validate_twins (boundary : Ring) : Twins ServiceError.Reworded
    (validate boundary : Work (Recorded σ) _ _) (validate boundary : Work (Recorded τ) _ _) :=
  .settled (.refl .same _)

theorem perform_twins (o : Operation) :
    Twins ServiceError.Reworded (s.recorded.perform o) ((s.over b).recorded.perform o) := by
  cases o with
  | registerFarmer i => exact .ask_adapted s b _
  | create i r =>
    refine .bind (validate_twins _) ?_
    intro polygon
    exact .bind (.now s b) fun _ => s.runToFarm_twins b _
  | reshape r => exact .bind (validate_twins _) fun _ => s.runToFarm_twins b _
  | retire i => exact s.runToFarm_twins b _
  | restore i => exact s.runToFarm_twins b _
  | erase i => exact .bind (s.run_twins b _) fun _ => .pure _
  | reassign r => exact s.runToFarm_twins b _
  | reconcileFarmer i =>
    refine .bind (.ask_adapted s b _) ?_
    intro farmer
    exact .bind (.tell _ _) fun _ => .pure _
  | farm i =>
    refine .bind (.ask_adapted s b _) ?_
    intro farm
    cases farm with
    | none => exact .refuse (.same _)
    | some f => exact .pure f
  | farmer i =>
    refine .bind (.ask_adapted s b _) ?_
    intro farmer
    cases farmer with
    | none => exact .refuse (.same _)
    | some f => exact .pure f
  | overlappingFarms r => exact .bind (validate_twins _) fun _ => s.overlapping_twins b _ _
  | allOverlaps =>
    refine .bind (.ask_adapted s b _) ?_
    intro farms
    exact .bind (.tell _ _) fun _ => .pure _
  | rebuildIndex =>
    refine .bind (.ask_adapted s b _) ?_
    intro _
    exact .tell _ _

/-- A service that is answered alike by two stores, but for the words of their drivers, asks both the same, waits the
same, and fails alike for all that can be seen from outside, if it fails. -/
theorem driver_text_hidden (o : Operation) (x : σ) (y : τ) :
    let left := (s.recorded.perform o).outcome (World.ofStore x).recorded
    let right := ((s.over b).recorded.perform o).outcome (World.ofStore y).recorded
    (left.1, left.2.bare) = (s.perform o).outcome (.ofStore x) ∧
      (right.1, right.2.bare) = ((s.over b).perform o).outcome (.ofStore y) ∧
      (AnsweredAlike left.2.store.log right.2.store.log →
        left.2.store.log.map Exchange.call = right.2.store.log.map Exchange.call ∧
        left.2.sleeps = right.2.sleeps ∧ Alike ServiceError.ToldAlike left.1 right.1) := by
  intro left right
  refine ⟨s.perform_recorded o _, (s.over b).perform_recorded o _, ?_⟩
  intro hlogs
  have hstart : Aligned (World.ofStore x).recorded (World.ofStore y).recorded := ⟨.nil, rfl, rfl⟩
  obtain ⟨haligned, halike⟩ := (s.perform_twins b o).agree _ _ hstart hlogs
  exact ⟨Exchange.Reworded.calls haligned.log, haligned.sleeps, halike.imp fun _ _ h => h.toldAlike⟩

def unreachable (words : String) : Store Unit :=
  fun _ x => .refused (.connection words) x

def cutOff (words : String) : Service Unit :=
  ⟨unreachable words, .standard, .none, fun _ => ⟨0, 0⟩⟩

theorem cutOff_erase (words : String) (i : FarmId) :
    ((cutOff words).recorded.perform (.erase i)).outcome (World.ofStore ()).recorded =
      (.error (.refused (.repository words)),
        ⟨⟨(), [⟨.findFarm i, .error (.refused (.connection words))⟩]⟩, 0, [], []⟩) := by
  change Work.outcome (do let _ ← (cutOff words).recorded.run (.erase i)) _ = _
  rw [run, retry]
  rfl

theorem cutOff_alike :
    let i : FarmId := ⟨⟨⟨3, by decide⟩⟩⟩
    let left := ((cutOff "reset by peer").recorded.perform (.erase i)).outcome (World.ofStore ()).recorded
    let right := (((cutOff "reset by peer").over (unreachable "timed out")).recorded.perform (.erase i)).outcome
      (World.ofStore ()).recorded
    left.1 = .error (.refused (.repository "reset by peer")) ∧ right.1 = .error (.refused (.repository "timed out")) ∧
      AnsweredAlike left.2.store.log right.2.store.log ∧ Alike ServiceError.ToldAlike left.1 right.1 := by
  intro i left right
  have hleft := cutOff_erase "reset by peer" i
  have hright := cutOff_erase "timed out" i
  have hlogs : AnsweredAlike left.2.store.log right.2.store.log := by
    have hsame : left = _ := hleft
    have hother : right = _ := hright
    rw [hsame, hother]
    exact .of_forall₂ (.cons (.mk _ (.refused (.connection _ _))) .nil)
  obtain ⟨_, _, halike⟩ := driver_text_hidden (cutOff "reset by peer") (unreachable "timed out") (.erase i) () ()
  exact ⟨congrArg Prod.fst hleft, congrArg Prod.fst hright, hlogs, (halike hlogs).2.2⟩

end Service

end FarmRegistry
