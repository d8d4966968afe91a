import FarmRegistry.Totals.Farmer
import Mathlib.Algebra.BigOperators.Group.List.Basic
import Mathlib.Algebra.Group.Prod
import Mathlib.Tactic.Abel

namespace FarmRegistry

namespace Area

theorem lo_le (a : Area) : -9223372036854775808 ≤ a.val :=
  a.squareMetres.lo_le

theorem le_hi (a : Area) : a.val ≤ 9223372036854775807 :=
  a.squareMetres.le_hi

theorem zero_val : zero.val = 0 := rfl

theorem add?_eq_some_iff {a b c : Area} : a.add? b = some c ↔ c.val = a.val + b.val := ofInt?_eq_some_iff

theorem ofInt?_eq_none_iff {n : Int} :
    ofInt? n = none ↔ ¬(-9223372036854775808 ≤ n ∧ n ≤ 9223372036854775807) := by
  simp only [ofInt?, Option.map_eq_none_iff, Bounded.ofInt?_eq_none_iff]

theorem exists_ofInt? {n : Int} (h : -9223372036854775808 ≤ n ∧ n ≤ 9223372036854775807) :
    ∃ a, ofInt? n = some a := by
  apply Option.ne_none_iff_exists'.mp
  intro he
  exact ofInt?_eq_none_iff.mp he h

theorem add_eq_ok_iff {a b c : Area} : a.add b = .ok c ↔ c.val = a.val + b.val := by
  rw [← add?_eq_some_iff, add]
  cases a.add? b <;> simp

theorem sub_eq_ok_iff {a b c : Area} : a.sub b = .ok c ↔ c.val = a.val - b.val := by
  rw [sub, ← ofInt?_eq_some_iff, ← sub?]
  cases a.sub? b <;> simp

theorem exists_add {a b : Area} (h : -9223372036854775808 ≤ a.val + b.val ∧ a.val + b.val ≤ 9223372036854775807) :
    ∃ c, a.add b = .ok c ∧ c.val = a.val + b.val := by
  obtain ⟨c, hc⟩ := exists_ofInt? h
  exact ⟨c, add_eq_ok_iff.mpr (ofInt?_eq_some_iff.mp hc), ofInt?_eq_some_iff.mp hc⟩

theorem exists_sub {a b : Area} (h : -9223372036854775808 ≤ a.val - b.val ∧ a.val - b.val ≤ 9223372036854775807) :
    ∃ c, a.sub b = .ok c ∧ c.val = a.val - b.val := by
  obtain ⟨c, hc⟩ := exists_ofInt? h
  exact ⟨c, sub_eq_ok_iff.mpr (ofInt?_eq_some_iff.mp hc), ofInt?_eq_some_iff.mp hc⟩

end Area

namespace Farm

def isHeldBy (i : FarmerId) (f : Farm) : Bool :=
  f.isActive && f.farmerId = i

def heldArea (i : FarmerId) (farms : List Farm) : Int :=
  ((farms.filter (isHeldBy i)).map (·.area.val)).sum

def heldCount (i : FarmerId) (farms : List Farm) : Int :=
  (farms.filter (isHeldBy i)).length

def holding (i : FarmerId) (farms : List Farm) : Int × Int :=
  (heldArea i farms, heldCount i farms)

def share (i : FarmerId) (f : Farm) : Int × Int :=
  if f.isHeldBy i then (f.area.val, 1) else 0

def shareOf (i : FarmerId) (f : Option Farm) : Int × Int :=
  f.elim 0 (share i)

theorem holding_cons (i : FarmerId) (f : Farm) (farms : List Farm) :
    holding i (f :: farms) = f.share i + holding i farms := by
  by_cases h : f.isHeldBy i
  · simp only [holding, heldArea, heldCount, share, List.filter_cons, h, ↓reduceIte, List.map_cons,
      List.sum_cons, List.length_cons, Prod.mk_add_mk, Prod.mk.injEq, true_and]
    omega
  · simp [holding, heldArea, heldCount, share, h]

theorem holding_perm (i : FarmerId) {farms others : List Farm} (h : farms.Perm others) :
    holding i farms = holding i others := by
  induction h with
  | nil => rfl
  | cons f _ ih => rw [holding_cons, holding_cons, ih]
  | swap f g farms =>
    simp only [holding_cons]
    abel
  | trans _ _ ih₁ ih₂ => exact ih₁.trans ih₂

theorem share_nonneg (i : FarmerId) {f : Farm} (h : 0 ≤ f.area.val) : 0 ≤ (f.share i).1 ∧ 0 ≤ (f.share i).2 := by
  unfold share
  split
  · exact ⟨h, Int.one_nonneg⟩
  · exact ⟨Int.le_refl 0, Int.le_refl 0⟩

theorem holding_nonneg (i : FarmerId) {farms : List Farm} (h : ∀ f ∈ farms, 0 ≤ f.area.val) :
    0 ≤ (holding i farms).1 ∧ 0 ≤ (holding i farms).2 := by
  induction farms with
  | nil => exact ⟨Int.le_refl 0, Int.le_refl 0⟩
  | cons f farms ih =>
    obtain ⟨hf, hrest⟩ := List.forall_mem_cons.mp h
    have hs := share_nonneg i hf
    have hr := ih hrest
    rw [holding_cons]
    simp only [Prod.fst_add, Prod.snd_add]
    omega

end Farm

namespace TotalsDelta

def amount (d : TotalsDelta) : Int × Int :=
  (d.area.val, d.farmCount.val)

def amountFor (i : FarmerId) (d : TotalsDelta) : Int × Int :=
  if d.farmerId = i then d.amount else 0

def sumFor (i : FarmerId) (deltas : List TotalsDelta) : Int × Int :=
  (deltas.map (amountFor i)).sum

theorem sumFor_nil (i : FarmerId) : sumFor i [] = 0 := rfl

theorem sumFor_cons (i : FarmerId) (d : TotalsDelta) (deltas : List TotalsDelta) :
    sumFor i (d :: deltas) = d.amountFor i + sumFor i deltas := by
  simp [sumFor]

theorem sumFor_filter (i : FarmerId) (deltas : List TotalsDelta) :
    sumFor i (deltas.filter (!·.isZero)) = sumFor i deltas := by
  induction deltas with
  | nil => rfl
  | cons d deltas ih =>
    by_cases h : d.isZero
    · have ha : d.amountFor i = 0 := by
        simp only [isZero, Bool.and_eq_true, decide_eq_true_eq] at h
        simp [amountFor, amount, h]
      simp [h, sumFor_cons, ha, ih]
    · simp [h, sumFor_cons, ih]

theorem sumFor_absent {i : FarmerId} {deltas : List TotalsDelta} (h : ∀ d ∈ deltas, d.farmerId ≠ i) :
    sumFor i deltas = 0 := by
  induction deltas with
  | nil => rfl
  | cons d deltas ih =>
    obtain ⟨hd, hrest⟩ := List.forall_mem_cons.mp h
    rw [sumFor_cons, ih hrest]
    simp [amountFor, hd]

theorem sumFor_of_mem {deltas : List TotalsDelta} (hd : (deltas.map farmerId).Nodup) {d : TotalsDelta}
    (h : d ∈ deltas) : sumFor d.farmerId deltas = d.amount := by
  induction deltas with
  | nil => cases h
  | cons e deltas ih =>
    rw [List.map_cons, List.nodup_cons] at hd
    rw [sumFor_cons]
    rcases List.mem_cons.mp h with rfl | h
    · have hrest : ∀ e ∈ deltas, e.farmerId ≠ d.farmerId := by
        intro e he hid
        exact hd.1 (hid ▸ List.mem_map_of_mem he)
      rw [sumFor_absent hrest]
      simp [amountFor]
    · have hne : e.farmerId ≠ d.farmerId := by
        intro hid
        rw [hid] at hd
        exact hd.1 (List.mem_map_of_mem h)
      rw [ih hd.2 h]
      simp [amountFor, hne]

end TotalsDelta

end FarmRegistry
