import FarmRegistry.Proofs.Totals.Exact

namespace FarmRegistry

namespace Totals

def Short (sums : Int × Int) : Prop :=
  sums.1 < 0 ∨ sums.2 < 0

def Excessive (sums : Int × Int) : Prop :=
  9223372036854775807 < sums.1 ∨ 4294967295 < sums.2

theorem not_fits_iff {sums : Int × Int} : ¬Fits sums ↔ Short sums ∨ Excessive sums := by
  simp only [Fits, Short, Excessive]
  omega

end Totals

namespace Farmer

variable {f : Farmer} {d : TotalsDelta} {e : TotalsError} {i : FarmerId}

theorem apply_foreign (h : d.farmerId ≠ f.id) : f.apply d = .error (.mismatchedFarmer f.id d.farmerId) := by
  simp only [apply, bne_iff_ne, ne_eq, h, not_false_eq_true, ↓reduceIte]

theorem apply_refused (hid : d.farmerId = f.id) (h : f.apply d = .error e) :
    (e = .negative f.id ∧ Totals.Short (f.standing + d.amount)) ∨
      (e = .overflow f.id ∧
        (Totals.Excessive (f.standing + d.amount) ∨ (f.standing + d.amount).1 < -9223372036854775808)) := by
  simp only [apply, bne_iff_ne, ne_eq, ite_not, if_pos hid] at h
  split at h
  case h_1 hadd =>
    have hrange := Area.ofInt?_eq_none_iff.mp hadd
    cases h
    refine .inr ⟨rfl, ?_⟩
    simp only [Totals.Excessive, standing, TotalsDelta.amount, Prod.mk_add_mk]
    omega
  case h_2 a ha =>
    have harea := Area.add?_eq_some_iff.mp ha
    split at h
    case isTrue hneg =>
      simp only [Area.isNegative, Bool.or_eq_true, decide_eq_true_eq, harea] at hneg
      cases h
      exact .inl ⟨rfl, hneg⟩
    case isFalse hneg =>
      split at h
      case h_1 hcount =>
        have hrange := Bounded.ofInt?_eq_none_iff.mp hcount
        simp only [Bool.or_eq_true, decide_eq_true_eq, not_or, Int.not_lt] at hneg
        cases h
        refine .inr ⟨rfl, .inl (.inr ?_)⟩
        simp only [standing, TotalsDelta.amount, Prod.mk_add_mk]
        omega
      case h_2 => cases h

theorem apply_refused_of_nonneg (hf : 0 ≤ f.totalArea.val) (hid : d.farmerId = f.id) (h : f.apply d = .error e) :
    (e = .negative f.id ∧ Totals.Short (f.standing + d.amount)) ∨
      (e = .overflow f.id ∧ Totals.Excessive (f.standing + d.amount)) := by
  rcases apply_refused hid h with hshort | ⟨he, hexcess | hlow⟩
  · exact .inl hshort
  · exact .inr ⟨he, hexcess⟩
  · have hlo := d.area.lo_le
    simp only [standing, TotalsDelta.amount, Prod.mk_add_mk] at hlow
    omega

theorem apply_totalArea_nonneg {g : Farmer} (h : f.apply d = .ok g) : 0 ≤ g.totalArea.val :=
  (apply_eq_ok_iff.mp h).2.2.2.1.1

theorem standing_fits_iff : Totals.Fits f.standing ↔ 0 ≤ f.totalArea.val := by
  constructor
  · exact fun h => h.1.1
  · exact fun h => ⟨⟨h, f.totalArea.le_hi⟩, f.farmCount.lo_le, f.farmCount.le_hi⟩

section OfParts

variable {a : Area} {n : Int}

theorem not_fits_parts_iff : ¬Totals.Fits (a.val, n) ↔ a.val < 0 ∨ n < 0 ∨ 4294967295 < n := by
  have hhi := a.le_hi
  simp only [Totals.not_fits_iff, Totals.Short, Totals.Excessive]
  omega

theorem ofParts_eq_ok_iff :
    ofParts i a n = .ok f ↔ 0 ≤ a.val ∧ f.id = i ∧ f.totalArea = a ∧ f.farmCount.val = n := by
  unfold ofParts
  cases hneg : a.isNegative with
  | true =>
    have hbelow : a.val < 0 := of_decide_eq_true hneg
    simp only [↓reduceIte, reduceCtorEq, false_iff]
    omega
  | false =>
    have hnonneg : ¬a.val < 0 := of_decide_eq_false hneg
    simp only [Bool.false_eq_true, ↓reduceIte]
    cases hcount : (Bounded.ofInt? n : Option Unsigned32) with
    | none =>
      have hrange := Bounded.ofInt?_eq_none_iff.mp hcount
      have hlo := f.farmCount.lo_le
      have hhi := f.farmCount.le_hi
      simp only [reduceCtorEq, false_iff]
      omega
    | some c =>
      have hval := Bounded.ofInt?_eq_some_iff.mp hcount
      obtain ⟨j, b, m⟩ := f
      simp only [Except.ok.injEq, Farmer.mk.injEq]
      constructor
      · rintro ⟨rfl, rfl, rfl⟩
        exact ⟨Int.not_lt.mp hnonneg, rfl, rfl, hval⟩
      · rintro ⟨_, rfl, rfl, hm⟩
        exact ⟨rfl, rfl, Bounded.ext (hval.trans hm.symm)⟩

theorem exists_ofParts_iff : (∃ f, ofParts i a n = .ok f) ↔ Totals.Fits (a.val, n) := by
  constructor
  · rintro ⟨f, hf⟩
    obtain ⟨hnonneg, _, _, rfl⟩ := ofParts_eq_ok_iff.mp hf
    exact ⟨⟨hnonneg, a.le_hi⟩, f.farmCount.lo_le, f.farmCount.le_hi⟩
  · intro hfits
    obtain ⟨t, ht⟩ := Totals.exists_of_fits hfits
    exact ⟨⟨i, a, t.farmCount⟩, ofParts_eq_ok_iff.mpr ⟨hfits.1.1, rfl, rfl, congrArg Prod.snd ht⟩⟩

theorem ofParts_eq_error_iff : ofParts i a n = .error e ↔ e = .negative i ∧ ¬Totals.Fits (a.val, n) := by
  rw [← exists_ofParts_iff (i := i)]
  have hreason : ∀ e, ofParts i a n = .error e → e = .negative i := by
    intro e h
    unfold ofParts at h
    split at h
    · exact (Except.error.inj h).symm
    · split at h
      · cases h
      · exact (Except.error.inj h).symm
  cases h : ofParts i a n with
  | ok f => simp
  | error e' =>
    obtain rfl := hreason e' h
    simp [eq_comm]

theorem apply_new_eq_ofParts (hid : d.farmerId = i) : (new i).apply d = ofParts i d.area d.farmCount.val := by
  have hstart : (new i).standing + d.amount = (d.area.val, d.farmCount.val) :=
    Prod.ext (Int.zero_add _) (Int.zero_add _)
  have hhi := d.area.le_hi
  have hmost := d.farmCount.le_hi
  cases h : (new i).apply d with
  | ok g =>
    obtain ⟨_, hg, hstand, hfits⟩ := apply_eq_ok_iff.mp h
    rw [hstart] at hstand
    have harea : g.totalArea.val = d.area.val := congrArg Prod.fst hstand
    have hcount : g.farmCount.val = d.farmCount.val := congrArg Prod.snd hstand
    exact (ofParts_eq_ok_iff.mpr ⟨harea ▸ hfits.1.1, hg, Area.ext_val harea, hcount⟩).symm
  | error e =>
    have hzero : 0 ≤ (new i).totalArea.val := Int.le_refl 0
    have hrefused := apply_refused_of_nonneg hzero hid h
    rw [hstart] at hrefused
    rcases hrefused with ⟨he, hshort⟩ | ⟨_, hexcess⟩
    · exact (ofParts_eq_error_iff.mpr ⟨he, Totals.not_fits_iff.mpr (.inl hshort)⟩).symm
    · simp only [Totals.Excessive] at hexcess
      omega

end OfParts

end Farmer

end FarmRegistry
