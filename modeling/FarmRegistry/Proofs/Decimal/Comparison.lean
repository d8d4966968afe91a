import FarmRegistry.Proofs.Decimal.Order
import Mathlib.Tactic.NormNum

namespace FarmRegistry.Decimal

open Float.Model (Format UnpackedFloat)
open Float.Model.UnpackedFloat

namespace Binary

section Fields

variable (x : Float)

theorem ofFloat_exponentField_lt : (ofFloat x).exponentField < 2048 :=
  Nat.mod_lt _ (by decide)

theorem exponentField_eq : (ofFloat x).exponentField = (@unpackExponent .binary64 x.toBits.toBitVec).toNat := by
  simp only [ofFloat, unpackExponent, BitVec.toNat_cast, BitVec.extractLsb_toNat, Nat.shiftRight_eq_div_pow]
  rfl

theorem fraction_eq : (ofFloat x).fraction = (@unpackMantissa .binary64 x.toBits.toBitVec).toNat := by
  simp [ofFloat, unpackMantissa, BitVec.extractLsb_toNat]

theorem unpackSign_toNat (bits : BitVec 64) : (@unpackSign .binary64 bits).toNat = bits.toNat / twoTo 63 % 2 := by
  change (bits.extractLsb 63 63).toNat = _
  rw [BitVec.extractLsb_toNat, Nat.shiftRight_eq_div_pow]

theorem negative_iff : (ofFloat x).negative ↔ @unpackSign .binary64 x.toBits.toBitVec = 1#1 := by
  rw [← BitVec.toNat_inj, unpackSign_toNat]
  simp [ofFloat]

end Fields

def sign (b : Binary) : Sign :=
  if b.negative then .negative else .positive

theorem sign_eq (x : Float) : Sign.ofBitVec (@unpackSign .binary64 x.toBits.toBitVec) = (ofFloat x).sign := by
  have hneg := negative_iff x
  unfold sign Sign.ofBitVec
  by_cases h : (ofFloat x).negative
  · rw [if_pos h, hneg.mp h]
    rfl
  · rw [if_neg h, if_pos]
    exact (BitVec.eq_zero_or_eq_one _).resolve_right (mt hneg.mpr h)

def unpacked (b : Binary) : UnpackedFloat :=
  if b.exponentField = 2047 then if b.fraction = 0 then .infinity b.sign else .notANumber
  else if h : 0 < b.significand then .finite b.sign b.significand (b.scale - 1074) h
  else .zero b.sign

theorem toNat_implicit (m : BitVec 52) : (1#1 ++ m).toNat = twoTo 52 + m.toNat := by
  rw [BitVec.toNat_append, ← Nat.shiftLeft_add_eq_or_of_lt m.isLt]
  rfl

theorem finite_congr {s : Sign} {m n : ℕ} {e f : ℤ} {hm : 0 < m} (hn : 0 < n) (hmn : m = n) (hef : e = f) :
    UnpackedFloat.finite s m e hm = .finite s n f hn := by
  subst hmn hef
  rfl

theorem unpack_eq (x : Float) : x.toModel.unpack = (ofFloat x).unpacked := by
  have hexp := exponentField_eq x
  have hfrac := fraction_eq x
  have hsign := sign_eq x
  change UnpackedFloat.unpack .binary64 x.toBits.toBitVec = _
  generalize ofFloat x = b at hexp hfrac hsign ⊢
  generalize x.toBits.toBitVec = bits at hexp hfrac hsign ⊢
  have hspecial : @unpackExponent .binary64 bits = -1#11 ↔ b.exponentField = 2047 := by
    rw [hexp, ← BitVec.toNat_inj]
    rfl
  have hlow : @unpackExponent .binary64 bits = 0#11 ↔ b.exponentField = 0 := by
    rw [hexp, ← BitVec.toNat_inj]
    rfl
  have hnone : @unpackMantissa .binary64 bits = 0#52 ↔ b.fraction = 0 := by
    rw [hfrac, ← BitVec.toNat_inj]
    rfl
  have hbias : ((Format.binary64.exponentBias : ℤ) + Format.binary64.mantissaBitsWithoutImplicit) = 1075 := rfl
  unfold UnpackedFloat.unpack unpacked
  dsimp only
  rw [hsign, hbias, ← hexp]
  by_cases h : b.exponentField = 2047
  · rw [if_pos (hspecial.mpr h), if_pos h]
    by_cases hf : b.fraction = 0
    · rw [if_pos (hnone.mpr hf), if_pos hf]
    · rw [if_neg (mt hnone.mp hf), if_neg hf]
  · rw [if_neg (mt hspecial.mp h), if_neg h]
    by_cases he : b.exponentField = 0
    · have hs : b.significand = b.fraction := if_pos he
      have hscale : b.scale = 0 := by rw [scale, he]
      rw [if_pos (hlow.mpr he)]
      by_cases hf : b.fraction = 0
      · rw [dif_pos (hnone.mpr hf), dif_neg (by omega)]
      · rw [dif_neg (mt hnone.mp hf), dif_pos (by omega)]
        exact finite_congr _ (by omega) (by omega)
    · have hs : b.significand = twoTo 52 + b.fraction := significand_of_pos (by omega)
      have hscale : b.scale = b.exponentField - 1 := rfl
      have hpos : 0 < b.significand := by
        rw [hs]
        exact Nat.add_pos_left (Nat.two_pow_pos 52) _
      rw [if_neg (mt hlow.mp he), dif_pos hpos]
      refine finite_congr _ ?_ (by omega)
      rw [toNat_implicit, ← hfrac, hs]

variable {b c : Binary}

def magnitude (b : Binary) : ℕ :=
  b.significand * twoTo b.scale

@[simp]
def signed : Sign → ℕ → ℤ
  | .positive, m => m
  | .negative, m => -m

theorem units_eq_signed (b : Binary) : b.units = signed b.sign b.magnitude := by
  unfold units sign signed
  cases b.negative <;> rfl

theorem signed_le_of_lt {s t : Sign} {m n : ℕ} (h : m < n) : signed s m ≤ signed t n ↔ t = .positive := by
  cases s <;> cases t <;> simp <;> omega

theorem signed_le_of_gt {s t : Sign} {m n : ℕ} (h : n < m) : signed s m ≤ signed t n ↔ s = .negative := by
  cases s <;> cases t <;> simp <;> omega

theorem magnitude_pos (h : 0 < b.significand) : 0 < b.magnitude :=
  Nat.mul_pos h (Nat.two_pow_pos _)

theorem magnitude_eq_zero (h : b.significand = 0) : b.magnitude = 0 := by
  rw [magnitude, h, Nat.zero_mul]

theorem magnitude_congr (he : b.exponentField = c.exponentField) (hf : b.fraction = c.fraction) :
    b.magnitude = c.magnitude := by
  unfold magnitude significand scale
  rw [he, hf]

theorem magnitude_lt_of_exponentField_lt (hb : b.fraction < twoTo 52) (h : b.exponentField < c.exponentField) :
    b.magnitude < c.magnitude := by
  have hscale : b.exponentField ≤ c.scale := Nat.le_sub_one_of_lt h
  have hsignificand : twoTo 52 ≤ c.significand := by
    rw [significand_of_pos (by omega)]
    exact Nat.le_add_right _ _
  calc b.magnitude
      < twoTo 52 * twoTo b.exponentField := magnitude_lt hb
    _ ≤ c.magnitude := Nat.mul_le_mul hsignificand (Nat.pow_le_pow_right (by decide) hscale)

theorem compare_magnitude (hb : b.fraction < twoTo 52) (hc : c.fraction < twoTo 52) :
    (compare (b.scale - 1074 : ℤ) (c.scale - 1074)).then (compare b.significand c.significand) =
      compare b.magnitude c.magnitude := by
  rcases Nat.lt_trichotomy b.scale c.scale with hlt | heq | hgt
  · have hexp : b.exponentField < c.exponentField := by
      unfold scale at hlt
      omega
    rw [compare_lt_iff_lt.mpr (magnitude_lt_of_exponentField_lt hb hexp), compare_lt_iff_lt.mpr (by omega)]
    rfl
  · have hpos : 0 < twoTo c.scale := Nat.two_pow_pos _
    rw [compare_eq_iff_eq.mpr (by omega), magnitude, magnitude, heq]
    change compare _ _ = _
    rcases Nat.lt_trichotomy b.significand c.significand with hlt | heq | hgt
    · rw [compare_lt_iff_lt.mpr hlt, compare_lt_iff_lt.mpr (Nat.mul_lt_mul_of_pos_right hlt hpos)]
    · rw [heq, compare_eq_iff_eq.mpr rfl, compare_eq_iff_eq.mpr rfl]
    · rw [compare_gt_iff_gt.mpr hgt, compare_gt_iff_gt.mpr (Nat.mul_lt_mul_of_pos_right hgt hpos)]
  · have hexp : c.exponentField < b.exponentField := by
      unfold scale at hgt
      omega
    rw [compare_gt_iff_gt.mpr (magnitude_lt_of_exponentField_lt hc hexp), compare_gt_iff_gt.mpr (by omega)]
    rfl

inductive Kind (b : Binary) : UnpackedFloat → Prop where
  | notANumber : b.isNaN → Kind b .notANumber
  | infinite : b.exponentField = 2047 → b.fraction = 0 → Kind b (.infinity b.sign)
  | finite (h : 0 < b.significand) : b.exponentField < 2047 → Kind b (.finite b.sign b.significand (b.scale - 1074) h)
  | zero : b.exponentField < 2047 → b.significand = 0 → Kind b (.zero b.sign)

theorem unpacked_kind (h : b.exponentField < 2048) : b.Kind b.unpacked := by
  unfold unpacked
  by_cases hexp : b.exponentField = 2047
  · rw [if_pos hexp]
    by_cases hf : b.fraction = 0
    · rw [if_pos hf]
      exact .infinite hexp hf
    · rw [if_neg hf]
      exact .notANumber (by simp [isNaN, hexp, hf])
  · rw [if_neg hexp]
    by_cases hpos : 0 < b.significand
    · rw [dif_pos hpos]
      exact .finite hpos (by omega)
    · rw [dif_neg hpos]
      exact .zero (by omega) (by omega)

theorem ofFloat_kind (x : Float) : (ofFloat x).Kind x.toModel.unpack := by
  rw [unpack_eq]
  exact unpacked_kind (ofFloat_exponentField_lt x)

theorem magnitude_pos_of_infinite (h : b.exponentField = 2047) : 0 < b.magnitude := by
  apply magnitude_pos
  rw [significand_of_pos (by omega)]
  exact Nat.add_pos_left (Nat.two_pow_pos 52) _

@[simp]
theorem isLE_compare_sign (s t : Sign) : (compare s t).isLE = true ↔ s = .negative ∨ t = .positive := by
  cases s <;> cases t <;> simp <;> rfl

theorem Kind.le_iff {u v : UnpackedFloat} (hu : b.Kind u) (hv : c.Kind v) (hb : b.fraction < twoTo 52)
    (hc : c.fraction < twoTo 52) (hbn : ¬b.isNaN) (hcn : ¬c.isNaN) : u.le v ↔ b.units ≤ c.units := by
  rw [units_eq_signed, units_eq_signed]
  cases hu with
  | notANumber h => exact absurd h hbn
  | infinite he hf =>
    cases hv with
    | notANumber h => exact absurd h hcn
    | infinite he' hf' =>
      have hpos := magnitude_pos_of_infinite he
      have hsame := magnitude_congr (he.trans he'.symm) (hf.trans hf'.symm)
      cases b.sign <;> cases c.sign <;> dsimp only [UnpackedFloat.le, UnpackedFloat.compare] <;> simp <;> omega
    | finite _ hlt | zero hlt =>
      rw [signed_le_of_gt (magnitude_lt_of_exponentField_lt hc (by omega))]
      cases b.sign <;> dsimp only [UnpackedFloat.le, UnpackedFloat.compare] <;> simp
  | finite hpos hlt =>
    have hpos := magnitude_pos hpos
    cases hv with
    | notANumber h => exact absurd h hcn
    | infinite he =>
      rw [signed_le_of_lt (magnitude_lt_of_exponentField_lt hb (by omega))]
      cases c.sign <;> dsimp only [UnpackedFloat.le, UnpackedFloat.compare] <;> simp
    | finite hpos' =>
      have hpos' := magnitude_pos hpos'
      have hnear := compare_magnitude hb hc
      cases b.sign <;> cases c.sign <;> dsimp only [UnpackedFloat.le, UnpackedFloat.compare] <;>
        simp [hnear, Nat.isLE_compare, Nat.isGE_compare]
      omega
    | zero _ hzero =>
      rw [magnitude_eq_zero hzero, signed_le_of_gt hpos]
      cases b.sign <;> dsimp only [UnpackedFloat.le, UnpackedFloat.compare] <;> simp
  | zero hlt hzero =>
    rw [magnitude_eq_zero hzero]
    cases hv with
    | notANumber h => exact absurd h hcn
    | infinite he =>
      rw [signed_le_of_lt (magnitude_pos_of_infinite he)]
      cases c.sign <;> dsimp only [UnpackedFloat.le, UnpackedFloat.compare] <;> simp
    | finite hpos =>
      rw [signed_le_of_lt (magnitude_pos hpos)]
      cases c.sign <;> dsimp only [UnpackedFloat.le, UnpackedFloat.compare] <;> simp
    | zero _ hzero' =>
      rw [magnitude_eq_zero hzero']
      cases b.sign <;> cases c.sign <;> dsimp only [UnpackedFloat.le, UnpackedFloat.compare] <;> simp

theorem Kind.eq_notANumber {u : UnpackedFloat} (hu : b.Kind u) (h : b.isNaN) : u = .notANumber := by
  simp only [isNaN, Bool.and_eq_true, beq_iff_eq, bne_iff_ne] at h
  cases hu with
  | notANumber => rfl
  | infinite _ hf => exact absurd hf h.2
  | finite _ hlt | zero hlt => omega

theorem Kind.not_le {u v : UnpackedFloat} (hu : b.Kind u) (hv : c.Kind v) (h : b.isNaN ∨ c.isNaN) : ¬u.le v := by
  rcases h with h | h
  · rw [hu.eq_notANumber h]
    exact Bool.false_ne_true
  · rw [hv.eq_notANumber h]
    cases u <;> exact Bool.false_ne_true

end Binary

def isNaN (x : Float) : Bool :=
  (Binary.ofFloat x).isNaN

variable {x y z : Float}

theorem le_iff : x ≤ y ↔ (¬isNaN x ∧ ¬isNaN y) ∧ units x ≤ units y := by
  have hle : x ≤ y ↔ x.toModel.unpack.le y.toModel.unpack := decide_eq_true_iff
  have hx := Binary.ofFloat_kind x
  have hy := Binary.ofFloat_kind y
  rw [hle, ← not_or]
  by_cases h : isNaN x ∨ isNaN y
  · exact iff_of_false (hx.not_le hy h) (fun hboth => hboth.1 h)
  · obtain ⟨hxn, hyn⟩ := not_or.mp h
    rw [hx.le_iff hy (Binary.ofFloat_fraction_lt x) (Binary.ofFloat_fraction_lt y) hxn hyn]
    exact (and_iff_right h).symm

theorem le_trans (hxy : x ≤ y) (hyz : y ≤ z) : x ≤ z := by
  rw [le_iff] at *
  exact ⟨⟨hxy.1.1, hyz.1.2⟩, hxy.2.trans hyz.2⟩

end FarmRegistry.Decimal
