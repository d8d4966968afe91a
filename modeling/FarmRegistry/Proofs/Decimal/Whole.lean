import FarmRegistry.Json.Number
import FarmRegistry.Proofs.Decimal.Comparison
import Mathlib.Data.Nat.Digits.Defs

namespace FarmRegistry.Decimal

open Float.Model (Format UnpackedFloat)
open Float.Model.UnpackedFloat

inductive Held (k : ℕ) (c : ℤ) : UnpackedFloat → Prop where
  | zero (s : Sign) : Held k c (.zero s)
  | finite (s : Sign) {m : ℕ} {e : ℤ} (h : 0 < m) : m < 2 ^ k → e ≤ c → Held k c (.finite s m e h)

section Rounding

variable {k k' : ℕ} {c c' : ℤ} {u v : UnpackedFloat} {m : ℕ} {e : ℤ}

theorem mantissa_shiftRight (em : ExtendedMantissa) (n : ℕ) : (em >>> n).mantissa ≤ em.mantissa := by
  induction n with
  | zero => exact Nat.le_refl _
  | succ n ih =>
    change (em >>> n).mantissa / 2 ≤ _
    omega

theorem roundedMantissa_le (em : ExtendedMantissa) : em.roundedMantissa ≤ em.mantissa + 1 := by
  unfold ExtendedMantissa.roundedMantissa
  cases em.accuracy with
  | exact => exact Nat.le_succ _
  | inexact o =>
    cases o with
    | lt | gt => simp [Accuracy.roundToNearestEven]
    | eq =>
      simp only [Accuracy.roundToNearestEven]
      omega

theorem mantissaBits_eq : Format.binary64.mantissaBits = 53 := rfl

theorem minExponent_eq : Format.binary64.minExponent = -1074 := rfl

theorem shiftToTargetExponent_le (hm : m < 2 ^ k) (he : e ≤ c) (hc : -1074 ≤ c) :
    (shiftToTargetExponent .binary64 m e .exact).1.mantissa ≤ m ∧
      (shiftToTargetExponent .binary64 m e .exact).2 ≤ c + k := by
  have hlog : m.log2 ≤ k := by
    by_cases h : m = 0
    · simp [h]
    · exact Nat.le_of_lt ((Nat.log2_lt h).mpr hm)
  refine ⟨mantissa_shiftRight _ _, ?_⟩
  simp only [shiftToTargetExponent, shiftToExponent, Format.targetExponent, Float.Model.totalExponent, mantissaBits_eq,
    minExponent_eq]
  omega

theorem held_round (s : Sign) (hm : m < 2 ^ k) (he : e ≤ c) (hc : -1074 ≤ c) :
    Held (k + 1) (c + 2 * k + 1) (roundWithAccuracy .binary64 s m e .exact) := by
  obtain ⟨hfirst, hexp⟩ := shiftToTargetExponent_le hm he hc
  unfold roundWithAccuracy
  generalize shiftToTargetExponent .binary64 m e .exact = first at hfirst hexp
  obtain ⟨em, e'⟩ := first
  dsimp only at hfirst hexp ⊢
  have hrounded := roundedMantissa_le em
  have hlt : em.roundedMantissa < 2 ^ (k + 1) := by
    rw [Nat.pow_succ]
    omega
  obtain ⟨hlast, hexp'⟩ := shiftToTargetExponent_le hlt hexp (by omega)
  by_cases hzero : (shiftToTargetExponent .binary64 em.roundedMantissa e' .exact).1.mantissa = 0
  · rw [dif_pos hzero]
    exact .zero s
  · rw [dif_neg hzero]
    refine .finite s _ (Nat.lt_of_le_of_lt hlast hlt) ?_
    push_cast at hexp'
    omega

theorem Held.neg (h : Held k c u) : Held k c u.neg := by
  cases h with
  | zero s => exact .zero _
  | finite s h hm he => exact .finite _ h hm he

theorem Held.mul (hu : Held k c u) (hv : Held k' c' v) (hc : -1074 ≤ c + c') :
    Held (k + k' + 1) (c + c' + 2 * (k + k' : ℕ) + 1) (UnpackedFloat.mul .binary64 u v) := by
  cases hu with
  | zero s => cases hv <;> exact .zero _
  | finite s h hm he =>
    cases hv with
    | zero t => exact .zero _
    | finite t h' hm' he' =>
      apply held_round _ _ (by omega) hc
      rw [Nat.pow_add]
      exact Nat.mul_lt_mul'' hm hm'

theorem held_ofNat (hm : m < 2 ^ k) : Held (k + 53) (0 + 2 * (k + 52 : ℕ) + 1) (UnpackedFloat.ofNat .binary64 m) := by
  unfold UnpackedFloat.ofNat UnpackedFloat.ofInt UnpackedFloat.normalize
  rcases Nat.eq_zero_or_pos m with rfl | hpos
  · exact .zero _
  · rw [compare_gt_iff_gt.mpr (Int.natCast_pos.mpr hpos), Int.toNat_natCast]
    let target := Format.binary64.targetExponent (Float.Model.totalExponent m 0)
    have htarget : (0 - target).toNat ≤ 52 := by
      simp only [target, Format.targetExponent, Float.Model.totalExponent, mantissaBits_eq]
      omega
    refine held_round (m := m <<< (0 - target).toNat) (e := 0 - (0 - target).toNat) .positive ?_ (by omega) (by decide)
    calc m <<< (0 - target).toNat
        = m * 2 ^ (0 - target).toNat := Nat.shiftLeft_eq _ _
      _ < 2 ^ k * 2 ^ (0 - target).toNat := Nat.mul_lt_mul_of_pos_right hm (Nat.two_pow_pos _)
      _ ≤ 2 ^ k * 2 ^ 52 := Nat.mul_le_mul_left _ (Nat.pow_le_pow_right (by decide) htarget)
      _ = 2 ^ (k + 52) := (Nat.pow_add _ _ _).symm

end Rounding

section Stored

variable {k n : ℕ} {c : ℤ} {u : UnpackedFloat} {x : Float}

theorem exponentField_pack (hu : Held k c u) (hc : c + 1075 ≤ n) (hn : n ≤ 2046) :
    (Binary.ofFloat ⟨Float.Model.pack u⟩).exponentField ≤ n := by
  rw [Binary.exponentField_eq]
  change (@unpackExponent .binary64 (UnpackedFloat.pack .binary64 u)).toNat ≤ n
  cases hu with
  | zero s =>
    change (@unpackExponent .binary64 (packComponents .binary64 s 0 0)).toNat ≤ n
    rw [unpackExponent_packComponents]
    exact Nat.zero_le _
  | @finite s m e h hm he =>
    change (@unpackExponent .binary64 (if 2048 ≤ (e + 1023 + 52).toNat + 1 then _ else
      if m.log2 + 1 = Format.binary64.mantissaBits then _ else _)).toNat ≤ n
    rw [if_neg (by omega)]
    split
    · have hbias : (Format.binary64.exponentBias : ℤ) + Format.binary64.mantissaBitsWithoutImplicit = 1075 := rfl
      rw [unpackExponent_packComponents, BitVec.toNat_ofNat]
      exact (Nat.mod_le _ _).trans (by omega)
    · rw [unpackExponent_packComponents]
      exact Nat.zero_le _

theorem held_unpack (h : (Binary.ofFloat x).exponentField ≤ n) (hn : n ≤ 2046) :
    Held 53 (n - 1074) x.toModel.unpack := by
  rw [Binary.unpack_eq]
  have hfraction := Binary.ofFloat_fraction_lt x
  generalize Binary.ofFloat x = b at h hfraction
  unfold Binary.unpacked
  rw [if_neg (by omega)]
  by_cases hpos : 0 < b.significand
  · rw [dif_pos hpos]
    refine .finite _ _ ?_ ?_
    · have hsignificand : b.significand ≤ twoTo 52 + b.fraction := by
        unfold Binary.significand
        split <;> omega
      calc b.significand
          ≤ twoTo 52 + b.fraction := hsignificand
        _ < twoTo 52 + twoTo 52 := Nat.add_lt_add_left hfraction _
        _ = 2 ^ 53 := rfl
    · unfold Binary.scale
      omega
  · rw [dif_neg hpos]
    exact .zero _

theorem exponentField_neg (h : (Binary.ofFloat x).exponentField ≤ n) (hn : n ≤ 2045) :
    (Binary.ofFloat (-x)).exponentField ≤ n + 1 :=
  exponentField_pack (held_unpack h (by omega)).neg (by omega) (by omega)

end Stored

section Read

variable {m : ℕ}

theorem held_ofScientific (hm : m < 2 ^ 64) :
    Held (117 + 1 + 1) (-53 + 0 + 2 * (117 + 1 : ℕ) + 1) (UnpackedFloat.ofScientific .binary64 m 0) := by
  unfold UnpackedFloat.ofScientific
  by_cases hzero : m = 0
  · rw [dif_pos hzero]
    exact .zero _
  · rw [dif_neg hzero, if_neg (by decide), if_neg (by norm_num), if_pos (by decide)]
    have hshifted : m <<< 53 < 2 ^ 117 := by
      rw [Nat.shiftLeft_eq]
      omega
    have hmantissa : Held 117 (-53) (.finite .positive (m <<< 53) (-53) (by rw [Nat.shiftLeft_eq]; omega)) :=
      .finite _ _ hshifted (by decide)
    have hone : Held 1 0 (.finite .positive (10 ^ 0) 0 (by decide)) := .finite _ _ (by decide) (by decide)
    exact hmantissa.mul hone (by decide)

theorem exponentField_ofScientific (hm : m < 2 ^ 64) :
    (Binary.ofFloat (Float.ofScientific m false 0)).exponentField ≤ 2000 := by
  unfold Float.ofScientific
  split
  · have hsmall : (Binary.ofFloat m.toUInt64.toFloat).exponentField ≤ 1400 :=
      exponentField_pack (held_ofNat (UInt64.toNat_lt m.toUInt64)) (by decide) (by decide)
    have hone : (Binary.ofFloat (Float.exactlyRepresentablePowersOfTen[0])).exponentField ≤ 1023 := by decide +kernel
    have hproduct := (held_unpack hsmall (by decide)).mul (held_unpack hone (by decide)) (by decide)
    exact exponentField_pack hproduct (by decide) (by decide)
  · exact exponentField_pack (held_ofScientific hm) (by decide) (by decide)

theorem isFinite_of_exponentField_le {x : Float} (h : (Binary.ofFloat x).exponentField ≤ 2001) : isFinite x := by
  simp only [isFinite, Binary.isFinite, bne_iff_ne]
  omega

theorem isFinite_floatOfDecimal (negative : Bool) (hm : m < 2 ^ 64) : isFinite (Json.floatOfDecimal negative m 0) := by
  have hsize : (Nat.toDigits 10 m).length ≤ 20 := Nat.toDigits_length 10 m 20 (by decide) (by omega)
  have hmagnitude : ∃ x, Json.floatOfDecimal negative m 0 = (if negative then -x else x) ∧
      (Binary.ofFloat x).exponentField ≤ 2000 := by
    unfold Json.floatOfDecimal
    by_cases hzero : m = 0
    · exact ⟨0, by simp [hzero], by decide +kernel⟩
    · refine ⟨Float.ofScientific m false 0, ?_, exponentField_ofScientific hm⟩
      have hlow : ¬((Nat.toDigits 10 m).length < (-400 : ℤ)) := by omega
      have hhigh : ¬400 < (Nat.toDigits 10 m).length := by omega
      simp [hzero, hlow, hhigh]
  obtain ⟨x, hx, hfield⟩ := hmagnitude
  rw [hx]
  apply isFinite_of_exponentField_le
  cases negative with
  | true => exact exponentField_neg hfield (by decide)
  | false => exact hfield.trans (by decide)

end Read

end FarmRegistry.Decimal
