import FarmRegistry.Decimal.Binary

namespace FarmRegistry.Decimal

namespace Binary

variable {b c : Binary}

theorem ofFloat_fraction_lt (x : Float) : (ofFloat x).fraction < twoTo 52 :=
  Nat.mod_lt _ (by decide)

theorem significand_of_pos (h : 0 < b.exponentField) : b.significand = twoTo 52 + b.fraction :=
  if_neg (by omega)

theorem magnitude_lt (hb : b.fraction < twoTo 52) :
    b.significand * twoTo b.scale < twoTo 52 * twoTo b.exponentField := by
  rcases Nat.eq_zero_or_pos b.exponentField with hzero | hpos
  · rw [significand, if_pos hzero, scale, hzero]
    simpa using hb
  · obtain ⟨e, he⟩ : ∃ e, b.exponentField = e + 1 := ⟨b.exponentField - 1, by omega⟩
    have hdouble : twoTo b.exponentField = 2 * twoTo e := by
      rw [he]
      exact Nat.pow_succ'
    rw [significand_of_pos hpos, scale, hdouble, he, ← Nat.mul_assoc]
    exact Nat.mul_lt_mul_of_pos_right (by omega) (Nat.two_pow_pos e)

theorem magnitude_le (hb : b.fraction < twoTo 52)
    (h : b.exponentField * twoTo 52 + b.fraction ≤ c.exponentField * twoTo 52 + c.fraction)
    (hc : c.fraction < twoTo 52) : b.significand * twoTo b.scale ≤ c.significand * twoTo c.scale := by
  rcases Nat.lt_trichotomy b.exponentField c.exponentField with hlt | heq | hgt
  · -- A greater exponent begins where all doubles with the lesser one have ended.
    have hpow : twoTo b.exponentField ≤ twoTo c.scale :=
      Nat.pow_le_pow_right (by decide) (Nat.le_sub_one_of_lt hlt)
    have hsignificand : twoTo 52 ≤ c.significand := by
      rw [significand_of_pos (by omega)]
      exact Nat.le_add_right _ _
    calc b.significand * twoTo b.scale
        ≤ twoTo 52 * twoTo b.exponentField := Nat.le_of_lt (magnitude_lt hb)
      _ ≤ c.significand * twoTo c.scale := Nat.mul_le_mul hsignificand hpow
  · have hsignificand : b.significand ≤ c.significand := by
      unfold significand
      rw [heq] at h ⊢
      split <;> omega
    rw [scale, scale, heq]
    exact Nat.mul_le_mul_right _ hsignificand
  · have hnext : (c.exponentField + 1) * twoTo 52 ≤ b.exponentField * twoTo 52 := Nat.mul_le_mul_right _ hgt
    rw [Nat.succ_mul] at hnext
    omega

theorem units_le_of_rank_le (hb : b.fraction < twoTo 52) (hc : c.fraction < twoTo 52) (h : b.rank ≤ c.rank) :
    b.units ≤ c.units := by
  unfold rank at h
  unfold units
  by_cases hbneg : b.negative
  · by_cases hcneg : c.negative
    · simp only [hbneg, hcneg, ↓reduceIte] at h ⊢
      have := magnitude_le hc (c := b) (by omega) hb
      omega
    · simp only [hbneg, hcneg, ↓reduceIte, Bool.false_eq_true]
      omega
  · by_cases hcneg : c.negative
    · simp only [hbneg, hcneg, ↓reduceIte, Bool.false_eq_true] at h
      omega
    · simp only [hbneg, hcneg, ↓reduceIte, Bool.false_eq_true] at h ⊢
      have := magnitude_le hb (c := c) (by omega) hc
      omega

end Binary

theorem units_le_of_rank_le {x y : Float} (h : rank x ≤ rank y) : units x ≤ units y :=
  Binary.units_le_of_rank_le (Binary.ofFloat_fraction_lt x) (Binary.ofFloat_fraction_lt y) h

end FarmRegistry.Decimal
