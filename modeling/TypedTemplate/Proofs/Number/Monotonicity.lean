import Mathlib.Data.Nat.Cast.Order.Field
import TypedTemplate.Proofs.Number.Rounding
/-!
# Rounding keeps the order

Of two numbers that are rounded the smaller one does not come out larger, whatever their sizes are. Two nearest
counts in the wrong order would both be a tie between the same neighbours, and with even significands they
have another count between them that is nearer. The relative error of a rounding is bounded as well, once the
number is large enough for its last bit to lie above the unit.
-/

namespace TypedTemplate

namespace Binary64

/-! ### Order -/

theorem add_div_two_le_of_abs_le {a b q : ℚ} (hab : a < b) (h : |b - q| ≤ |a - q|) : (a + b) / 2 ≤ q := by
  rcases abs_cases (b - q) with ⟨hb, _⟩ | ⟨hb, _⟩
  · rcases abs_cases (a - q) with ⟨ha, _⟩ | ⟨ha, _⟩ <;> linarith
  · rcases abs_cases (a - q) with ⟨ha, _⟩ | ⟨ha, _⟩ <;> linarith

theorem le_add_div_two_of_abs_le {a b q : ℚ} (hab : a < b) (h : |a - q| ≤ |b - q|) : q ≤ (a + b) / 2 := by
  rcases abs_cases (b - q) with ⟨hb, _⟩ | ⟨hb, _⟩
  · rcases abs_cases (a - q) with ⟨ha, _⟩ | ⟨ha, _⟩ <;> linarith
  · rcases abs_cases (a - q) with ⟨ha, _⟩ | ⟨ha, _⟩ <;> linarith

theorem NearestTo.le_of_le {p q : ℚ} {u v : Nat} (hu : NearestTo p u) (hv : NearestTo q v) (h : p ≤ q) :
    u ≤ v := by
  by_contra hlt
  have hvu : v < u := Nat.lt_of_not_le hlt
  have hcast : (v : ℚ) < u := Nat.cast_lt.mpr hvu
  -- both rationals lie on the middle between the two counts
  have hp := add_div_two_le_of_abs_le hcast (hu.abs_sub_le v hv.significant)
  have hq := le_add_div_two_of_abs_le hcast (hv.abs_sub_le u hu.significant)
  obtain rfl : p = q := by linarith
  have heq : |(v : ℚ) - p| = |(u : ℚ) - p| :=
    le_antisymm (hv.abs_sub_le u hu.significant) (hu.abs_sub_le v hv.significant)
  have hueven := (hu.even_of_eq v hv.significant heq.symm).resolve_left (Nat.ne_of_lt hvu)
  have hveven := (hv.even_of_eq u hu.significant heq).resolve_left (Nat.ne_of_gt hvu)
  obtain ⟨w, hw, hvw, hwu⟩ := hv.significant.exists_between hveven hueven hvu
  have hcloser := abs_sub_lt_of_between (Nat.cast_lt.mpr hvw) (Nat.cast_lt.mpr hwu) heq
  exact absurd (hv.abs_sub_le w hw) (not_le.mpr hcloser)

theorem nearestUnits_le_nearestUnits {num num' den den' : Nat} (hden : 0 < den) (hden' : 0 < den')
    (h : num * den' ≤ num' * den) : nearestUnits num den ≤ nearestUnits num' den' := by
  apply (nearestTo_nearestUnits num hden).le_of_le (nearestTo_nearestUnits num' hden')
  rw [div_le_div_iff₀ (Nat.cast_pos.mpr hden) (Nat.cast_pos.mpr hden')]
  exact_mod_cast h

theorem nearestUnits_mono {num num' den : Nat} (hden : 0 < den) (h : num ≤ num') :
    nearestUnits num den ≤ nearestUnits num' den :=
  nearestUnits_le_nearestUnits hden hden (Nat.mul_le_mul_right den h)

/-! ### The relative error -/

/-- Half the weight of the last bit of a number, against the number. -/
def roundoff : ℚ :=
  1 / 2 ^ significantBits

theorem roundoff_pos : 0 < roundoff := by
  rw [roundoff]
  positivity

/-- With all its bits before the unit, a quotient is rounded by no more than `roundoff` of it. -/
theorem abs_nearestUnits_sub_le_mul {num den : Nat} (hden : 0 < den)
    (hlarge : 2 ^ (significantBits - 1) ≤ num / den) :
    |(nearestUnits num den : ℚ) - num / den| ≤ num / den * roundoff := by
  have hn : num / den ≠ 0 := by
    have := Nat.two_pow_pos (significantBits - 1)
    omega
  have hlog : significantBits - 1 ≤ (num / den).log2 := (Nat.le_log2 hn).mpr hlarge
  -- the last bit that is kept, against the leading one
  have hstep : 2 ^ spareBits (num / den) * 2 ^ (significantBits - 1) ≤ num / den := by
    have hsum : spareBits (num / den) + (significantBits - 1) = (num / den).log2 := by
      have : 0 < significantBits := by decide
      rw [spareBits]
      omega
    rw [← Nat.pow_add, hsum]
    exact Nat.log2_self_le hn
  have hbits : (2 : ℚ) ^ significantBits = 2 ^ (significantBits - 1) * 2 := by
    rw [← pow_succ]
    rfl
  have hquotient : ((num / den : Nat) : ℚ) ≤ num / den := Nat.cast_div_le
  have hcast : (2 : ℚ) ^ spareBits (num / den) * 2 ^ (significantBits - 1) ≤ num / den := by
    refine le_trans ?_ hquotient
    exact_mod_cast hstep
  have hround := (abs_roundDiv_sub_le num (by positivity : 0 < den * 2 ^ spareBits (num / den))).1
  have hscaled : |(nearestUnits num den : ℚ) - num / den| ≤ 2 ^ spareBits (num / den) / 2 := by
    have hshift : (0 : ℚ) < 2 ^ spareBits (num / den) := by positivity
    have hmul := mul_le_mul_of_nonneg_right hround hshift.le
    rw [nearestUnits, abs_mul_two_pow_sub]
    linarith
  have hhalf : (2 : ℚ) ^ spareBits (num / den) / 2 ≤ num / den * roundoff := by
    rw [roundoff, mul_one_div, div_le_div_iff₀ (by norm_num) (by positivity), hbits]
    linarith
  exact hscaled.trans hhalf

theorem nearestUnits_le_mul {num den : Nat} (hden : 0 < den)
    (hlarge : 2 ^ (significantBits - 1) ≤ num / den) :
    (nearestUnits num den : ℚ) ≤ num / den * (1 + roundoff) := by
  have herror := (abs_le.mp (abs_nearestUnits_sub_le_mul hden hlarge)).2
  linarith

end Binary64

end TypedTemplate
