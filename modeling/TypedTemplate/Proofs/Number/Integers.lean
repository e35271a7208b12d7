import TypedTemplate.Proofs.Number.Monotonicity
import TypedTemplate.Proofs.Number.Order
import TypedTemplate.Proofs.Number.Reading
/-!
# Integers in double precision

An integer becomes a number when it is compared with the bounds of a mapping, and so does a bound that is written
as an integer. Both are rounded to 53 significant bits, and the rounded integer is an integer again, so what is
compared in the end are integers. Rounding keeps the order and changes nothing up to `2⁵³`. Against an integer
below that, comparing the rounded integers is comparing the integers themselves.
-/

namespace TypedTemplate

theorem roundDiv_mul_right {c : Nat} (hc : 0 < c) (num den : Nat) :
    roundDiv (num * c) (den * c) = roundDiv num den := by
  have hless : 2 * (num % den * c) < den * c ↔ 2 * (num % den) < den := by
    rw [← Nat.mul_assoc]
    exact Nat.mul_lt_mul_right hc
  have htie : 2 * (num % den * c) = den * c ↔ 2 * (num % den) = den := by
    rw [← Nat.mul_assoc]
    exact Nat.mul_left_inj hc.ne'
  simp only [roundDiv, Nat.mul_div_mul_right _ _ hc, Nat.mul_mod_mul_right, hless, htie]

namespace Binary64

/-! ### Rounding integers -/

/-- The integer with at most 53 significant bits that is nearest, a tie to the even significand. -/
def nearestInt (n : Int) : Int :=
  signed (n < 0) (nearestUnits n.natAbs 1)

theorem spareBits_eq_zero_iff {n : Nat} : spareBits n = 0 ↔ n < 2 ^ significantBits := by
  constructor
  · intro h
    have hlt := lt_two_pow_of_spareBits n
    rwa [h] at hlt
  · intro h
    exact Nat.le_zero.mp (spareBits_le h)

/-- Rounding does not depend on the unit. -/
theorem nearestUnits_mul_two_pow (n k : Nat) : nearestUnits (n * 2 ^ k) 1 = nearestUnits n 1 * 2 ^ k := by
  by_cases hsmall : n < 2 ^ significantBits
  · have hexact : 2 ^ spareBits n ∣ n := by
      rw [spareBits_eq_zero_iff.mpr hsmall]
      exact Nat.one_dvd n
    rw [nearestUnits_one_of_dvd (spareBits_dvd_of_le (Nat.le_of_lt hsmall)), nearestUnits_one_of_dvd hexact]
  · have hn : n ≠ 0 := by
      have := Nat.two_pow_pos significantBits
      omega
    have hspare : spareBits (n * 2 ^ k) = spareBits n + k := by
      have hpos : spareBits n ≠ 0 := fun h => hsmall (spareBits_eq_zero_iff.mp h)
      have hlog : (n * 2 ^ k).log2 = n.log2 + k := by
        rw [Nat.log2_eq_log_two, Nat.log2_eq_log_two]
        apply Nat.log_eq_of_pow_le_of_lt_pow
        · rw [Nat.pow_add]
          exact Nat.mul_le_mul_right _ (Nat.pow_log_le_self 2 hn)
        · rw [Nat.add_right_comm]
          exact mul_two_pow_lt (Nat.lt_pow_succ_log_self (by decide) n) k
      rw [spareBits] at hpos ⊢
      rw [hlog, spareBits]
      omega
    simp only [nearestUnits, Nat.div_one, Nat.one_mul, hspare]
    rw [Nat.pow_add, roundDiv_mul_right (Nat.two_pow_pos k), Nat.mul_assoc]

theorem nearestUnits_le {n : Nat} (h : n ≤ 2 ^ 63) : nearestUnits n 1 ≤ 2 ^ 63 := by
  have hexact : nearestUnits (2 ^ 63) 1 = 2 ^ 63 := by decide +kernel
  rw [← hexact]
  exact nearestUnits_mono Nat.one_pos h

variable {m n : Int}

theorem nearestInt_of_nonneg (h : 0 ≤ n) : nearestInt n = nearestUnits n.natAbs 1 := by
  rw [nearestInt, decide_eq_false (Int.not_lt.mpr h)]
  rfl

theorem nearestInt_of_neg (h : n < 0) : nearestInt n = -nearestUnits n.natAbs 1 := by
  rw [nearestInt, decide_eq_true h]
  rfl

theorem nearestInt_mono (h : m ≤ n) : nearestInt m ≤ nearestInt n := by
  by_cases hm : m < 0
  · by_cases hn : n < 0
    · have hle := nearestUnits_mono Nat.one_pos (by omega : n.natAbs ≤ m.natAbs)
      rw [nearestInt_of_neg hm, nearestInt_of_neg hn]
      omega
    · rw [nearestInt_of_neg hm, nearestInt_of_nonneg (Int.not_lt.mp hn)]
      omega
  · have hle := nearestUnits_mono Nat.one_pos (by omega : m.natAbs ≤ n.natAbs)
    rw [nearestInt_of_nonneg (Int.not_lt.mp hm), nearestInt_of_nonneg (by omega)]
    omega

theorem nearestInt_of_le (h : n.natAbs ≤ 2 ^ significantBits) : nearestInt n = n := by
  have hexact : nearestUnits n.natAbs 1 = n.natAbs := by
    have hsignificant : 2 ^ spareBits (n.natAbs * 2 ^ 0) ∣ n.natAbs * 2 ^ 0 := spareBits_dvd_of_le h
    rw [Nat.pow_zero, Nat.mul_one] at hsignificant
    exact nearestUnits_one_of_dvd hsignificant
  by_cases hn : n < 0
  · rw [nearestInt_of_neg hn, hexact]
    omega
  · rw [nearestInt_of_nonneg (Int.not_lt.mp hn), hexact]
    omega

/-- Next to an integer below `2⁵³` there is no rounding, so its place among the others stays. -/
theorem nearestInt_lt_iff (h : m.natAbs < 2 ^ significantBits ∨ n.natAbs < 2 ^ significantBits) :
    nearestInt m < nearestInt n ↔ m < n := by
  constructor
  · intro hlt
    by_contra hle
    have := nearestInt_mono (Int.not_lt.mp hle)
    omega
  · intro hlt
    obtain hm | hn := h
    · have hnext := nearestInt_mono (Int.add_one_le_iff.mpr hlt)
      rw [nearestInt_of_le (by omega)] at hnext
      rw [nearestInt_of_le (Nat.le_of_lt hm)]
      omega
    · have hprevious := nearestInt_mono (Int.le_sub_one_iff.mpr hlt)
      rw [nearestInt_of_le (n := n - 1) (by omega)] at hprevious
      rw [nearestInt_of_le (Nat.le_of_lt hn)]
      omega

theorem nearestInt_le_iff (h : m.natAbs < 2 ^ significantBits ∨ n.natAbs < 2 ^ significantBits) :
    nearestInt m ≤ nearestInt n ↔ m ≤ n := by
  rw [← Int.not_lt, ← Int.not_lt, nearestInt_lt_iff h.symm]

/-! ### Numbers that stand for integers -/

/-- The number has the value of the rounded integer. -/
def StandsFor (x : Binary64) (n : Int) : Prop :=
  x.extended? = some ((nearestInt n : ℚ) : WithTop ℚ)

theorem signed_mul (negative : Bool) (n k : Nat) : signed negative (n * k) = signed negative n * k := by
  cases negative <;> simp [signed]

theorem value_mul_one (negative : Bool) (n : Nat) : value negative (n * one) = signed negative n := by
  rw [value_eq_signed, signed_mul, Int.cast_mul, Int.cast_natCast, mul_div_cancel_right₀ _ cast_one_pos.ne']

theorem nearestInt_signed (negative : Bool) (n : Nat) :
    nearestInt (signed negative n) = signed negative (nearestUnits n 1) := by
  cases negative with
  | false =>
      rw [signed, if_neg (by decide), nearestInt_of_nonneg (Int.natCast_nonneg n), Int.natAbs_natCast]
      rfl
  | true =>
      rw [signed, if_pos rfl]
      by_cases hn : n = 0
      · subst hn
        rfl
      · rw [nearestInt_of_neg (by omega), Int.natAbs_neg, Int.natAbs_natCast]
        rfl

theorem standsFor_nearest (negative : Bool) {n : Nat} (h : n ≤ 2 ^ 63) :
    (nearest negative (n * one) 1).StandsFor (signed negative n) := by
  have hunits : nearestUnits (n * one) 1 = nearestUnits n 1 * one := nearestUnits_mul_two_pow _ _
  have hbits : 2 ^ 63 * one < limit := by decide +kernel
  have hlimit : nearestUnits (n * one) 1 < limit := by
    rw [hunits]
    exact Nat.lt_of_le_of_lt (Nat.mul_le_mul_right one (nearestUnits_le h)) hbits
  rw [StandsFor, nearest_of_lt negative hlimit, nearestInt_signed, ← value_mul_one, ← hunits]
  rfl

theorem standsFor_ofInt (h : n.natAbs ≤ 2 ^ 63) : (ofInt n).StandsFor n := by
  have hsigned : signed (n < 0) n.natAbs = n := by
    by_cases hn : n < 0
    · rw [decide_eq_true hn, signed, if_pos rfl]
      omega
    · rw [decide_eq_false hn, signed, if_neg (by decide)]
      omega
  have hstands := standsFor_nearest (n < 0) h
  rwa [hsigned] at hstands

theorem StandsFor.lt_iff {x y : Binary64} (hx : x.StandsFor m) (hy : y.StandsFor n) :
    x.lt y = true ↔ nearestInt m < nearestInt n := by
  rw [StandsFor] at hx hy
  simp [Binary64.lt_iff, hx, hy]

theorem StandsFor.le_iff {x y : Binary64} (hx : x.StandsFor m) (hy : y.StandsFor n) :
    x.le y = true ↔ nearestInt m ≤ nearestInt n := by
  rw [StandsFor] at hx hy
  simp [Binary64.le_iff, hx, hy]

theorem StandsFor.isFinite {x : Binary64} (h : x.StandsFor n) : x.isFinite = true := by
  rw [StandsFor] at h
  cases x with
  | nan => exact absurd h (by simp [extended?])
  | infinite s => cases s <;> exact absurd h (by simp [extended?])
  | finite => rfl

theorem ofDecimal_whole (negative : Bool) (n : Nat) : ofDecimal ⟨negative, n, 0⟩ = nearest negative (n * one) 1 := by
  by_cases hn : n = 0
  · subst hn
    rw [Nat.zero_mul, nearest_of_representable negative representable_zero]
    rfl
  · simp [ofDecimal, hn]

end Binary64

/-! ### Integers in writing -/

/-- An integer is read as a number that stands for it, whatever the decimal separator is. -/
theorem exists_readNumber_of_integerForm {decimal : Char} (hdigit : decimal.isDigit = false)
    (hsign : decimal ≠ '+' ∧ decimal ≠ '-') {t : Text} {n : Int} (h : IntegerForm t.trim n)
    (hrange : n.natAbs ≤ 2 ^ 63) : ∃ x, readNumber decimal t = .ok x ∧ x.StandsFor n := by
  generalize ht : t.trim = body at h
  cases h with
  | @signed sign digits negative hsignForm hdigits hne =>
      have hform : NumeralForm '.' (sign ++ digits) ⟨negative, Nat.ofDigitChars 10 digits 0, 0⟩ := by
        simpa using NumeralForm.parts hsignForm (.whole hdigits hne) .absent
      have hother : ∀ c : Char, c.isDigit = false → c ≠ '+' → c ≠ '-' → c ∉ sign ++ digits := by
        intro c hc hplus hminus hmem
        rcases List.mem_append.mp hmem with hmem | hmem
        · cases hsignForm with
          | absent => exact absurd hmem List.not_mem_nil
          | plus => exact hplus (List.mem_singleton.mp hmem)
          | minus => exact hminus (List.mem_singleton.mp hmem)
        · rw [hdigits c hmem] at hc
          exact absurd hc (by decide)
      have hpointed : pointed decimal (sign ++ digits) = sign ++ digits :=
        renamed_of_not_mem (hother decimal hdigit hsign.1 hsign.2) '.'
      have hcoefficient : Nat.ofDigitChars 10 digits 0 ≤ 2 ^ 63 := by
        revert hrange
        cases negative with
        | false => exact fun hrange => hrange
        | true => exact fun hrange => (Int.natAbs_neg _).symm.trans_le hrange
      have hstands := Binary64.standsFor_nearest negative hcoefficient
      refine ⟨_, ?_, hstands⟩
      rw [readNumber_of_pointed (d := ⟨negative, Nat.ofDigitChars 10 digits 0, 0⟩), Binary64.ofDecimal_whole,
        if_pos hstands.isFinite]
      · rw [ht]
        exact fun _ => hother '.' (by decide) (by decide) (by decide)
      · rwa [ht, hpointed]

end TypedTemplate
