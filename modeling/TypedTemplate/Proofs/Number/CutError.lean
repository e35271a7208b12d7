import TypedTemplate.Proofs.Number.Cutting
import TypedTemplate.Proofs.Number.Integers
/-!
# What cutting to significant digits comes to

A number without decimals is cut by dividing it by a power of ten, rounding, and multiplying again. This module
follows the three steps in whole numbers. The quotient rounds to a number of as many digits as are wanted
(`leadingDigits`), since every rounding on the way is small against a half; the product is close to that number
with zeros behind it (`keptWhole_near`), and it is that number exactly where 64 bits can carry it
(`cutsExactly_iff`). Behind the digits 64 bits carry at most 22 zeros.
-/

namespace TypedTemplate

namespace Binary64

/-! ### Rounding whole numbers -/

theorem nearestUnits_mul_right (num : Nat) {den c : Nat} (hden : 0 < den) (hc : 0 < c) :
    nearestUnits (num * c) (den * c) = nearestUnits num den := by
  have hmul : num * c * den = num * (den * c) := by ring
  exact le_antisymm (nearestUnits_le_nearestUnits (Nat.mul_pos hden hc) hden hmul.le)
    (nearestUnits_le_nearestUnits hden (Nat.mul_pos hden hc) hmul.ge)

theorem nearestUnits_of_le {significand : Nat} (h : significand ≤ 2 ^ significantBits) (shift : Nat) :
    nearestUnits (significand * 2 ^ shift) 1 = significand * 2 ^ shift :=
  nearestUnits_one_of_dvd (spareBits_dvd_of_le h)

theorem nearestUnits_mul_one (n : Nat) : nearestUnits (n * one) 1 = nearestUnits n 1 * one :=
  nearestUnits_mul_two_pow n unitBits

theorem nearestUnits_near (n : Nat) :
    (2 ^ significantBits - 1) * n ≤ 2 ^ significantBits * nearestUnits n 1
      ∧ 2 ^ significantBits * nearestUnits n 1 ≤ (2 ^ significantBits + 1) * n := by
  by_cases hsmall : n ≤ 2 ^ significantBits
  · have hexact := nearestUnits_of_le hsmall 0
    rw [Nat.pow_zero, Nat.mul_one] at hexact
    rw [hexact]
    exact ⟨Nat.mul_le_mul_right n (Nat.sub_le _ _), Nat.mul_le_mul_right n (Nat.le_succ _)⟩
  · have hlarge : 2 ^ (significantBits - 1) ≤ n / 1 := by
      rw [Nat.div_one]
      exact le_trans (by decide) (Nat.le_of_not_le hsmall)
    obtain ⟨hlow, hhigh⟩ := abs_le.mp (abs_nearestUnits_sub_le_mul Nat.one_pos hlarge)
    have hbits : (0 : ℚ) < 2 ^ significantBits := by positivity
    rw [roundoff, Nat.cast_one, div_one, mul_one_div, ← neg_div, div_le_iff₀ hbits] at hlow
    rw [roundoff, Nat.cast_one, div_one, mul_one_div, le_div_iff₀ hbits] at hhigh
    have hpred : ((2 ^ significantBits - 1 : Nat) : ℚ) = 2 ^ significantBits - 1 := by
      rw [Nat.cast_sub Nat.one_le_two_pow, Nat.cast_pow, Nat.cast_ofNat, Nat.cast_one]
    constructor
    · apply (Nat.cast_le (α := ℚ)).mp
      rw [Nat.cast_mul, Nat.cast_mul, hpred, Nat.cast_pow, Nat.cast_ofNat]
      linarith
    · apply (Nat.cast_le (α := ℚ)).mp
      rw [Nat.cast_mul, Nat.cast_mul, Nat.cast_add, Nat.cast_pow, Nat.cast_ofNat, Nat.cast_one]
      linarith

/-! ### The computed powers of ten -/

/-- The last power of ten that is a number of 64 bits: `5²²` is below `2⁵³`, and the next power is above it. -/
def lastExact : Nat :=
  22

/-- A power of ten as it is computed, which is a whole number. -/
def roughPower (exponent : Nat) : Nat :=
  (powTen exponent).units / one

/-- The computed powers of ten, in the range, and how close they are. -/
theorem roughPower_spec : ∀ exponent < lastPower + 1,
    (powTen exponent).units = roughPower exponent * one
      ∧ (2 ^ 45 - 1) * 10 ^ exponent ≤ 2 ^ 45 * roughPower exponent
      ∧ 2 ^ 45 * roughPower exponent ≤ (2 ^ 45 + 1) * 10 ^ exponent
      ∧ (exponent ≤ lastExact → roughPower exponent = 10 ^ exponent) := by
  decide +kernel

variable {exponent digits u : Nat}

theorem roughPower_pos (hexponent : exponent ≤ lastPower) : 0 < roughPower exponent := by
  obtain ⟨_, hlow, _⟩ := roughPower_spec exponent (Nat.lt_succ_of_le hexponent)
  have hpower : 0 < 10 ^ exponent := Nat.pow_pos (by decide)
  omega

/-! ### The leading digits -/

/-- The whole number that a count of units is rounded to, after it is divided by a power of ten. -/
def leadingDigits (exponent u : Nat) : Nat :=
  (2 * nearestUnits (u * one) (powTen exponent).units + one) / (2 * one)

theorem leadingDigits_eq (hexponent : exponent ≤ lastPower) (u : Nat) :
    leadingDigits exponent u = (2 * nearestUnits u (roughPower exponent) + one) / (2 * one) := by
  rw [leadingDigits, (roughPower_spec exponent (Nat.lt_succ_of_le hexponent)).1,
    nearestUnits_mul_right u (roughPower_pos hexponent) one_pos]

/-- A quarter of the unit, against which the roundings of a quotient of at most ten digits are small. -/
def quarter : Nat :=
  2 ^ (unitBits - 2)

theorem one_eq_quarter : one = 4 * quarter := by
  decide +kernel

theorem nearestUnits_mul_quarter {n : Nat} (h : n ≤ 2 ^ significantBits) :
    nearestUnits (n * quarter) 1 = n * quarter :=
  nearestUnits_of_le h (unitBits - 2)

theorem leadingDigits_le_of_le_mul {n : Nat} (hexponent : exponent ≤ lastPower) (hn : n ≤ 2 ^ 50)
    (hu : u ≤ (4 * n + 1) * quarter * roughPower exponent) : leadingDigits exponent u ≤ n := by
  have hquarter : 0 < quarter := Nat.two_pow_pos _
  have hrounded : nearestUnits u (roughPower exponent) ≤ (4 * n + 1) * quarter := by
    rw [← nearestUnits_mul_quarter (by rw [significantBits]; omega : 4 * n + 1 ≤ 2 ^ significantBits)]
    apply nearestUnits_le_nearestUnits (roughPower_pos hexponent) Nat.one_pos
    rwa [Nat.mul_one]
  rw [Nat.add_mul, Nat.one_mul] at hrounded
  rw [leadingDigits_eq hexponent, ← Nat.lt_succ_iff, Nat.div_lt_iff_lt_mul (Nat.mul_pos Nat.two_pos one_pos),
    one_eq_quarter]
  calc 2 * nearestUnits u (roughPower exponent) + 4 * quarter
        < 2 * (4 * n * quarter) + 8 * quarter := by omega
    _ = (n + 1) * (2 * (4 * quarter)) := by ring

theorem le_leadingDigits_of_mul_le {n : Nat} (hexponent : exponent ≤ lastPower) (hn : n ≤ 2 ^ 50)
    (hu : (4 * n - 1) * quarter * roughPower exponent ≤ u) : n ≤ leadingDigits exponent u := by
  have hrounded : (4 * n - 1) * quarter ≤ nearestUnits u (roughPower exponent) := by
    rw [← nearestUnits_mul_quarter (by rw [significantBits]; omega : 4 * n - 1 ≤ 2 ^ significantBits)]
    apply nearestUnits_le_nearestUnits Nat.one_pos (roughPower_pos hexponent)
    rwa [Nat.mul_one]
  rw [Nat.sub_mul, Nat.one_mul] at hrounded
  rw [leadingDigits_eq hexponent, Nat.le_div_iff_mul_le (Nat.mul_pos Nat.two_pos one_pos), one_eq_quarter]
  calc n * (2 * (4 * quarter)) = 2 * (4 * n * quarter) := by ring
    _ ≤ 2 * nearestUnits u (roughPower exponent) + 4 * quarter := by omega

/-- The error of the power of ten is less than a quarter of the last digit. -/
theorem leadingDigits_le (hexponent : exponent ≤ lastPower) (hdigits : digits ≤ 9)
    (hu : u ≤ 10 ^ digits * 10 ^ exponent * one) : leadingDigits exponent u ≤ 10 ^ digits := by
  have hpower : 10 ^ digits ≤ 10 ^ 9 := Nat.pow_le_pow_right (by decide) hdigits
  obtain ⟨_, hlow, _⟩ := roughPower_spec exponent (Nat.lt_succ_of_le hexponent)
  apply leadingDigits_le_of_le_mul hexponent (hpower.trans (by decide))
  generalize 10 ^ digits = n at hpower hu
  have hfactor : 2 ^ 45 * (4 * n) ≤ (4 * n + 1) * (2 ^ 45 - 1) := by omega
  apply Nat.le_of_mul_le_mul_left (c := 2 ^ 45) _ (by decide)
  calc 2 ^ 45 * u ≤ 2 ^ 45 * (n * 10 ^ exponent * one) := Nat.mul_le_mul_left _ hu
    _ = 2 ^ 45 * (4 * n) * (10 ^ exponent * quarter) := by rw [one_eq_quarter]; ring
    _ ≤ (4 * n + 1) * (2 ^ 45 - 1) * (10 ^ exponent * quarter) := Nat.mul_le_mul_right _ hfactor
    _ = (4 * n + 1) * quarter * ((2 ^ 45 - 1) * 10 ^ exponent) := by ring
    _ ≤ (4 * n + 1) * quarter * (2 ^ 45 * roughPower exponent) := Nat.mul_le_mul_left _ hlow
    _ = 2 ^ 45 * ((4 * n + 1) * quarter * roughPower exponent) := Nat.mul_left_comm _ _ _

theorem le_leadingDigits (hexponent : exponent ≤ lastPower) (hdigits : digits ≤ 8)
    (hu : (2 ^ 43 - 1) * (10 ^ digits * 10 ^ exponent * one) ≤ 2 ^ 43 * u) :
    10 ^ digits ≤ leadingDigits exponent u := by
  have hpower : 10 ^ digits ≤ 10 ^ 8 := Nat.pow_le_pow_right (by decide) hdigits
  have hpos : 0 < 10 ^ digits := Nat.pow_pos (by decide)
  obtain ⟨_, _, hhigh, _⟩ := roughPower_spec exponent (Nat.lt_succ_of_le hexponent)
  apply le_leadingDigits_of_mul_le hexponent (hpower.trans (by decide))
  generalize 10 ^ digits = n at hpower hpos hu
  have hfactor : 2 ^ 43 * ((4 * n - 1) * (2 ^ 45 + 1)) ≤ 2 ^ 45 * ((2 ^ 43 - 1) * (4 * n)) := by omega
  apply Nat.le_of_mul_le_mul_left (c := 2 ^ 43 * 2 ^ 45) _ (by decide)
  calc 2 ^ 43 * 2 ^ 45 * ((4 * n - 1) * quarter * roughPower exponent)
        = 2 ^ 43 * (4 * n - 1) * quarter * (2 ^ 45 * roughPower exponent) := by ring
    _ ≤ 2 ^ 43 * (4 * n - 1) * quarter * ((2 ^ 45 + 1) * 10 ^ exponent) := Nat.mul_le_mul_left _ hhigh
    _ = 2 ^ 43 * ((4 * n - 1) * (2 ^ 45 + 1)) * (quarter * 10 ^ exponent) := by ring
    _ ≤ 2 ^ 45 * ((2 ^ 43 - 1) * (4 * n)) * (quarter * 10 ^ exponent) := Nat.mul_le_mul_right _ hfactor
    _ = 2 ^ 45 * ((2 ^ 43 - 1) * (n * 10 ^ exponent * one)) := by rw [one_eq_quarter]; ring
    _ ≤ 2 ^ 45 * (2 ^ 43 * u) := Nat.mul_le_mul_left _ hu
    _ = 2 ^ 43 * 2 ^ 45 * u := by ring

/-! ### The product -/

/-- The whole number that is written for the product of the leading digits and the power of ten. -/
def keptWhole (exponent u : Nat) : Nat :=
  nearestUnits (leadingDigits exponent u * roughPower exponent) 1

theorem cutUnits_eq (hexponent : exponent ≤ lastPower) (hleading : leadingDigits exponent u ≤ 2 ^ significantBits) :
    cutUnits (powTen exponent).units u = keptWhole exponent u * one := by
  have hexact : nearestUnits (leadingDigits exponent u * one) 1 = leadingDigits exponent u * one :=
    nearestUnits_of_le hleading unitBits
  have hproduct : leadingDigits exponent u * one * (powTen exponent).units
      = leadingDigits exponent u * roughPower exponent * one * one := by
    rw [(roughPower_spec exponent (Nat.lt_succ_of_le hexponent)).1]
    ring
  have hunit := nearestUnits_mul_right (leadingDigits exponent u * roughPower exponent * one) Nat.one_pos one_pos
  rw [Nat.one_mul] at hunit
  show nearestUnits (nearestUnits (leadingDigits exponent u * one) 1 * (powTen exponent).units) one = _
  rw [hexact, hproduct, hunit, nearestUnits_mul_one, keptWhole]

theorem keptWhole_zero (hleading : leadingDigits 0 u ≤ 10 ^ 9) : keptWhole 0 u = leadingDigits 0 u := by
  have hexact := nearestUnits_of_le (hleading.trans (by decide)) 0
  rw [keptWhole, (roughPower_spec 0 (by decide)).2.2.2 (by decide)]
  rwa [Nat.pow_zero, Nat.mul_one] at hexact ⊢

/-- The product differs from the leading digits with zeros behind them by less than a tenth of the last one, and
not at all where there are no zeros. -/
theorem keptWhole_near (hexponent : exponent ≤ lastPower) (hleading : leadingDigits exponent u ≤ 10 ^ 9) :
    keptWhole exponent u < leadingDigits exponent u * 10 ^ exponent + 10 ^ (exponent - 1)
      ∧ leadingDigits exponent u * 10 ^ exponent < keptWhole exponent u + 10 ^ (exponent - 1) := by
  cases exponent with
  | zero =>
      rw [keptWhole_zero hleading, Nat.pow_zero]
      omega
  | succ exponent =>
      obtain ⟨_, hlow, hhigh, _⟩ := roughPower_spec (exponent + 1) (Nat.lt_succ_of_le hexponent)
      obtain ⟨hbelow, habove⟩ := nearestUnits_near (leadingDigits (exponent + 1) u * roughPower (exponent + 1))
      have hpos : 0 < 10 ^ exponent := Nat.pow_pos (by decide)
      rw [keptWhole, Nat.add_sub_cancel]
      generalize leadingDigits (exponent + 1) u = leading at *
      generalize nearestUnits (leading * roughPower (exponent + 1)) 1 = kept at *
      have hsize : leading * 10 ^ (exponent + 1) ≤ 10 ^ 10 * 10 ^ exponent := by
        calc leading * 10 ^ (exponent + 1) ≤ 10 ^ 9 * 10 ^ (exponent + 1) := Nat.mul_le_mul_right _ hleading
          _ = 10 ^ 10 * 10 ^ exponent := by ring
      have hlow' := Nat.mul_le_mul_left leading hlow
      have hhigh' := Nat.mul_le_mul_left leading hhigh
      rw [Nat.mul_left_comm, Nat.mul_left_comm leading (2 ^ 45)] at hlow'
      rw [Nat.mul_left_comm, Nat.mul_left_comm leading (2 ^ 45 + 1)] at hhigh'
      -- what is left are three numbers, the errors between them, and the tenth
      generalize leading * 10 ^ (exponent + 1) = exact at *
      generalize leading * roughPower (exponent + 1) = product at *
      generalize 10 ^ exponent = tenth at *
      rw [significantBits] at hbelow habove
      omega

/-! ### Numbers with zeros at the end -/

/-- Every zero is a factor of five among the significant bits. -/
theorem exponent_le_of_significant {n : Nat} (hn : 0 < n) (h : Significant (n * 10 ^ exponent * one)) :
    exponent ≤ lastExact := by
  have hten : n * 10 ^ exponent * one = 5 ^ exponent * (n * 2 ^ exponent * one) := by
    rw [show 10 = 5 * 2 by decide, Nat.mul_pow]
    ring
  have hpos : 0 < n * 10 ^ exponent * one := Nat.mul_pos (Nat.mul_pos hn (Nat.pow_pos (by decide))) one_pos
  have hbits := lt_two_pow_of_spareBits (n * 10 ^ exponent * one)
  obtain ⟨significand, heq⟩ := h
  generalize spareBits (n * 10 ^ exponent * one) = spare at heq hbits
  rw [Nat.pow_add, heq, Nat.mul_comm] at hbits
  have hsignificand : significand < 2 ^ significantBits := Nat.lt_of_mul_lt_mul_right hbits
  have hdvd : 5 ^ exponent ∣ 2 ^ spare * significand := by
    rw [← heq, hten]
    exact Nat.dvd_mul_right _ _
  have hcoprime : Nat.Coprime (5 ^ exponent) (2 ^ spare) := Nat.Coprime.pow _ _ (by decide)
  have hfive := Nat.le_of_dvd (Nat.pos_of_mul_pos_left (heq ▸ hpos)) (hcoprime.dvd_of_dvd_mul_left hdvd)
  by_contra hlarge
  have hpower : 5 ^ (lastExact + 1) ≤ 5 ^ exponent := Nat.pow_le_pow_right (by decide) (Nat.lt_of_not_le hlarge)
  have hroom : 2 ^ significantBits < 5 ^ (lastExact + 1) := by decide
  omega

theorem representable_of_le {n : Nat} (hexponent : exponent ≤ lastPower) (hn : n * 5 ^ exponent ≤ 2 ^ significantBits) :
    Representable (n * 10 ^ exponent * one) := by
  have hten : n * 10 ^ exponent * one = n * 5 ^ exponent * 2 ^ (exponent + unitBits) := by
    rw [show 10 = 5 * 2 by decide, Nat.mul_pow, Nat.pow_add, one]
    ring
  rw [hten]
  refine ⟨?_, spareBits_dvd_of_le hn⟩
  calc n * 5 ^ exponent * 2 ^ (exponent + unitBits) ≤ 2 ^ significantBits * 2 ^ (exponent + unitBits) :=
        Nat.mul_le_mul_right _ hn
    _ = 2 ^ (significantBits + (exponent + unitBits)) := (Nat.pow_add _ _ _).symm
    _ < limit := by
        apply Nat.pow_lt_pow_right (by decide)
        rw [lastPower] at hexponent
        rw [significantBits, rangeBits]
        omega

/-! ### The leading digit -/

theorem le_of_reachesPower {place : Nat} (hplace : place ≤ lastPower) (h : reachesPower u place = true) :
    (2 ^ 43 - 1) * (10 ^ place * one) ≤ 2 ^ 43 * u := by
  rw [reachesPower] at h
  split at h
  · exact absurd h (by decide)
  · next hne =>
      rw [decide_eq_true_iff, Int.toNat_natCast, Int.toNat_neg_natCast, Nat.pow_zero, Nat.mul_one] at h
      -- the spacing of the 64-bit numbers next to the power, which is at most 308
      have hspacing : 2 ^ (2 * (place : Int) - 1).natAbs.log2 ≤ 615 := by
        refine (Nat.log2_self_le (by omega)).trans ?_
        rw [lastPower] at hplace
        omega
      have hbound := h.trans (Nat.mul_le_mul_left _ hspacing)
      generalize 10 ^ place * one = power at hbound ⊢
      rw [significantBits, lnTenUnit, lnTen] at hbound
      omega

/-- The decimal logarithm is carried to the next whole number only from very close to it. -/
theorem le_of_le_magnitude {place : Nat} (hplace : place ≤ lastPower) (h : place ≤ magnitude u) :
    (2 ^ 43 - 1) * (10 ^ place * one) ≤ 2 ^ 43 * u := by
  by_cases hleading : (place : Int) ≤ leadingExponent u
  · have hle : 10 ^ place * one ≤ u := Nat.le_of_not_lt fun hlt =>
      absurd (leadingExponent_lt_iff.mpr hlt) (not_lt.mpr hleading)
    omega
  · have hcarried : reachesPower u place = true := by
      rw [magnitude] at h
      split at h
      · next hcarried =>
          rwa [show (place : Int) = leadingExponent u + 1 by omega]
      · omega
    exact le_of_reachesPower hplace hcarried

/-! ### Cutting exactly -/

/-- The power of ten that is divided out of a number, so that as many digits as are wanted stand before its
decimals. -/
def cutExponent (digits u : Nat) : Nat :=
  (magnitude u + 1 - digits).toNat

/-- The number that is rounded to so many digits is one of 64 bits. -/
def CutsExactly (digits u : Nat) : Prop :=
  Representable (leadingDigits (cutExponent digits u) u * 10 ^ cutExponent digits u * one)

instance (digits u : Nat) : Decidable (CutsExactly digits u) :=
  inferInstanceAs (Decidable (Representable _))

theorem cutExponent_le (hdigits : 0 < digits) (hu : u < limit) : cutExponent digits u ≤ lastPower := by
  have hmagnitude := magnitude_le hu
  rw [cutExponent]
  omega

theorem leadingDigits_cutExponent_le (hdigits : 0 < digits ∧ digits < 10) (hu : u < limit) :
    leadingDigits (cutExponent digits u) u ≤ 10 ^ digits := by
  apply leadingDigits_le (cutExponent_le hdigits.1 hu) (by omega)
  have hplace : magnitude u < (digits + cutExponent digits u : Nat) := by
    rw [cutExponent]
    omega
  rw [← Nat.pow_add]
  exact (lt_of_magnitude_lt hplace).le

theorem le_leadingDigits_cutExponent (hdigits : 0 < digits ∧ digits < 10) (hu : u < limit)
    (hwhole : (digits : Int) - 1 ≤ magnitude u) :
    10 ^ (digits - 1) ≤ leadingDigits (cutExponent digits u) u := by
  have hmagnitude := magnitude_le hu
  apply le_leadingDigits (cutExponent_le hdigits.1 hu) (by omega)
  rw [← Nat.pow_add]
  apply le_of_le_magnitude
  · rw [cutExponent]
    omega
  · rw [cutExponent]
    omega

/-- The product is the leading digits with zeros behind them just where that is a number of 64 bits. -/
theorem cutsExactly_iff (hdigits : 0 < digits ∧ digits < 10) (hu : u < limit)
    (hwhole : (digits : Int) - 1 ≤ magnitude u) (hrange : keptWhole (cutExponent digits u) u * one < limit) :
    CutsExactly digits u ↔ keptWhole (cutExponent digits u) u
      = leadingDigits (cutExponent digits u) u * 10 ^ cutExponent digits u := by
  have hpos : 0 < leadingDigits (cutExponent digits u) u :=
    Nat.lt_of_lt_of_le (Nat.pow_pos (by decide)) (le_leadingDigits_cutExponent hdigits hu hwhole)
  have hexponent := cutExponent_le hdigits.1 hu
  rw [CutsExactly]
  constructor
  · intro h
    have hrough := (roughPower_spec _ (Nat.lt_succ_of_le hexponent)).2.2.2 (exponent_le_of_significant hpos h.2)
    have hexact := nearestUnits_one_of_dvd h.2
    rw [nearestUnits_mul_one] at hexact
    rw [keptWhole, hrough]
    exact Nat.eq_of_mul_eq_mul_right one_pos hexact
  · intro h
    rw [← h, keptWhole, ← nearestUnits_mul_one] at *
    exact representable_nearestUnits hrange

/-- Numbers of no more digits than this are cut exactly. -/
def exactPlaces : Nat :=
  18

theorem cutsExactly_of_lt (hdigits : 0 < digits ∧ digits < 10) (hu : u < 10 ^ exactPlaces * one) :
    CutsExactly digits u := by
  have hlimit : 10 ^ exactPlaces * one ≤ limit := by decide +kernel
  have hexponent : cutExponent digits u ≤ exactPlaces := by
    have hleading := leadingExponent_lt_iff.mpr hu
    have hmagnitude : magnitude u ≤ exactPlaces := by
      rw [magnitude]
      split <;> omega
    rw [cutExponent]
    omega
  have hrange : cutExponent digits u ≤ lastPower := hexponent.trans (by decide)
  apply representable_of_le hrange
  by_cases hfew : cutExponent digits u ≤ 9
  · have hnine : leadingDigits (cutExponent digits u) u ≤ 10 ^ 9 :=
      (leadingDigits_cutExponent_le hdigits (Nat.lt_of_lt_of_le hu hlimit)).trans
        (Nat.pow_le_pow_right (by decide) (by omega))
    exact (Nat.mul_le_mul hnine (Nat.pow_le_pow_right (by decide) hfew)).trans (by decide)
  · -- the more zeros there are, the fewer digits stand before them
    have hfewer : leadingDigits (cutExponent digits u) u ≤ 10 ^ (exactPlaces - cutExponent digits u) := by
      have hle := hu.le
      rw [← Nat.sub_add_cancel hexponent, Nat.pow_add] at hle
      refine leadingDigits_le hrange ?_ hle
      rw [exactPlaces]
      omega
    have htable : ∀ exponent < exactPlaces + 1, 9 < exponent →
        10 ^ (exactPlaces - exponent) * 5 ^ exponent ≤ 2 ^ significantBits := by
      decide
    exact (Nat.mul_le_mul_right _ hfewer).trans
      (htable _ (Nat.lt_succ_of_le hexponent) (Nat.lt_of_not_le hfew))

theorem not_cutsExactly_of_le (hdigits : 0 < digits ∧ digits < 10) (hlimit : u < limit)
    (hu : 10 ^ (lastExact + digits) * one ≤ u) : ¬CutsExactly digits u := by
  intro h
  have hleading : ((lastExact + digits : Nat) : Int) ≤ leadingExponent u := by
    by_contra hlt
    exact absurd (leadingExponent_lt_iff.mp (not_le.mp hlt)) (Nat.not_lt.mpr hu)
  have hmagnitude := hleading.trans (leadingExponent_le_magnitude u)
  have hpos : 0 < leadingDigits (cutExponent digits u) u :=
    Nat.lt_of_lt_of_le (Nat.pow_pos (by decide)) (le_leadingDigits_cutExponent hdigits hlimit (by omega))
  have hexponent := exponent_le_of_significant hpos h.2
  rw [cutExponent] at hexponent
  omega

end Binary64

end TypedTemplate
