import Mathlib.Algebra.Order.Field.Power
import Mathlib.Algebra.Order.Field.Rat
import Mathlib.Data.Nat.Log
import Mathlib.Tactic.FieldSimp
import Mathlib.Tactic.Linarith
import Mathlib.Tactic.Positivity
import TypedTemplate.Number.Decimal
import TypedTemplate.Proofs.Number.Whole
/-!
# Correct rounding

What it is for a number of 64 bits to be a rational number rounded once: from halfway above the largest
number on it is infinite, and below that no number is nearer, and where another one is as near the one with
the even significand is taken. At most one number can answer to this, so two computations that round the
same rational agree bit for bit. Here the rounding of quotients and of decimals is shown to answer to it,
whatever the size of the operands and whichever way the computation was cut short.

Counts of units are compared first, without a bound on their size. The bound comes in at the end, where the
first count that is too large is one more candidate among the others.
-/

namespace TypedTemplate

/-! ### Rounding a quotient to a natural number -/

theorem cast_div_eq_add (num : Nat) {den : Nat} (hden : 0 < den) :
    (num : ℚ) / den = (num / den : Nat) + ((num % den : Nat) : ℚ) / den := by
  have hne : (den : ℚ) ≠ 0 := by positivity
  have hsplit : (num : ℚ) = (den : ℚ) * (num / den : Nat) + (num % den : Nat) := by
    exact_mod_cast (Nat.div_add_mod num den).symm
  field_simp
  linarith

/-- The rounded quotient is off by at most a half, and by a half only when it is even. -/
theorem abs_roundDiv_sub_le (num : Nat) {den : Nat} (hden : 0 < den) :
    |(roundDiv num den : ℚ) - num / den| ≤ 1 / 2
      ∧ (|(roundDiv num den : ℚ) - num / den| = 1 / 2 → 2 ∣ roundDiv num den) := by
  have hpos : (0 : ℚ) < den := by exact_mod_cast hden
  rw [cast_div_eq_add num hden]
  have hnonneg : 0 ≤ ((num % den : Nat) : ℚ) / den := by positivity
  have hlt : ((num % den : Nat) : ℚ) / den < 1 := by
    rw [div_lt_one hpos]
    exact_mod_cast Nat.mod_lt num hden
  simp only [roundDiv]
  split
  · next hless =>
      have hhalf : ((num % den : Nat) : ℚ) / den < 1 / 2 := by
        rw [div_lt_iff₀ hpos]
        have : (2 : ℚ) * (num % den : Nat) < den := by exact_mod_cast hless
        linarith
      rw [sub_add_cancel_left, abs_neg, abs_of_nonneg hnonneg]
      exact ⟨le_of_lt hhalf, fun h => absurd h (ne_of_lt hhalf)⟩
  · next hmore =>
      have hhalf : 1 / 2 ≤ ((num % den : Nat) : ℚ) / den := by
        rw [le_div_iff₀ hpos]
        have : (den : ℚ) ≤ 2 * (num % den : Nat) := by exact_mod_cast Nat.le_of_not_lt hmore
        linarith
      split
      · next htie =>
          have heq : ((num % den : Nat) : ℚ) / den = 1 / 2 := by
            rw [div_eq_iff hpos.ne']
            have : (2 : ℚ) * (num % den : Nat) = den := by exact_mod_cast htie.1
            linarith
          rw [heq, sub_add_cancel_left, abs_neg, abs_of_nonneg (by norm_num)]
          exact ⟨le_rfl, fun _ => Nat.dvd_of_mod_eq_zero htie.2⟩
      · next hround =>
          push_cast
          rw [add_sub_add_left_eq_sub, abs_of_nonneg (by linarith)]
          refine ⟨by linarith, fun h => ?_⟩
          have heq : (2 : ℚ) * (num % den : Nat) = den := by
            have : ((num % den : Nat) : ℚ) / den = 1 / 2 := by linarith
            rw [div_eq_iff hpos.ne'] at this
            linarith
          have htie : 2 * (num % den) = den := by exact_mod_cast heq
          omega

theorem half_le_abs_sub {x : ℚ} {k j : Nat} (hk : |(k : ℚ) - x| ≤ 1 / 2) (hne : j ≠ k) :
    1 / 2 ≤ |(j : ℚ) - x| := by
  have hone : (1 : ℚ) ≤ |(j : ℚ) - k| := by
    have : (1 : ℤ) ≤ |(j : ℤ) - k| := Int.one_le_abs (by omega)
    exact_mod_cast this
  have htriangle : |(j : ℚ) - k| ≤ |(j : ℚ) - x| + |(k : ℚ) - x| := by
    rw [abs_sub_comm (k : ℚ) x]
    exact abs_sub_le _ _ _
  linarith

/-- No natural number is nearer to a quotient than the rounded one. -/
theorem abs_roundDiv_sub_le_abs_sub (num : Nat) {den : Nat} (hden : 0 < den) (j : Nat) :
    |(roundDiv num den : ℚ) - num / den| ≤ |(j : ℚ) - num / den| := by
  have hhalf := (abs_roundDiv_sub_le num hden).1
  rcases eq_or_ne j (roundDiv num den) with rfl | hne
  · exact le_rfl
  · exact le_trans hhalf (half_le_abs_sub hhalf hne)

namespace Binary64

/-! ### Counts of units with at most 53 significant bits -/

/-- A count that needs no more significant bits than a number has, whatever its size. -/
def Significant (units : Nat) : Prop :=
  2 ^ spareBits units ∣ units

/-- The last bit that a count of this size can carry is zero. -/
def EvenSignificand (units : Nat) : Prop :=
  2 ^ (spareBits units + 1) ∣ units

theorem spareBits_mono {u v : Nat} (h : u ≤ v) : spareBits u ≤ spareBits v := by
  have hlog : u.log2 ≤ v.log2 := by
    rw [Nat.log2_eq_log_two, Nat.log2_eq_log_two]
    exact Nat.log_mono_right h
  simp only [spareBits]
  omega

theorem spareBits_le {u bits : Nat} (h : u < 2 ^ (significantBits + bits)) : spareBits u ≤ bits := by
  rcases eq_or_ne u 0 with rfl | hne
  · exact Nat.zero_le _
  · have hlog := (Nat.log2_lt hne).mpr h
    simp only [spareBits]
    omega

theorem add_step_le_of_dvd {u v step : Nat} (hstep : step ∣ u) (hv : step ∣ v) (h : u < v) :
    u + step ≤ v := by
  have hle := Nat.le_of_dvd (Nat.sub_pos_of_lt h) (Nat.dvd_sub hv hstep)
  omega

theorem Significant.add_step {u : Nat} (hu : Significant u) : Significant (u + 2 ^ spareBits u) := by
  obtain ⟨k, hk⟩ := hu
  have hlt : k < 2 ^ significantBits := by
    have hunits := lt_two_pow_of_spareBits u
    rw [Nat.pow_add, Nat.mul_comm] at hunits
    exact Nat.lt_of_mul_lt_mul_left (lt_of_eq_of_lt hk.symm hunits)
  have hnext : u + 2 ^ spareBits u = (k + 1) * 2 ^ spareBits u := by
    rw [Nat.add_mul, Nat.one_mul, Nat.mul_comm k, ← hk]
  rw [hnext]
  exact spareBits_dvd_of_le hlt

/-- A count that the rounding of `n` would lose bits of is far below it: a power of two that carries no
such bits lies between. -/
theorem Significant.lt_two_pow_le {n v : Nat} (hv : Significant v) (h : ¬2 ^ spareBits n ∣ v) :
    v < 2 ^ (significantBits - 1 + spareBits n) ∧ 2 ^ (significantBits - 1 + spareBits n) ≤ n := by
  have hspare : spareBits v < spareBits n := by
    by_contra hle
    exact h (Nat.dvd_trans (Nat.pow_dvd_pow 2 (Nat.le_of_not_lt hle)) hv)
  have hbits : 0 < significantBits := by decide
  constructor
  · refine Nat.lt_of_lt_of_le (lt_two_pow_of_spareBits v) (Nat.pow_le_pow_right (by decide) ?_)
    omega
  · have hn : n ≠ 0 := by
      rintro rfl
      simp [spareBits, significantBits] at hspare
    have hlog : significantBits - 1 + spareBits n = n.log2 := by
      simp only [spareBits] at hspare ⊢
      omega
    rw [hlog]
    exact Nat.log2_self_le hn

/-! ### The nearest count -/

/-- The count is nearest to a rational, and even where another one is as near. -/
structure NearestTo (q : ℚ) (u : Nat) : Prop where
  significant : Significant u
  abs_sub_le : ∀ v, Significant v → |(u : ℚ) - q| ≤ |(v : ℚ) - q|
  even_of_eq : ∀ v, Significant v → |(u : ℚ) - q| = |(v : ℚ) - q| → v = u ∨ EvenSignificand u

theorem evenSignificand_mul_two_pow {k shift : Nat} (hk : k ≤ 2 ^ significantBits) (heven : 2 ∣ k) :
    EvenSignificand (k * 2 ^ shift) := by
  rcases Nat.lt_or_eq_of_le hk with hlt | rfl
  · have hspare : spareBits (k * 2 ^ shift) ≤ shift := spareBits_le (mul_two_pow_lt hlt shift)
    refine Nat.dvd_trans (Nat.pow_dvd_pow 2 (Nat.succ_le_succ hspare)) ?_
    rw [Nat.pow_succ, Nat.mul_comm]
    exact Nat.mul_dvd_mul_right heven _
  · rw [EvenSignificand, ← Nat.pow_add, spareBits, Nat.log2_two_pow]
    refine Nat.pow_dvd_pow 2 ?_
    have : 1 < significantBits := by decide
    omega

theorem abs_mul_two_pow_sub (j shift num den : Nat) :
    |((j * 2 ^ shift : Nat) : ℚ) - num / den|
      = |(j : ℚ) - num / (den * 2 ^ shift : Nat)| * 2 ^ shift := by
  have hstep : (0 : ℚ) < 2 ^ shift := by positivity
  have heq : ((j * 2 ^ shift : Nat) : ℚ) - num / den
      = ((j : ℚ) - num / (den * 2 ^ shift : Nat)) * 2 ^ shift := by
    push_cast
    rw [sub_mul, ← div_div, div_mul_cancel₀ _ hstep.ne']
  rw [heq, abs_mul, abs_of_pos hstep]

/-- In steps of the last bit that is kept, no count is nearer than the rounded one. -/
theorem abs_nearestUnits_sub_le (num : Nat) {den : Nat} (hden : 0 < den) (j : Nat) :
    |(nearestUnits num den : ℚ) - num / den|
      ≤ |((j * 2 ^ spareBits (num / den) : Nat) : ℚ) - num / den| := by
  have hstep : (0 : ℚ) ≤ 2 ^ spareBits (num / den) := by positivity
  have hgrid := abs_roundDiv_sub_le_abs_sub num (by positivity : 0 < den * 2 ^ spareBits (num / den)) j
  simp only [nearestUnits, abs_mul_two_pow_sub]
  exact mul_le_mul_of_nonneg_right hgrid hstep

theorem abs_nearestUnits_sub_lt (num : Nat) {den v : Nat} (hden : 0 < den) (hv : Significant v)
    (hdvd : ¬2 ^ spareBits (num / den) ∣ v) :
    |(nearestUnits num den : ℚ) - num / den| < |(v : ℚ) - num / den| := by
  obtain ⟨hlow, hhigh⟩ := hv.lt_two_pow_le hdvd
  rw [Nat.pow_add] at hlow hhigh
  have hpower : ((2 ^ (significantBits - 1) * 2 ^ spareBits (num / den) : Nat) : ℚ) ≤ num / den := by
    rw [le_div_iff₀ (by positivity)]
    exact_mod_cast (Nat.le_div_iff_mul_le hden).mp hhigh
  have hv' : (v : ℚ) < (2 ^ (significantBits - 1) * 2 ^ spareBits (num / den) : Nat) := by
    exact_mod_cast hlow
  -- The power of two between `v` and the quotient is one of the counts that are no nearer.
  have hnear := abs_nearestUnits_sub_le num hden (2 ^ (significantBits - 1))
  rw [abs_of_nonpos (sub_nonpos.mpr hpower)] at hnear
  rw [abs_of_nonpos (by linarith only [hpower, hv'] : (v : ℚ) - num / den ≤ 0)]
  linarith only [hnear, hv']

theorem eq_or_even_of_abs_eq (num : Nat) {den j : Nat} (hden : 0 < den)
    (heq : |(nearestUnits num den : ℚ) - num / den|
      = |((j * 2 ^ spareBits (num / den) : Nat) : ℚ) - num / den|) :
    j * 2 ^ spareBits (num / den) = nearestUnits num den ∨ EvenSignificand (nearestUnits num den) := by
  have hstep : (0 : ℚ) < 2 ^ spareBits (num / den) := by positivity
  obtain ⟨hhalf, htie⟩ := abs_roundDiv_sub_le num (by positivity : 0 < den * 2 ^ spareBits (num / den))
  rcases eq_or_ne j (roundDiv num (den * 2 ^ spareBits (num / den))) with rfl | hne
  · exact .inl rfl
  · simp only [nearestUnits, abs_mul_two_pow_sub] at heq
    have hsame := mul_right_cancel₀ hstep.ne' heq
    have heven := htie (le_antisymm hhalf (hsame ▸ half_le_abs_sub hhalf hne))
    exact .inr (evenSignificand_mul_two_pow (roundDiv_le_two_pow num den) heven)

theorem nearestTo_nearestUnits (num : Nat) {den : Nat} (hden : 0 < den) :
    NearestTo (num / den) (nearestUnits num den) := by
  refine ⟨spareBits_dvd_of_le (roundDiv_le_two_pow num den), fun v hv => ?_, fun v hv heq => ?_⟩
  · by_cases hdvd : 2 ^ spareBits (num / den) ∣ v
    · obtain ⟨j, rfl⟩ := hdvd
      rw [Nat.mul_comm]
      exact abs_nearestUnits_sub_le num hden j
    · exact (abs_nearestUnits_sub_lt num hden hv hdvd).le
  · by_cases hdvd : 2 ^ spareBits (num / den) ∣ v
    · obtain ⟨j, rfl⟩ := hdvd
      rw [Nat.mul_comm] at heq ⊢
      exact eq_or_even_of_abs_eq num hden heq
    · exact absurd heq (abs_nearestUnits_sub_lt num hden hv hdvd).ne

/-! ### The range -/

/-- How many low bits the largest numbers cannot carry. -/
def topBits : Nat :=
  rangeBits + unitBits - significantBits

/-- The largest count of units of a number. -/
def largest : Nat :=
  limit - 2 ^ topBits

theorem limit_eq : limit = largest + 2 ^ topBits := by
  decide +kernel

/-- Half of the distance between the largest numbers. -/
def halfTop : ℚ :=
  2 ^ (topBits - 1)

theorem halfTop_pos : 0 < halfTop := by
  rw [halfTop]
  positivity

theorem cast_limit : (limit : ℚ) = largest + (halfTop + halfTop) := by
  have hbits : topBits = topBits - 1 + 1 := by decide
  have hstep : ((2 ^ topBits : Nat) : ℚ) = halfTop + halfTop := by
    rw [hbits, halfTop, Nat.pow_succ, Nat.cast_mul, Nat.cast_ofNat, mul_two, Nat.cast_pow, Nat.cast_ofNat]
  rw [← hstep, limit_eq, Nat.cast_add]

theorem Significant.le_largest {u : Nat} (hu : Significant u) (h : u < limit) : u ≤ largest := by
  by_contra hlt
  have hspare : spareBits largest = topBits := by decide +kernel
  have hstep : 2 ^ topBits ∣ u := by
    rw [← hspare]
    exact Nat.dvd_trans (Nat.pow_dvd_pow 2 (spareBits_mono (by omega))) hu
  have hlargest : 2 ^ topBits ∣ largest := by decide +kernel
  have hle := add_step_le_of_dvd hlargest hstep (Nat.lt_of_not_le hlt)
  rw [limit_eq] at h
  exact absurd h (Nat.not_lt.mpr hle)

/-- The nearest count is within the range exactly below the middle between the largest count and the
limit; the middle itself goes to the limit, whose significand is even. -/
theorem NearestTo.lt_limit_iff {q : ℚ} {u : Nat} (h : NearestTo q u) :
    u < limit ↔ q < largest + halfTop := by
  have hlargest : Significant largest := by
    unfold Significant
    decide +kernel
  have hlimit : Significant limit := by
    unfold Significant
    decide +kernel
  have hcast := cast_limit
  have hpos := halfTop_pos
  constructor
  · intro hu
    by_contra hq
    have hle : (u : ℚ) ≤ largest := by exact_mod_cast h.significant.le_largest hu
    have hnear := h.abs_sub_le limit hlimit
    rw [abs_sub_comm, abs_of_nonneg (by linarith)] at hnear
    rcases abs_cases ((limit : ℚ) - q) with ⟨habs, _⟩ | ⟨habs, _⟩
    · have hu' : (u : ℚ) = largest := by linarith
      have heq : |(u : ℚ) - q| = |(limit : ℚ) - q| := by
        rw [abs_sub_comm, abs_of_nonneg (by linarith)]
        linarith
      rcases h.even_of_eq limit hlimit heq with hsame | heven
      · omega
      · have hodd : ¬EvenSignificand largest := by
          unfold EvenSignificand
          decide +kernel
        exact hodd ((Nat.cast_injective hu') ▸ heven)
    · linarith
  · intro hq
    by_contra hu
    have hle : (limit : ℚ) ≤ u := by exact_mod_cast Nat.le_of_not_lt hu
    have hnear := h.abs_sub_le largest hlargest
    rw [abs_of_nonneg (by linarith)] at hnear
    rcases abs_cases ((largest : ℚ) - q) with ⟨habs, _⟩ | ⟨habs, _⟩ <;> linarith

/-! ### The values of numbers -/

/-- A rational number with a sign put before it. -/
def withSign (negative : Bool) (q : ℚ) : ℚ :=
  if negative then -q else q

theorem abs_withSign (negative : Bool) (q : ℚ) : |withSign negative q| = |q| := by
  cases negative with
  | false => rfl
  | true => exact abs_neg q

theorem abs_withSign_sub (negative : Bool) (p q : ℚ) :
    |withSign negative p - withSign negative q| = |p - q| := by
  cases negative with
  | false => rfl
  | true =>
      show |-p - -q| = |p - q|
      rw [neg_sub_neg, abs_sub_comm]

/-- The value of a finite number. -/
def value (negative : Bool) (units : Nat) : ℚ :=
  withSign negative (units / one)

/-- From here on a number is too large: halfway between the largest number and `2¹⁰²⁴`. -/
def overflow : ℚ :=
  2 ^ rangeBits - 2 ^ (rangeBits - significantBits - 1)

/-- A rational number rounded once to 64 bits; the sign is kept also where the number is zero or too
large. -/
inductive RoundsTo (negative : Bool) (q : ℚ) : Binary64 → Prop
  | infinite (hq : overflow ≤ |q|) : RoundsTo negative q (.infinite negative)
  | finite {units : Nat} {h : Representable units} (hq : |q| < overflow)
      (hnearest : ∀ s v, Representable v → |value negative units - q| ≤ |value s v - q|)
      (heven : ∀ s v, Representable v → |value negative units - q| = |value s v - q| →
        v = units ∨ EvenSignificand units) :
      RoundsTo negative q (.finite negative units h)

theorem cast_one_pos : (0 : ℚ) < one := by
  have hone : 0 < one := by
    rw [one]
    exact Nat.two_pow_pos _
  exact Nat.cast_pos.mpr hone

theorem overflow_mul_one : overflow * one = largest + halfTop := by
  have hbits : rangeBits - significantBits - 1 + unitBits = topBits - 1 := by decide
  have hone : (one : ℚ) = 2 ^ unitBits := by
    rw [one, Nat.cast_pow, Nat.cast_ofNat]
  have hlimit : (limit : ℚ) = 2 ^ (rangeBits + unitBits) := by
    rw [limit, Nat.cast_pow, Nat.cast_ofNat]
  have hcast := cast_limit
  rw [overflow, hone, sub_mul, ← pow_add, ← pow_add, ← hlimit, hbits, ← halfTop]
  linarith

theorem abs_div_sub_div (a b : ℚ) : |a / one - b / one| = |a - b| / one := by
  rw [← sub_div, abs_div, abs_of_pos cast_one_pos]

/-- The nearest count is the nearest number, of either sign, as long as there are numbers of that size. -/
theorem NearestTo.roundsTo {q : ℚ} {u : Nat} (h : NearestTo q u) (hq : 0 ≤ q) (negative : Bool)
    (hu : Representable u) : RoundsTo negative (withSign negative (q / one)) (.finite negative u hu) := by
  have hone := cast_one_pos
  have hpositive : 0 ≤ q / one := div_nonneg hq hone.le
  have hvalue : |value negative u - withSign negative (q / one)| = |(u : ℚ) - q| / one := by
    rw [value, abs_withSign_sub, abs_div_sub_div]
  -- A number of the other sign is on the other side of zero, so it is no nearer than its magnitude.
  have hother : ∀ s (v : Nat), |(v : ℚ) - q| / one ≤ |value s v - withSign negative (q / one)| := by
    intro s v
    have hmagnitude := abs_abs_sub_abs_le (value s v) (withSign negative (q / one))
    rwa [value, abs_withSign, abs_withSign, abs_of_nonneg (div_nonneg (Nat.cast_nonneg v) hone.le),
      abs_of_nonneg hpositive, abs_div_sub_div] at hmagnitude
  refine .finite ?_ (fun s v hv => ?_) (fun s v hv heq => ?_)
  · rw [abs_withSign, abs_of_nonneg hpositive, div_lt_iff₀ hone, overflow_mul_one]
    exact h.lt_limit_iff.mp hu.1
  · rw [hvalue]
    exact le_trans (div_le_div_of_nonneg_right (h.abs_sub_le v hv.2) hone.le) (hother s v)
  · rw [hvalue] at heq
    have hle := (div_le_div_iff_of_pos_right hone).mp (heq ▸ hother s v)
    exact h.even_of_eq v hv.2 (le_antisymm (h.abs_sub_le v hv.2) hle)

/-- A quotient of units is rounded to the nearest number. -/
theorem roundsTo_nearest (negative : Bool) (num : Nat) {den : Nat} (hden : 0 < den) :
    RoundsTo negative (withSign negative (num / den / one)) (nearest negative num den) := by
  have hnearest := nearestTo_nearestUnits num hden
  have hq : (0 : ℚ) ≤ num / den := by positivity
  rw [nearest]
  split
  · next hlt => exact hnearest.roundsTo hq negative _
  · next hlarge =>
      refine .infinite ?_
      rw [abs_withSign, abs_of_nonneg (div_nonneg hq cast_one_pos.le), le_div_iff₀ cast_one_pos,
        overflow_mul_one]
      exact not_lt.mp fun hlt => hlarge (hnearest.lt_limit_iff.mpr hlt)

/-! ### At most one number is the rounded one -/

theorem Significant.exists_between {u v : Nat} (hu : Significant u) (heven : EvenSignificand u)
    (hev : EvenSignificand v) (h : u < v) : ∃ w, Significant w ∧ u < w ∧ w < v := by
  have hstep : u + 2 ^ (spareBits u + 1) ≤ v := by
    refine add_step_le_of_dvd heven ?_ h
    exact Nat.dvd_trans (Nat.pow_dvd_pow 2 (Nat.succ_le_succ (spareBits_mono (Nat.le_of_lt h)))) hev
  have hpos := Nat.two_pow_pos (spareBits u)
  rw [Nat.pow_succ] at hstep
  exact ⟨u + 2 ^ spareBits u, hu.add_step, by omega, by omega⟩

theorem exists_between_of_even {u v : Nat} (hu : Representable u) (hv : Representable v)
    (heven : EvenSignificand u) (hev : EvenSignificand v) (h : u < v) :
    ∃ w, Representable w ∧ u < w ∧ w < v := by
  obtain ⟨w, hw, huw, hwv⟩ := Significant.exists_between hu.2 heven hev h
  exact ⟨w, ⟨Nat.lt_trans hwv hv.1, hw⟩, huw, hwv⟩

theorem abs_sub_lt_of_between {a b c q : ℚ} (hab : a < b) (hbc : b < c) (h : |a - q| = |c - q|) :
    |b - q| < |a - q| := by
  have hmiddle : q = (a + c) / 2 := by
    rcases abs_eq_abs.mp h with heq | heq <;> linarith
  rw [abs_sub_comm a, abs_of_nonneg (by linarith : 0 ≤ q - a), abs_lt]
  constructor <;> linarith

theorem abs_value_sub (negative : Bool) (u : Nat) (q : ℚ) :
    |value negative u - q| = |(u : ℚ) / one - withSign negative q| := by
  have hsign : withSign negative (withSign negative q) = q := by
    cases negative with
    | false => rfl
    | true => exact neg_neg q
  rw [value, ← hsign, abs_withSign_sub, hsign]

theorem RoundsTo.not_lt {negative : Bool} {q : ℚ} {u v : Nat} {hu : Representable u}
    {hv : Representable v} (h : RoundsTo negative q (.finite negative u hu))
    (h' : RoundsTo negative q (.finite negative v hv)) : ¬u < v := by
  intro hlt
  cases h with
  | finite _ hnearest heven =>
      cases h' with
      | finite _ hnearest' heven' =>
          have heq := le_antisymm (hnearest negative v hv) (hnearest' negative u hu)
          have hu' := (heven negative v hv heq).resolve_left (Nat.ne_of_gt hlt)
          have hv' := (heven' negative u hu heq.symm).resolve_left (Nat.ne_of_lt hlt)
          obtain ⟨w, hw, huw, hwv⟩ := exists_between_of_even hu hv hu' hv' hlt
          have hcloser := hnearest negative w hw
          rw [abs_value_sub, abs_value_sub] at heq hcloser
          have hbetween : ∀ a b : Nat, a < b → (a : ℚ) / one < b / one := fun a b hab =>
            div_lt_div_of_pos_right (Nat.cast_lt.mpr hab) cast_one_pos
          exact absurd (abs_sub_lt_of_between (hbetween u w huw) (hbetween w v hwv) heq)
            hcloser.not_gt

theorem RoundsTo.unique {negative : Bool} {q : ℚ} {x y : Binary64} (hx : RoundsTo negative q x)
    (hy : RoundsTo negative q y) : x = y := by
  have hx' := hx
  have hy' := hy
  cases hx with
  | infinite hq =>
      cases hy with
      | infinite => rfl
      | finite hq' => exact absurd hq (not_le.mpr hq')
  | @finite u hu hq =>
      cases hy with
      | infinite hq' => exact absurd hq' (not_le.mpr hq)
      | @finite v hv =>
          obtain rfl : u = v :=
            Nat.le_antisymm (Nat.not_lt.mp (hy'.not_lt hx')) (Nat.not_lt.mp (hx'.not_lt hy'))
          rfl

end Binary64

/-! ### Decimals -/

/-- The number that a decimal says. -/
def Decimal.value (d : Decimal) : ℚ :=
  Binary64.withSign d.negative (d.coefficient * 10 ^ d.exponent)

namespace Binary64

theorem roundsTo_zero (negative : Bool) {q : ℚ} (hq : 0 ≤ q) (hsmall : 2 * q * one < 1) :
    RoundsTo negative (withSign negative q) (zero negative) := by
  have hone := cast_one_pos
  have hnearest : NearestTo (q * one) 0 := by
    have hqone : 0 ≤ q * one := mul_nonneg hq hone.le
    have hzero : |((0 : Nat) : ℚ) - q * one| = q * one := by
      rw [Nat.cast_zero, zero_sub, abs_neg, abs_of_nonneg hqone]
    have hfar : ∀ v : Nat, v ≠ 0 → q * one < |(v : ℚ) - q * one| := by
      intro v hv
      have hv' : (1 : ℚ) ≤ v := by exact_mod_cast Nat.one_le_iff_ne_zero.mpr hv
      rw [abs_of_nonneg (by linarith)]
      linarith
    refine ⟨Nat.dvd_zero _, fun v _ => ?_, fun v _ heq => .inl ?_⟩
    · rw [hzero]
      rcases eq_or_ne v 0 with rfl | hv
      · rw [hzero]
      · exact (hfar v hv).le
    · by_contra hv
      rw [hzero] at heq
      exact absurd heq (hfar v hv).ne
  have hround := hnearest.roundsTo (mul_nonneg hq hone.le) negative representable_zero
  rwa [mul_div_cancel_right₀ _ hone.ne'] at hround

theorem overflow_le_ten_pow {e : Nat} (he : 310 ≤ e) : overflow ≤ 10 ^ e := by
  have hten : 2 ^ rangeBits ≤ 10 ^ 310 := by decide +kernel
  have hpos : (0 : ℚ) < 2 ^ (rangeBits - significantBits - 1) := by positivity
  calc overflow ≤ 2 ^ rangeBits := by
        rw [overflow]
        linarith
    _ ≤ 10 ^ 310 := by exact_mod_cast hten
    _ ≤ 10 ^ e := pow_le_pow_right₀ (by norm_num) he

theorem two_mul_lt_ten_pow {c e : Nat} (he : c.log2 + 400 ≤ e) : 2 * c * one < 10 ^ (e + 1) := by
  have hten : 2 * 2 * one ≤ 10 ^ 401 := by decide +kernel
  have htwo : 2 ^ c.log2 ≤ 10 ^ c.log2 := Nat.pow_le_pow_left (by decide) _
  have hc : c < 2 * 2 ^ c.log2 := by
    rw [Nat.mul_comm, ← Nat.pow_succ]
    exact Nat.lt_log2_self
  have hone : 0 < one := Nat.cast_pos.mp cast_one_pos
  calc 2 * c * one < 2 * (2 * 2 ^ c.log2) * one :=
        Nat.mul_lt_mul_of_pos_right (Nat.mul_lt_mul_of_pos_left hc (by decide)) hone
    _ = 2 ^ c.log2 * (2 * 2 * one) := by
        rw [← Nat.mul_assoc, Nat.mul_right_comm, Nat.mul_comm]
    _ ≤ 10 ^ c.log2 * 10 ^ 401 := Nat.mul_le_mul htwo hten
    _ = 10 ^ (c.log2 + 401) := by rw [Nat.pow_add]
    _ ≤ 10 ^ (e + 1) := Nat.pow_le_pow_right (by decide) (by omega)

/-- Reading a decimal rounds it once, however large its coefficient and its exponent are. -/
theorem roundsTo_ofDecimal (d : Decimal) : RoundsTo d.negative d.value (ofDecimal d) := by
  have hone := cast_one_pos
  rw [ofDecimal, Decimal.value]
  split
  · next hzero =>
      rw [hzero, Nat.cast_zero, zero_mul]
      refine roundsTo_zero _ le_rfl ?_
      rw [mul_zero, zero_mul]
      exact zero_lt_one
  next hcoefficient =>
  have hpos : (1 : ℚ) ≤ d.coefficient := by exact_mod_cast Nat.one_le_iff_ne_zero.mpr hcoefficient
  split
  · next e he =>
      rw [he, Int.ofNat_eq_natCast, zpow_natCast]
      split
      · next hlarge =>
          refine .infinite ?_
          rw [abs_withSign, abs_of_nonneg (by positivity)]
          calc overflow ≤ 10 ^ e := overflow_le_ten_pow hlarge
            _ ≤ d.coefficient * 10 ^ e := le_mul_of_one_le_left (by positivity) hpos
      · have hround := roundsTo_nearest d.negative (d.coefficient * 10 ^ e * one) Nat.one_pos
        push_cast at hround
        rwa [div_one, mul_div_cancel_right₀ _ hone.ne'] at hround
  · next e he =>
      rw [he, zpow_negSucc, ← div_eq_mul_inv]
      split
      · next hsmall =>
          refine roundsTo_zero _ (by positivity) ?_
          rw [← mul_div_assoc, div_mul_eq_mul_div, div_lt_one (by positivity)]
          exact_mod_cast two_mul_lt_ten_pow hsmall
      · have hround := roundsTo_nearest d.negative (d.coefficient * one)
          (Nat.pow_pos (by decide) : 0 < 10 ^ (e + 1))
        push_cast at hround
        rwa [div_right_comm, mul_div_cancel_right₀ _ hone.ne'] at hround

end Binary64

end TypedTemplate
