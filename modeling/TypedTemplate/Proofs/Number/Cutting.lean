import Mathlib.Tactic.Ring
import TypedTemplate.Proofs.Number.Grouping
import TypedTemplate.Proofs.Number.Monotonicity
/-!
# Cutting to significant digits

A number with more digits before the decimals than are wanted is divided by a power of ten, rounded to a whole
number and multiplied again. Each step keeps the order, so the result is known to be within the range when it
is so for a larger number. Below `10³⁰⁸` that is always the case; the powers of ten come out of a loop that
rounds every product, and `UpTo` carries what is needed of them, that they are no larger than their exponent
allows. Next to the limit a number cut to few digits may be carried over it, and `carryFrom` lists from where
on.
-/

namespace TypedTemplate

namespace Binary64

/-! ### Single steps -/

theorem mul_finite (s t : Bool) {u v : Nat} (hu : Representable u) (hv : Representable v) :
    Binary64.finite s u hu * .finite t v hv = nearest (s != t) (u * v) one := by
  change mul (finite s u hu) (finite t v hv) = _
  rw [mul]

theorem div_finite (s t : Bool) {u v : Nat} (hu : Representable u) (hv : Representable v) (hne : v ≠ 0) :
    Binary64.finite s u hu / .finite t v hv = nearest (s != t) (u * one) v := by
  change div (finite s u hu) (finite t v hv) = _
  rw [div, if_neg hne]

/-! ### Powers of ten -/

/-- The number is at least one and at most `q`. -/
def UpTo (x : Binary64) (q : ℚ) : Prop :=
  ∃ u h, x = .finite false u h ∧ one ≤ u ∧ (u : ℚ) ≤ q * one

/-- The largest power of ten that is in the range. -/
def lastPower : Nat :=
  308

/-- Ten, and as much above it as one rounding may add. -/
def nearTen : ℚ :=
  10 * (1 + roundoff)

theorem one_le_nearTen : 1 ≤ nearTen := by
  have := roundoff_pos
  rw [nearTen]
  linarith

theorem one_add_roundoff : 1 + roundoff = (2 ^ significantBits + 1) / 2 ^ significantBits := by
  rw [roundoff, add_div, div_self (by positivity)]

theorem nearTen_pow_le {n : Nat} (hn : n ≤ lastPower) : nearTen ^ n ≤ 11 / 10 * 10 ^ n := by
  have htenth : (1 + roundoff) ^ lastPower ≤ 11 / 10 := by
    have hnat : (2 ^ significantBits + 1) ^ lastPower * 10 ≤ 11 * (2 ^ significantBits) ^ lastPower := by
      decide +kernel
    have hcast := (Nat.cast_le (α := ℚ)).mpr hnat
    rw [one_add_roundoff, div_pow, div_le_div_iff₀ (by positivity) (by norm_num)]
    simpa only [Nat.cast_mul, Nat.cast_pow, Nat.cast_add, Nat.cast_one, Nat.cast_ofNat] using hcast
  have hone : 1 ≤ 1 + roundoff := by
    have := roundoff_pos
    linarith
  calc nearTen ^ n = (1 + roundoff) ^ n * 10 ^ n := by rw [nearTen, mul_pow, mul_comm]
    _ ≤ (1 + roundoff) ^ lastPower * 10 ^ n := by
        apply mul_le_mul_of_nonneg_right (pow_le_pow_right₀ hone hn)
        positivity
    _ ≤ 11 / 10 * 10 ^ n := by
        apply mul_le_mul_of_nonneg_right htenth
        positivity

theorem nearTen_pow_mul_one_lt {n : Nat} (hn : n ≤ lastPower) : nearTen ^ n * one < limit := by
  have hnat : 11 * 10 ^ lastPower * one < limit * 10 := by decide +kernel
  have hcast := (Nat.cast_lt (α := ℚ)).mpr hnat
  rw [Nat.cast_mul, Nat.cast_mul, Nat.cast_mul, Nat.cast_pow, Nat.cast_ofNat, Nat.cast_ofNat] at hcast
  have hpow : nearTen ^ n ≤ 11 / 10 * 10 ^ lastPower :=
    (pow_le_pow_right₀ one_le_nearTen hn).trans (nearTen_pow_le le_rfl)
  have hmul := mul_le_mul_of_nonneg_right hpow cast_one_pos.le
  linarith

namespace UpTo

variable {x y : Binary64} {p q : ℚ}

theorem mono (hx : x.UpTo p) (h : p ≤ q) : x.UpTo q := by
  obtain ⟨u, hu, rfl, hone, hle⟩ := hx
  exact ⟨u, hu, rfl, hone, hle.trans (mul_le_mul_of_nonneg_right h cast_one_pos.le)⟩

theorem nonneg (hx : x.UpTo p) : 0 ≤ p := by
  obtain ⟨u, _, rfl, _, hle⟩ := hx
  by_contra hp
  have hneg : p * one < 0 := mul_neg_of_neg_of_pos (not_le.mp hp) cast_one_pos
  have hu : (0 : ℚ) ≤ u := Nat.cast_nonneg u
  linarith

theorem mul (hx : x.UpTo p) (hy : y.UpTo q) (hrange : p * q * (1 + roundoff) * one < limit) :
    (x * y).UpTo (p * q * (1 + roundoff)) := by
  have hp := hx.nonneg
  obtain ⟨u, hu, rfl, huone, hup⟩ := hx
  obtain ⟨v, hv, rfl, hvone, hvq⟩ := hy
  have hone := cast_one_pos
  have hexact : nearestUnits (one * one) one = one := by decide +kernel
  have hlow : one ≤ nearestUnits (u * v) one := by
    conv_lhs => rw [← hexact]
    exact nearestUnits_mono one_pos (Nat.mul_le_mul huone hvone)
  have hlarge : 2 ^ (significantBits - 1) ≤ u * v / one := by
    have hbits : 2 ^ (significantBits - 1) ≤ one := by decide +kernel
    refine hbits.trans ((Nat.le_div_iff_mul_le one_pos).mpr ?_)
    exact Nat.mul_le_mul huone hvone
  have hproduct : ((u * v : Nat) : ℚ) / one ≤ p * q * one := by
    rw [div_le_iff₀ hone, Nat.cast_mul]
    calc (u : ℚ) * v ≤ (p * one) * (q * one) :=
          mul_le_mul hup hvq (Nat.cast_nonneg v) (mul_nonneg hp hone.le)
      _ = p * q * one * one := by ring
  have hhigh : (nearestUnits (u * v) one : ℚ) ≤ p * q * (1 + roundoff) * one := by
    have hroundoff := roundoff_pos
    calc (nearestUnits (u * v) one : ℚ) ≤ (u * v : Nat) / one * (1 + roundoff) :=
          nearestUnits_le_mul one_pos hlarge
      _ ≤ p * q * one * (1 + roundoff) := by
          apply mul_le_mul_of_nonneg_right hproduct
          linarith
      _ = p * q * (1 + roundoff) * one := by ring
  have hlimit : nearestUnits (u * v) one < limit := Nat.cast_lt.mp (hhigh.trans_lt hrange)
  refine ⟨nearestUnits (u * v) one, representable_nearestUnits hlimit, ?_, hlow, hhigh⟩
  rw [mul_finite, bne_self_eq_false, nearest_of_lt false hlimit]

theorem mul_nearTen {a b : Nat} (hx : x.UpTo (nearTen ^ a)) (hy : y.UpTo (nearTen ^ b / (1 + roundoff)))
    (hbits : a + b ≤ lastPower) : (x * y).UpTo (nearTen ^ (a + b)) := by
  have hroundoff : 1 + roundoff ≠ 0 := by
    have := roundoff_pos
    positivity
  have heq : nearTen ^ a * (nearTen ^ b / (1 + roundoff)) * (1 + roundoff) = nearTen ^ (a + b) := by
    rw [pow_add]
    field_simp
  rw [← heq]
  apply hx.mul hy
  rw [heq]
  exact nearTen_pow_mul_one_lt hbits

theorem square_nearTen {b : Nat} (hx : x.UpTo (nearTen ^ b / (1 + roundoff))) (hbits : b + b ≤ lastPower) :
    (x * x).UpTo (nearTen ^ (b + b) / (1 + roundoff)) := by
  have hroundoff := roundoff_pos
  have hne : 1 + roundoff ≠ 0 := by positivity
  have heq : nearTen ^ b / (1 + roundoff) * (nearTen ^ b / (1 + roundoff)) * (1 + roundoff)
      = nearTen ^ (b + b) / (1 + roundoff) := by
    rw [pow_add]
    field_simp
  rw [← heq]
  apply hx.mul hx
  rw [heq]
  refine lt_of_le_of_lt ?_ (nearTen_pow_mul_one_lt hbits)
  apply mul_le_mul_of_nonneg_right _ cast_one_pos.le
  apply div_le_self (pow_nonneg (zero_le_one.trans one_le_nearTen) _)
  linarith

/-- The loop multiplies the result by the power as often as the exponent says. The power is short of a rounding,
so that one more product does not exceed the bound. -/
theorem powTenLoop {fuel exponent a b : Nat} {result power : Binary64} (hfuel : exponent ≤ fuel)
    (hresult : result.UpTo (nearTen ^ a))
    (hpower : exponent ≠ 0 → power.UpTo (nearTen ^ b / (1 + roundoff))) (hrange : a + exponent * b ≤ lastPower) :
    (powTenLoop fuel exponent result power).UpTo (nearTen ^ (a + exponent * b)) := by
  induction fuel generalizing exponent a b result power with
  | zero =>
      obtain rfl : exponent = 0 := by omega
      rwa [Nat.zero_mul, Nat.add_zero]
  | succ fuel ih =>
      rw [Binary64.powTenLoop]
      by_cases hzero : exponent = 0
      · subst hzero
        rwa [if_pos rfl, Nat.zero_mul, Nat.add_zero]
      rw [if_neg hzero]
      have hlast := hpower hzero
      have hsquare : exponent / 2 ≠ 0 → (power * power).UpTo (nearTen ^ (b + b) / (1 + roundoff)) := by
        intro hhalf
        have htwice : 2 * b ≤ exponent * b := Nat.mul_le_mul_right b (by omega)
        exact hlast.square_nearTen (by omega)
      by_cases hodd : exponent % 2 = 1
      · rw [if_pos hodd]
        have hsum : a + exponent * b = a + b + exponent / 2 * (b + b) := by
          conv_lhs => rw [← Nat.div_add_mod exponent 2, hodd]
          ring
        rw [hsum] at hrange ⊢
        exact ih (by omega) (hresult.mul_nearTen hlast (by omega)) hsquare hrange
      · rw [if_neg hodd]
        have hsum : a + exponent * b = a + exponent / 2 * (b + b) := by
          conv_lhs => rw [← Nat.div_add_mod exponent 2, show exponent % 2 = 0 by omega]
          ring
        rw [hsum] at hrange ⊢
        exact ih (by omega) hresult hsquare hrange

end UpTo

theorem upTo_ofNat {n : Nat} (hpos : 1 ≤ n) (hn : n ≤ 2 ^ significantBits) : (ofNat n).UpTo n := by
  obtain ⟨h, heq⟩ := isNat_ofNat hn
  refine ⟨n * one, h, heq, Nat.le_mul_of_pos_left one hpos, ?_⟩
  rw [Nat.cast_mul]

/-- A power of ten in the range is at least one and at most a tenth too large. -/
theorem upTo_powTen {exponent : Nat} (hexponent : exponent ≤ lastPower) :
    (powTen exponent).UpTo (11 / 10 * 10 ^ exponent) := by
  have hresult : (ofNat 1).UpTo (nearTen ^ 0) := by
    rw [pow_zero]
    exact_mod_cast upTo_ofNat (n := 1) le_rfl (by decide)
  have hpower : (ofNat 10).UpTo (nearTen ^ 1 / (1 + roundoff)) := by
    have hroundoff : 1 + roundoff ≠ 0 := by
      have := roundoff_pos
      positivity
    rw [pow_one, nearTen, mul_div_cancel_right₀ _ hroundoff]
    exact_mod_cast upTo_ofNat (n := 10) (by decide) (by decide)
  have hloop := UpTo.powTenLoop (le_refl exponent) hresult (fun _ => hpower)
    (by omega : 0 + exponent * 1 ≤ lastPower)
  rw [Nat.zero_add, Nat.mul_one] at hloop
  exact hloop.mono (nearTen_pow_le hexponent)

theorem le_of_le_powTen {exponent u : Nat} (hexponent : exponent < lastPower)
    (hu : (u : ℚ) ≤ 11 / 10 * 10 ^ exponent * one) : u ≤ 10 ^ lastPower * one := by
  have hnext : (11 : ℚ) / 10 * 10 ^ exponent ≤ 10 ^ lastPower := by
    have hmono : (10 : ℚ) ^ (exponent + 1) ≤ 10 ^ lastPower := pow_le_pow_right₀ (by norm_num) hexponent
    have hpos : (0 : ℚ) < 10 ^ exponent := by positivity
    rw [pow_succ] at hmono
    linarith
  have hbound := hu.trans (mul_le_mul_of_nonneg_right hnext cast_one_pos.le)
  apply (Nat.cast_le (α := ℚ)).mp
  rwa [Nat.cast_mul, Nat.cast_pow, Nat.cast_ofNat]

/-! ### Cutting -/

/-- The units of a finite number. -/
def units : Binary64 → Nat
  | .finite _ u _ => u
  | _ => 0

/-- What is left of a count of units that is divided by `scale`, rounded to a whole number and multiplied
again. -/
def cutUnits (scale u : Nat) : Nat :=
  let quotient := nearestUnits (u * one) scale
  let whole := nearestUnits ((2 * quotient + one) / (2 * one) * one) 1
  nearestUnits (whole * scale) one

theorem round_mono {u v : Nat} (h : u ≤ v) : (2 * u + one) / (2 * one) * one ≤ (2 * v + one) / (2 * one) * one := by
  apply Nat.mul_le_mul_right
  apply Nat.div_le_div_right
  omega

theorem cutUnits_mono {scale u v : Nat} (hscale : 0 < scale) (h : u ≤ v) : cutUnits scale u ≤ cutUnits scale v := by
  have hquotient : nearestUnits (u * one) scale ≤ nearestUnits (v * one) scale :=
    nearestUnits_mono hscale (Nat.mul_le_mul_right one h)
  have hwhole := nearestUnits_mono Nat.one_pos (round_mono hquotient)
  exact nearestUnits_mono one_pos (Nat.mul_le_mul_right scale hwhole)

/-- Division by a number from one on and rounding to a whole number stay in the range, so that only the product
can leave it. -/
theorem round_div_mul {s : Bool} {u scale : Nat} (hu : Representable u) (hscale : Representable scale)
    (hone : one ≤ scale) :
    ∃ num, (Binary64.finite s u hu / .finite false scale hscale).round * .finite false scale hscale
        = nearest s num one ∧ nearestUnits num one = cutUnits scale u := by
  have hpos := one_pos
  have hquotient : nearestUnits (u * one) scale ≤ u := by
    calc nearestUnits (u * one) scale ≤ nearestUnits u 1 := by
          apply nearestUnits_le_nearestUnits (Nat.lt_of_lt_of_le hpos hone) Nat.one_pos
          rw [Nat.mul_one]
          exact Nat.mul_le_mul_left u hone
      _ = u := nearestUnits_one_of_dvd hu.2
  have hlargest : nearestUnits ((2 * largest + one) / (2 * one) * one) 1 < limit := by decide +kernel
  have hwhole : nearestUnits ((2 * nearestUnits (u * one) scale + one) / (2 * one) * one) 1 < limit := by
    refine Nat.lt_of_le_of_lt ?_ hlargest
    apply nearestUnits_mono Nat.one_pos
    apply round_mono
    exact hquotient.trans (Significant.le_largest hu.2 hu.1)
  refine ⟨_, ?_, rfl⟩
  rw [div_finite _ _ _ _ (by omega), nearest_of_lt _ (Nat.lt_of_le_of_lt hquotient hu.1), round,
    nearest_of_lt _ hwhole, mul_finite, Bool.bne_false, Bool.bne_false]

theorem two_mul_round_le (u : Nat) : 2 * ((2 * u + one) / (2 * one) * one) ≤ 2 * u + one := by
  rw [Nat.mul_comm 2, Nat.mul_assoc, Nat.mul_comm one]
  exact Nat.div_mul_le_self _ _

theorem cut_lastPower_lt : 3 / 2 * (1 + roundoff) ^ 2 * (10 ^ lastPower * one) < largest := by
  have hnat : 3 * (2 ^ significantBits + 1) ^ 2 * (10 ^ lastPower * one) < 2 * (2 ^ significantBits) ^ 2 * largest := by
    decide +kernel
  have hcast := (Nat.cast_lt (α := ℚ)).mpr hnat
  simp only [Nat.cast_mul, Nat.cast_pow, Nat.cast_add, Nat.cast_one, Nat.cast_ofNat] at hcast
  have hpos : (0 : ℚ) < 2 * (2 ^ significantBits) ^ 2 := by positivity
  rw [one_add_roundoff, div_pow, div_mul_div_comm, div_mul_eq_mul_div, div_lt_iff₀ hpos, mul_comm (largest : ℚ)]
  exact hcast

theorem mul_scale_le {low scale unit quotient whole rounded : ℚ} (hscale : 0 < scale)
    (hdivided : quotient ≤ low / scale * unit * (1 + roundoff)) (hwhole : whole ≤ 3 / 2 * quotient)
    (hrounded : rounded ≤ whole * (1 + roundoff)) : rounded * scale ≤ 3 / 2 * (1 + roundoff) ^ 2 * low * unit := by
  have hfactor : 0 ≤ 1 + roundoff := by
    have := roundoff_pos
    linarith
  have hcarried : whole ≤ 3 / 2 * (low / scale * unit * (1 + roundoff)) := by linarith
  calc rounded * scale ≤ whole * (1 + roundoff) * scale := mul_le_mul_of_nonneg_right hrounded hscale.le
    _ ≤ 3 / 2 * (low / scale * unit * (1 + roundoff)) * (1 + roundoff) * scale :=
        mul_le_mul_of_nonneg_right (mul_le_mul_of_nonneg_right hcarried hfactor) hscale.le
    _ = 3 / 2 * (1 + roundoff) ^ 2 * low * unit := by
        field_simp

/-- Below the last power of ten the result stays in the range: with every rounding it is at most a half more. -/
theorem cutUnits_lt_limit {scale u : Nat} (hone : one ≤ scale) (hscale : scale ≤ 10 ^ lastPower * one)
    (hu : u ≤ 10 ^ lastPower * one) : cutUnits scale u < limit := by
  have hpos : 0 < scale := Nat.lt_of_lt_of_le one_pos hone
  have hpos' : (0 : ℚ) < scale := Nat.cast_pos.mpr hpos
  have hbits : 2 ^ (significantBits - 1) ≤ one := by decide +kernel
  refine Nat.lt_of_le_of_lt (cutUnits_mono hpos hu) ?_
  -- the quotient is at least one, so that its last bit lies above the unit
  have hlarge : 2 ^ (significantBits - 1) ≤ 10 ^ lastPower * one * one / scale := by
    apply hbits.trans
    rw [Nat.le_div_iff_mul_le hpos, Nat.mul_comm one]
    exact Nat.mul_le_mul_right one hscale
  have hquotient : one ≤ nearestUnits (10 ^ lastPower * one * one) scale := by
    have hunit : nearestUnits one 1 = one := by decide +kernel
    conv_lhs => rw [← hunit]
    apply nearestUnits_le_nearestUnits Nat.one_pos hpos
    rw [Nat.mul_one, Nat.mul_comm one]
    exact Nat.mul_le_mul_right one hscale
  have hround : one ≤ (2 * nearestUnits (10 ^ lastPower * one * one) scale + one) / (2 * one) * one := by
    apply Nat.le_mul_of_pos_left
    apply Nat.div_pos _ (Nat.mul_pos Nat.two_pos one_pos)
    omega
  have hdivided := nearestUnits_le_mul hpos hlarge
  have hrounded := nearestUnits_le_mul Nat.one_pos ((hbits.trans hround).trans_eq (Nat.div_one _).symm)
  have hhalf := two_mul_round_le (nearestUnits (10 ^ lastPower * one * one) scale)
  rw [cutUnits]
  generalize nearestUnits (10 ^ lastPower * one * one) scale = quotient at *
  generalize (2 * quotient + one) / (2 * one) * one = whole at *
  generalize nearestUnits whole 1 = rounded at *
  have hwhole : (whole : ℚ) ≤ 3 / 2 * quotient := by
    have hnat : 2 * whole ≤ 3 * quotient := by omega
    have hcast := (Nat.cast_le (α := ℚ)).mpr hnat
    rw [Nat.cast_mul, Nat.cast_mul, Nat.cast_ofNat, Nat.cast_ofNat] at hcast
    linarith
  rw [Nat.cast_mul, mul_div_right_comm] at hdivided
  rw [Nat.cast_one, div_one] at hrounded
  have hproduct := mul_scale_le hpos' hdivided hwhole hrounded
  apply (nearestTo_nearestUnits (rounded * scale) one_pos).lt_limit_iff.mpr
  rw [Nat.cast_mul, div_lt_iff₀ cast_one_pos]
  refine hproduct.trans_lt (mul_lt_mul_of_pos_right ?_ cast_one_pos)
  have hcut := cut_lastPower_lt
  have hpos := halfTop_pos
  rw [Nat.cast_mul, Nat.cast_pow, Nat.cast_ofNat]
  linarith

/-! ### The leading digit -/

theorem leadingExponent_lt_iff {u e : Nat} : leadingExponent u < e ↔ u < 10 ^ e * one := by
  have hlength : leadingExponent u < e ↔ (Nat.toDigits 10 (u * 10 ^ lastPlace / one)).length ≤ e + lastPlace := by
    rw [leadingExponent]
    omega
  have hpos : 0 < e + lastPlace := Nat.add_pos_right e (by decide)
  rw [hlength, Nat.length_toDigits_le_iff (by decide) hpos, Nat.div_lt_iff_lt_mul one_pos, Nat.pow_add,
    Nat.mul_right_comm]
  exact Nat.mul_lt_mul_right (Nat.pow_pos (by decide))

theorem leadingExponent_le_magnitude (u : Nat) : leadingExponent u ≤ magnitude u := by
  rw [magnitude]
  split <;> omega

theorem reachesPower_mono {u v : Nat} {power : Int} (huv : u ≤ v) (h : reachesPower u power = true) :
    reachesPower v power = true := by
  rw [reachesPower] at h ⊢
  split at h
  · exact absurd h (by decide)
  · next hpower =>
      rw [decide_eq_true_iff] at h
      rw [if_neg hpower, decide_eq_true_iff]
      refine le_trans ?_ h
      apply Nat.mul_le_mul_right
      apply Nat.mul_le_mul_right
      exact Nat.sub_le_sub_left (Nat.mul_le_mul_right _ huv) _

theorem magnitude_le {u : Nat} (hu : u < limit) : magnitude u ≤ lastPower := by
  have hlimit : limit ≤ 10 ^ (lastPower + 1) * one := by decide +kernel
  have hleading : leadingExponent u < (lastPower + 1 : Nat) :=
    leadingExponent_lt_iff.mpr (Nat.lt_of_lt_of_le hu hlimit)
  have hlast : reachesPower limit (lastPower + 1) = false := by decide +kernel
  have hreaches : ¬reachesPower u (lastPower + 1) = true := by
    intro h
    rw [reachesPower_mono (Nat.le_of_lt hu) h] at hlast
    exact absurd hlast (by decide)
  rw [magnitude]
  by_cases htop : leadingExponent u = lastPower
  · rw [htop, if_neg hreaches]
  · split <;> omega

theorem lt_of_magnitude_lt {u place : Nat} (h : magnitude u < place) : u < 10 ^ place * one :=
  leadingExponent_lt_iff.mp (lt_of_le_of_lt (leadingExponent_le_magnitude u) h)

/-! ### Next to the limit -/

/-- The significand from which on the numbers of the top size are carried over the limit when they are cut to so
many digits. For more than five digits there is none, and the first one that is too large stands here. -/
def carryFrom : Nat → Nat
  | 1 => 7515631350033652
  | 2 => 8768236575039260
  | 3 => 8993705515540271
  | 4 => 9006231567790326
  | 5 => 9006983130925329
  | _ => 2 ^ significantBits

/-- Cutting the number to so many digits gives a number that is too large. -/
def CarriesOver (digits u : Nat) : Prop :=
  carryFrom digits * 2 ^ topBits ≤ u

instance (digits u : Nat) : Decidable (CarriesOver digits u) :=
  inferInstanceAs (Decidable (carryFrom digits * 2 ^ topBits ≤ u))

/-- The significands of the table are the least ones. -/
theorem cutUnits_carryFrom : ∀ digits < 10, 0 < digits →
    cutUnits (powTen (lastPower + 1 - digits)).units ((carryFrom digits - 1) * 2 ^ topBits) < limit
      ∧ (carryFrom digits * 2 ^ topBits < limit →
        limit ≤ cutUnits (powTen (lastPower + 1 - digits)).units (carryFrom digits * 2 ^ topBits)) := by
  decide +kernel

theorem carryFrom_large : ∀ digits < 10,
    spareBits ((carryFrom digits - 1) * 2 ^ topBits) = topBits
      ∧ 10 ^ lastPower * one ≤ carryFrom digits * 2 ^ topBits := by
  decide +kernel

theorem le_of_not_carriesOver {digits u : Nat} (hdigits : digits < 10) (hu : Representable u)
    (h : ¬CarriesOver digits u) : u ≤ (carryFrom digits - 1) * 2 ^ topBits := by
  by_contra hlt
  have hlt := Nat.lt_of_not_le hlt
  have hstep : 2 ^ topBits ∣ u := by
    rw [← (carryFrom_large digits hdigits).1]
    exact Nat.dvd_trans (Nat.pow_dvd_pow 2 (spareBits_mono (Nat.le_of_lt hlt))) hu.2
  have hle := add_step_le_of_dvd (Nat.dvd_mul_left _ _) hstep hlt
  rw [← Nat.succ_mul] at hle
  apply h
  refine le_trans (Nat.mul_le_mul_right _ ?_) hle
  omega

theorem cutUnits_lt_limit_iff {digits u : Nat} (hdigits : 0 < digits ∧ digits < 10) (hu : Representable u)
    (hscale : 0 < (powTen (lastPower + 1 - digits)).units) :
    cutUnits (powTen (lastPower + 1 - digits)).units u < limit ↔ ¬CarriesOver digits u := by
  obtain ⟨hbelow, habove⟩ := cutUnits_carryFrom digits hdigits.2 hdigits.1
  constructor
  · intro hlt hcarries
    have hfrom := habove (Nat.lt_of_le_of_lt hcarries hu.1)
    exact absurd (hfrom.trans (cutUnits_mono hscale hcarries)) (Nat.not_le.mpr hlt)
  · intro hcarries
    exact Nat.lt_of_le_of_lt (cutUnits_mono hscale (le_of_not_carriesOver hdigits.2 hu hcarries)) hbelow

theorem not_carriesOver_of_lt {digits u : Nat} (hdigits : digits < 10) (hu : u < 10 ^ lastPower * one) :
    ¬CarriesOver digits u := by
  have hlarge := (carryFrom_large digits hdigits).2
  rw [CarriesOver]
  omega

theorem exists_significant_eq {digits u : Nat} (hdigits : 0 < digits ∧ digits < 10) (s : Bool)
    (h : Representable u) (hu : u ≠ 0) (hdecimals : (digits : Int) - 1 - magnitude u ≤ 0) :
    ∃ num, (Binary64.finite s u h).significant digits = (nearest s num one).fixed 0
      ∧ (nearestUnits num one < limit ↔ ¬CarriesOver digits u) := by
  have hmagnitude := magnitude_le h.1
  have hexponent : (-((digits : Int) - 1 - magnitude u)).toNat ≤ lastPower := by omega
  obtain ⟨scale, hscale, hpower, hone, hle⟩ := upTo_powTen hexponent
  obtain ⟨num, hcut, hnum⟩ := round_div_mul (s := s) h hscale hone
  refine ⟨num, ?_, ?_⟩
  · simp only [significant]
    rw [if_neg hu, if_neg (by omega), hpower, hcut]
  rw [hnum]
  by_cases htop : magnitude u = lastPower
  · have heq : (-((digits : Int) - 1 - magnitude u)).toNat = lastPower + 1 - digits := by omega
    have hunits : (powTen (lastPower + 1 - digits)).units = scale := by
      rw [← heq, hpower]
      rfl
    have hiff := cutUnits_lt_limit_iff hdigits h (hunits ▸ Nat.lt_of_lt_of_le one_pos hone)
    rwa [hunits] at hiff
  · have hbelow := lt_of_magnitude_lt (lt_of_le_of_ne hmagnitude htop)
    have hscaleLe : scale ≤ 10 ^ lastPower * one := le_of_le_powTen (by omega) hle
    exact iff_of_true (cutUnits_lt_limit hone hscaleLe (Nat.le_of_lt hbelow)) (not_carriesOver_of_lt hdigits.2 hbelow)

/-- Cutting to significant digits gives digits, unless the number carries over. -/
theorem significant_spec {digits u : Nat} (hdigits : 0 < digits ∧ digits < 10) (s : Bool)
    (h : Representable u) :
    (¬CarriesOver digits u → ((Binary64.finite s u h).significant digits).Digital)
      ∧ (CarriesOver digits u → (Binary64.finite s u h).significant digits = ⟨s, overflowDigits, []⟩) := by
  by_cases hzero : u = 0
  · subst hzero
    refine ⟨fun _ => ?_, fun hcarries => absurd hcarries ?_⟩
    · simp only [significant, if_pos]
      exact ⟨by simp [Digits], List.cons_ne_nil _ _, digits_nil⟩
    · exact not_carriesOver_of_lt hdigits.2 (Nat.mul_pos (Nat.pow_pos (by decide)) one_pos)
  by_cases hdecimals : (digits : Int) - 1 - magnitude u ≤ 0
  · obtain ⟨num, heq, hiff⟩ := exists_significant_eq hdigits s h hzero hdecimals
    rw [heq]
    constructor
    · intro hcarries
      rw [nearest_of_lt s (hiff.mpr hcarries)]
      exact (digital_fixed rfl 0).1
    · intro hcarries
      rw [nearest, dif_neg (fun hlt => hiff.mp hlt hcarries)]
      rfl
  · -- there are decimals to be written, so the number is far from the limit
    have hpower : 10 < lastPower := by decide
    refine ⟨fun _ => ?_, fun hcarries => absurd hcarries ?_⟩
    · simp only [significant]
      rw [if_neg hzero, if_pos (by omega)]
      exact (digital_fixed rfl _).1.trimFraction
    · exact not_carriesOver_of_lt hdigits.2 (lt_of_magnitude_lt (by omega))

end Binary64

end TypedTemplate
