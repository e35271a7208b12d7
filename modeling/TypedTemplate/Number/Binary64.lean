/-!
# Double precision numbers

A real number of the templates is a binary floating-point number of 64 bits. Every finite one is a whole
number of units of `2⁻¹⁰⁷⁴`, so this module stores the count of units itself: comparison is comparison of
integers, and every operation is the exact result, a ratio of two naturals, rounded once by
`nearestUnits`. What can be stored is fixed by `Representable`: at most 53 significant bits, below
`2¹⁰²⁴`.
-/

namespace TypedTemplate

/-- Powers of natural numbers are those of the core library, whatever else a module imports. -/
scoped instance (priority := 2000) corePow : Pow Nat Nat := instPowNat

/-- The quotient rounded to the nearest natural number, a tie to the even one. -/
def roundDiv (num den : Nat) : Nat :=
  let q := num / den
  let r := num % den
  if 2 * r < den then q
  else if 2 * r = den ∧ q % 2 = 0 then q
  else q + 1

theorem roundDiv_le (num den : Nat) : roundDiv num den ≤ num / den + 1 := by
  simp only [roundDiv]
  split
  · omega
  · split <;> omega

theorem roundDiv_of_dvd {num den : Nat} (hden : 0 < den) (h : den ∣ num) :
    roundDiv num den = num / den := by
  have hmod : num % den = 0 := Nat.mod_eq_zero_of_dvd h
  simp only [roundDiv, hmod]
  rw [if_pos (by omega)]

namespace Binary64

/-- How many bits of a count of units lie behind the binary point. -/
def unitBits : Nat := 1074

/-- How many bits may lie before the binary point. -/
def rangeBits : Nat := 1024

/-- How many significant bits a number has. -/
def significantBits : Nat := 53

/-- The value `1`, in units. -/
def one : Nat := 2 ^ unitBits

/-- The first count of units that is too large. -/
def limit : Nat := 2 ^ (rangeBits + unitBits)

/-- How many low bits a count of units of this size cannot carry. -/
def spareBits (units : Nat) : Nat :=
  units.log2 + 1 - significantBits

/-- A count of units has at most 53 significant bits and lies below `2¹⁰²⁴`. -/
def Representable (units : Nat) : Prop :=
  units < limit ∧ 2 ^ spareBits units ∣ units

instance (units : Nat) : Decidable (Representable units) := by
  unfold Representable
  infer_instance

/-- The representable count nearest to `num / den`, a tie to the even significand; the size is not
bounded yet. -/
def nearestUnits (num den : Nat) : Nat :=
  let shift := spareBits (num / den)
  roundDiv num (den * 2 ^ shift) * 2 ^ shift

theorem lt_two_pow_of_spareBits (n : Nat) : n < 2 ^ (significantBits + spareBits n) := by
  refine Nat.lt_of_lt_of_le Nat.lt_log2_self (Nat.pow_le_pow_right (by decide) ?_)
  simp only [spareBits]
  omega

theorem roundDiv_le_two_pow (num den : Nat) :
    roundDiv num (den * 2 ^ spareBits (num / den)) ≤ 2 ^ significantBits := by
  have hlt := lt_two_pow_of_spareBits (num / den)
  have hq : num / (den * 2 ^ spareBits (num / den)) < 2 ^ significantBits := by
    rw [← Nat.div_div_eq_div_mul]
    refine Nat.div_lt_of_lt_mul ?_
    rwa [← Nat.pow_add, Nat.add_comm]
  have := roundDiv_le num (den * 2 ^ spareBits (num / den))
  omega

/-- A significand of at most 53 bits, or the next power of two, needs no bit below its shift. -/
theorem spareBits_dvd_of_le {significand shift : Nat} (h : significand ≤ 2 ^ significantBits) :
    2 ^ spareBits (significand * 2 ^ shift) ∣ significand * 2 ^ shift := by
  by_cases hz : significand = 0
  · simp [hz]
  have hne : significand * 2 ^ shift ≠ 0 :=
    Nat.mul_ne_zero hz (Nat.ne_of_gt (Nat.two_pow_pos shift))
  by_cases hlt : significand < 2 ^ significantBits
  · have hlog : (significand * 2 ^ shift).log2 < significantBits + shift := by
      refine (Nat.log2_lt hne).2 ?_
      rw [Nat.pow_add]
      exact Nat.mul_lt_mul_of_pos_right hlt (Nat.two_pow_pos shift)
    refine Nat.dvd_trans (Nat.pow_dvd_pow 2 ?_) (Nat.dvd_mul_left _ _)
    rw [spareBits]
    omega
  · have heq : significand = 2 ^ significantBits := by omega
    subst heq
    rw [← Nat.pow_add]
    refine Nat.pow_dvd_pow 2 ?_
    have : 0 < significantBits := by decide
    rw [spareBits, Nat.log2_two_pow]
    omega

theorem representable_nearestUnits {num den : Nat} (h : nearestUnits num den < limit) :
    Representable (nearestUnits num den) :=
  ⟨h, spareBits_dvd_of_le (roundDiv_le_two_pow num den)⟩

end Binary64

/-- A 64-bit floating-point number: a finite one is a sign and a count of units of `2⁻¹⁰⁷⁴`. -/
inductive Binary64 where
  | nan
  | infinite (negative : Bool)
  | finite (negative : Bool) (units : Nat) (representable : Binary64.Representable units)
deriving DecidableEq

namespace Binary64

theorem limit_pos : 0 < limit := by
  rw [limit]
  exact Nat.two_pow_pos _

theorem representable_zero : Representable 0 :=
  ⟨limit_pos, Nat.dvd_zero _⟩

/-- Zero, with a sign. -/
def zero (negative : Bool) : Binary64 :=
  .finite negative 0 representable_zero

instance : Inhabited Binary64 := ⟨zero false⟩

/-- The number nearest to `num / den` units, infinite when that is too large. -/
def nearest (negative : Bool) (num den : Nat) : Binary64 :=
  if h : nearestUnits num den < limit then
    .finite negative (nearestUnits num den) (representable_nearestUnits h)
  else .infinite negative

/-- The number nearest to an integer. -/
def ofInt (n : Int) : Binary64 :=
  nearest (n < 0) (n.natAbs * one) 1

/-- The number nearest to a natural number. -/
def ofNat (n : Nat) : Binary64 :=
  nearest false (n * one) 1

/-- Whether the number is neither infinite nor `nan`. -/
def isFinite : Binary64 → Bool
  | .finite .. => true
  | _ => false

/-- The value of a finite number as a signed count of units. -/
def signed (negative : Bool) (units : Nat) : Int :=
  if negative then -units else units

/-- Strict order; `nan` is below and above nothing. -/
def lt : Binary64 → Binary64 → Bool
  | .nan, _ => false
  | _, .nan => false
  | .infinite s, .infinite t => s && !t
  | .infinite s, .finite .. => s
  | .finite .., .infinite t => !t
  | .finite s u _, .finite t v _ => signed s u < signed t v

/-- Order; the two zeros are equal, and `nan` compares with nothing. -/
def le : Binary64 → Binary64 → Bool
  | .nan, _ => false
  | _, .nan => false
  | .infinite s, .infinite t => s || !t
  | .infinite s, .finite .. => s
  | .finite .., .infinite t => !t
  | .finite s u _, .finite t v _ => signed s u ≤ signed t v

/-- The product, rounded once. -/
def mul : Binary64 → Binary64 → Binary64
  | .nan, _ => .nan
  | _, .nan => .nan
  | .infinite s, .infinite t => .infinite (s != t)
  | .infinite s, .finite t v _ => if v = 0 then .nan else .infinite (s != t)
  | .finite s u _, .infinite t => if u = 0 then .nan else .infinite (s != t)
  | .finite s u _, .finite t v _ => nearest (s != t) (u * v) one

/-- The quotient, rounded once. -/
def div : Binary64 → Binary64 → Binary64
  | .nan, _ => .nan
  | _, .nan => .nan
  | .infinite _, .infinite _ => .nan
  | .infinite s, .finite t _ _ => .infinite (s != t)
  | .finite s _ _, .infinite t => zero (s != t)
  | .finite s u _, .finite t v _ =>
    if v = 0 then (if u = 0 then .nan else .infinite (s != t))
    else nearest (s != t) (u * one) v

instance : Mul Binary64 := ⟨mul⟩
instance : Div Binary64 := ⟨div⟩

/-- The nearest whole number, a half going away from zero. -/
def round : Binary64 → Binary64
  | .finite s u _ => nearest s ((2 * u + one) / (2 * one) * one) 1
  | x => x

/-- The square-and-multiply loop of `powTen`; `fuel` bounds the bits of the exponent. -/
def powTenLoop : (fuel exponent : Nat) → (result power : Binary64) → Binary64
  | 0, _, result, _ => result
  | fuel + 1, exponent, result, power =>
    if exponent = 0 then result
    else powTenLoop fuel (exponent / 2)
      (if exponent % 2 = 1 then result * power else result) (power * power)

/-- A power of ten by repeated squaring, each product rounded: from `10²³` on the last bits may differ
from the power rounded once. -/
def powTen (exponent : Nat) : Binary64 :=
  powTenLoop exponent exponent (ofNat 1) (ofNat 10)

end Binary64

end TypedTemplate
