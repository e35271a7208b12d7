import TypedTemplate.Number.Binary64
/-!
# Natural numbers in double precision

A number is stored as a count of units and rounded once, when the count has more significant bits than a
number can carry. Up to `2⁵³` a natural number has no such bits, so it is stored as it is. Counters that
become numbers stay far below that.
-/

namespace TypedTemplate

namespace Binary64

/-- The number is `n`, not one that `n` was rounded to. -/
def IsNat (x : Binary64) (n : Nat) : Prop :=
  ∃ h : Representable (n * one), x = .finite false (n * one) h

variable {n : Nat}

theorem one_pos : 0 < one := by
  rw [one]
  exact Nat.two_pow_pos _

theorem IsNat.unique {x y : Binary64} (hx : x.IsNat n) (hy : y.IsNat n) : x = y := by
  obtain ⟨_, rfl⟩ := hx
  obtain ⟨_, rfl⟩ := hy
  rfl

theorem nearestUnits_one_of_dvd {units : Nat} (h : 2 ^ spareBits units ∣ units) :
    nearestUnits units 1 = units := by
  simp only [nearestUnits, Nat.div_one, Nat.one_mul]
  rw [roundDiv_of_dvd (Nat.two_pow_pos _) h, Nat.div_mul_cancel h]

theorem nearest_of_lt (negative : Bool) {num den : Nat} (h : nearestUnits num den < limit) :
    nearest negative num den = .finite negative (nearestUnits num den) (representable_nearestUnits h) :=
  dif_pos h

theorem nearest_of_representable (negative : Bool) {units : Nat} (h : Representable units) :
    nearest negative units 1 = .finite negative units h := by
  have hunits := nearestUnits_one_of_dvd h.2
  have hlimit : nearestUnits units 1 < limit := by
    rw [hunits]
    exact h.1
  rw [nearest_of_lt negative hlimit]
  simp only [hunits]

theorem mul_two_pow_lt {a : Nat} (h : n < 2 ^ a) (b : Nat) : n * 2 ^ b < 2 ^ (a + b) := by
  rw [Nat.pow_add]
  exact Nat.mul_lt_mul_of_pos_right h (Nat.two_pow_pos b)

theorem representable_mul_one (h : n ≤ 2 ^ significantBits) : Representable (n * one) := by
  have hlt : n < 2 ^ rangeBits := Nat.lt_of_le_of_lt h (Nat.pow_lt_pow_right (by decide) (by decide))
  exact ⟨mul_two_pow_lt hlt unitBits, spareBits_dvd_of_le h⟩

/-- Up to `2⁵³` nothing is rounded. -/
theorem isNat_ofNat (h : n ≤ 2 ^ significantBits) : (ofNat n).IsNat n :=
  ⟨representable_mul_one h, nearest_of_representable false (representable_mul_one h)⟩

end Binary64

end TypedTemplate
