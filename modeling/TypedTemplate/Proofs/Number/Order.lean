import Mathlib.Order.WithBot
import TypedTemplate.Proofs.Number.Rounding
/-!
# The order of numbers

Comparing two numbers is comparing their values: rational numbers for the finite ones, whatever the sign of a
zero, and the two ends of the extended line for the infinite ones. What is no number has no value and
compares with nothing.
-/

namespace TypedTemplate

namespace Binary64

/-- The value in the extended line; what is no number has none. -/
def extended? : Binary64 → Option (WithBot (WithTop ℚ))
  | .nan => none
  | .infinite negative => some (if negative then ⊥ else ⊤)
  | .finite negative units _ => some ((value negative units : ℚ) : WithTop ℚ)

theorem value_eq_signed (s : Bool) (u : Nat) : value s u = (signed s u : ℚ) / one := by
  cases s with
  | false =>
      show (u : ℚ) / one = ((u : ℤ) : ℚ) / one
      rw [Int.cast_natCast]
  | true =>
      show -((u : ℚ) / one) = ((-u : ℤ) : ℚ) / one
      rw [Int.cast_neg, Int.cast_natCast, neg_div]

theorem value_lt_value_iff {s t : Bool} {u v : Nat} : value s u < value t v ↔ signed s u < signed t v := by
  rw [value_eq_signed, value_eq_signed, div_lt_div_iff_of_pos_right cast_one_pos, Int.cast_lt]

theorem value_le_value_iff {s t : Bool} {u v : Nat} : value s u ≤ value t v ↔ signed s u ≤ signed t v := by
  rw [value_eq_signed, value_eq_signed, div_le_div_iff_of_pos_right cast_one_pos, Int.cast_le]

theorem lt_iff {x y : Binary64} :
    x.lt y = true ↔ ∃ a b, x.extended? = some a ∧ y.extended? = some b ∧ a < b := by
  cases x with
  | nan => simp [lt, extended?]
  | infinite s =>
      cases y with
      | nan => simp [lt, extended?]
      | infinite t => cases s <;> cases t <;> simp [lt, extended?]
      | finite t v _ => cases s <;> simp [lt, extended?]
  | finite s u _ =>
      cases y with
      | nan => simp [lt, extended?]
      | infinite t =>
          have htop : ((value s u : ℚ) : WithTop ℚ) < (⊤ : WithBot (WithTop ℚ)) :=
            WithBot.coe_lt_coe.mpr (WithTop.coe_lt_top _)
          cases t <;> simp [lt, extended?, htop]
      | finite t v _ => simp [lt, extended?, value_lt_value_iff]

theorem le_iff {x y : Binary64} :
    x.le y = true ↔ ∃ a b, x.extended? = some a ∧ y.extended? = some b ∧ a ≤ b := by
  cases x with
  | nan => simp [le, extended?]
  | infinite s =>
      cases y with
      | nan => simp [le, extended?]
      | infinite t => cases s <;> cases t <;> simp [le, extended?]
      | finite t v _ => cases s <;> simp [le, extended?]
  | finite s u _ =>
      cases y with
      | nan => simp [le, extended?]
      | infinite t => cases t <;> simp [le, extended?]
      | finite t v _ => simp [le, extended?, value_le_value_iff]

end Binary64

end TypedTemplate
