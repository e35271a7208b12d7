import TypedTemplate.Proofs.Number.Grouping
/-!
# Significant digits of a text

The significant digits of a number in digits are counted from the first one that is no zero. How many there are,
and whether only zeros follow after the first few, is known from the number the digits say: the first by a power of
ten above it, the second by a power of ten that divides it.
-/

namespace TypedTemplate

/-- The digits from the first one on that is no zero. -/
def significantPart (digits : Text) : Text :=
  digits.dropWhile (· == '0')

variable {t : Text} {n : Nat}

theorem significantPart_zero_cons (t : Text) : significantPart ('0' :: t) = significantPart t :=
  List.dropWhile_cons_of_pos rfl

theorem significantPart_cons {c : Char} (hc : c ≠ '0') (t : Text) : significantPart (c :: t) = c :: t :=
  List.dropWhile_cons_of_neg (by rwa [beq_iff_eq])

theorem toNat_sub_eq_zero_iff {c : Char} (h : c.isDigit = true) : c.toNat - '0'.toNat = 0 ↔ c = '0' := by
  have hlow : 48 ≤ c.toNat := (Char.isDigit_iff_toNat.mp h).1
  have heq : c = '0' ↔ c.toNat = 48 := ⟨fun hc => by rw [hc]; rfl, fun hc => Char.toNat_inj.mp hc⟩
  rw [heq]
  show c.toNat - 48 = 0 ↔ c.toNat = 48
  omega

theorem ofDigitChars_cons_zero (c : Char) (t : Text) :
    Nat.ofDigitChars 10 (c :: t) 0 = 10 ^ t.length * (c.toNat - '0'.toNat) + Nat.ofDigitChars 10 t 0 := by
  rw [Nat.ofDigitChars_cons, Nat.mul_zero, Nat.zero_add, Nat.ofDigitChars_eq_ofDigitChars_zero]

theorem ofDigitChars_le_append (s t : Text) : Nat.ofDigitChars 10 s 0 ≤ Nat.ofDigitChars 10 (s ++ t) 0 := by
  have hpower : 0 < 10 ^ t.length := Nat.pow_pos (by decide)
  rw [Nat.ofDigitChars_append, Nat.ofDigitChars_eq_ofDigitChars_zero (l := t)]
  exact (Nat.le_mul_of_pos_left _ hpower).trans (Nat.le_add_right _ _)

theorem ofDigitChars_lt (h : Digits t) : Nat.ofDigitChars 10 t 0 < 10 ^ t.length := by
  induction t with
  | nil => exact Nat.one_pos
  | cons c t ih =>
      obtain ⟨hc, ht⟩ := h.of_cons
      have hrest := ih ht
      have hdigit : 10 ^ t.length * (c.toNat - '0'.toNat) ≤ 10 ^ t.length * 9 :=
        Nat.mul_le_mul_left _ (Nat.le_of_lt_succ (toNat_sub_lt_ten hc))
      rw [ofDigitChars_cons_zero, List.length_cons, Nat.pow_succ]
      omega

theorem ofDigitChars_eq_zero_iff (h : Digits t) : Nat.ofDigitChars 10 t 0 = 0 ↔ ∀ c ∈ t, c = '0' := by
  induction t with
  | nil => simp
  | cons c t ih =>
      obtain ⟨hc, ht⟩ := h.of_cons
      have hpower : 10 ^ t.length ≠ 0 := (Nat.pow_pos (by decide)).ne'
      rw [ofDigitChars_cons_zero, Nat.add_eq_zero_iff, Nat.mul_eq_zero, or_iff_right hpower,
        toNat_sub_eq_zero_iff hc, ih ht, List.forall_mem_cons]

/-! ### Counting the digits -/

theorem length_significantPart_le (h : Digits t) (hvalue : Nat.ofDigitChars 10 t 0 < 10 ^ n) :
    (significantPart t).length ≤ n := by
  induction t with
  | nil => exact Nat.zero_le n
  | cons c t ih =>
      obtain ⟨hc, ht⟩ := h.of_cons
      rw [ofDigitChars_cons_zero] at hvalue
      by_cases hzero : c = '0'
      · rw [hzero, significantPart_zero_cons]
        exact ih ht (Nat.lt_of_le_of_lt (Nat.le_add_left _ _) hvalue)
      · have hdigit : c.toNat - '0'.toNat ≠ 0 := fun heq => hzero ((toNat_sub_eq_zero_iff hc).mp heq)
        have hpower : 10 ^ t.length ≤ 10 ^ t.length * (c.toNat - '0'.toNat) :=
          Nat.le_mul_of_pos_right _ (Nat.pos_of_ne_zero hdigit)
        have hlength : t.length < n := (Nat.pow_lt_pow_iff_right (by decide : 1 < 10)).mp (by omega)
        rw [significantPart_cons hzero]
        exact hlength

theorem significantPart_toDigits (hn : 0 < n) : significantPart (Nat.toDigits 10 n) = Nat.toDigits 10 n := by
  obtain ⟨c, rest, heq⟩ := List.exists_cons_of_ne_nil (Nat.toDigits_ne_nil (b := 10) (n := n))
  by_cases hzero : c = '0'
  · -- with a zero in front, fewer digits would do
    subst hzero
    have hdigits := digits_toDigits n
    rw [heq] at hdigits
    have hlt := ofDigitChars_lt hdigits.of_cons.2
    have hvalue : Nat.ofDigitChars 10 ('0' :: rest) 0 = n := by rw [← heq, Nat.ofDigitChars_ten_toDigits]
    rw [ofDigitChars_cons_zero, Nat.sub_self, Nat.mul_zero, Nat.zero_add] at hvalue
    rw [hvalue] at hlt
    have hlength : 0 < rest.length := by
      by_contra hempty
      rw [Nat.eq_zero_of_not_pos hempty, Nat.pow_zero] at hlt
      omega
    have hle := (Nat.length_toDigits_le_iff (by decide) hlength).mpr hlt
    rw [heq, List.length_cons] at hle
    omega
  · rw [heq, significantPart_cons hzero]

/-! ### Zeros at the end -/

/-- Behind the first `n` digits there are only zeros when the power of ten of that place divides the number. -/
theorem drop_eq_zeros_iff (h : Digits t) (n : Nat) :
    (∀ c ∈ t.drop n, c = '0') ↔ 10 ^ (t.length - n) ∣ Nat.ofDigitChars 10 t 0 := by
  have hdrop : Digits (t.drop n) := fun c hc => h c (List.mem_of_mem_drop hc)
  have hvalue : Nat.ofDigitChars 10 t 0
      = 10 ^ (t.length - n) * Nat.ofDigitChars 10 (t.take n) 0 + Nat.ofDigitChars 10 (t.drop n) 0 := by
    conv_lhs => rw [← List.take_append_drop n t]
    rw [Nat.ofDigitChars_append, Nat.ofDigitChars_eq_ofDigitChars_zero, List.length_drop]
  have hlt := ofDigitChars_lt hdrop
  rw [List.length_drop] at hlt
  rw [hvalue, Nat.dvd_add_right (Nat.dvd_mul_right _ _), ← ofDigitChars_eq_zero_iff hdrop]
  exact ⟨fun hzero => by rw [hzero]; exact Nat.dvd_zero _, fun hdvd => Nat.eq_zero_of_dvd_of_lt hdvd hlt⟩

/-! ### Numbers close to one with zeros at the end -/

theorem eq_of_dvd_of_near {a b step : Nat} (ha : step ∣ a) (hb : step ∣ b) (hab : a < b + step) (hba : b < a + step) :
    a = b := by
  rcases Nat.lt_trichotomy a b with hlt | heq | hgt
  · have := Binary64.add_step_le_of_dvd ha hb hlt
    omega
  · exact heq
  · have := Binary64.add_step_le_of_dvd hb ha hgt
    omega

variable {kept leading exponent : Nat}

theorem pow_le_of_near (hlow : 10 ^ (n - 1) ≤ leading)
    (habove : leading * 10 ^ exponent < kept + 10 ^ (exponent - 1)) : 10 ^ (n - 1 + (exponent - 1)) ≤ kept := by
  have hfirst : 10 ^ (n - 1) * 10 ^ exponent ≤ leading * 10 ^ exponent := Nat.mul_le_mul_right _ hlow
  cases exponent with
  | zero =>
      rw [Nat.pow_zero, Nat.mul_one] at hfirst habove
      show 10 ^ (n - 1) ≤ kept
      omega
  | succ exponent =>
      rw [Nat.add_sub_cancel] at habove ⊢
      have hone : 10 ^ exponent ≤ 10 ^ (n - 1) * 10 ^ exponent := Nat.le_mul_of_pos_left _ (Nat.pow_pos (by decide))
      rw [Nat.pow_succ, ← Nat.mul_assoc, ← Nat.mul_assoc] at hfirst
      rw [Nat.pow_succ, ← Nat.mul_assoc] at habove
      rw [Nat.pow_add]
      omega

/-- The zeros behind at most `n` digits, where the digits may have been carried to the next power of ten. -/
theorem pow_dvd_of_eq (hn : 0 < n) (hhigh : leading ≤ 10 ^ n) (heq : kept = leading * 10 ^ exponent) :
    10 ^ ((Nat.toDigits 10 kept).length - n) ∣ kept := by
  rcases Nat.lt_or_eq_of_le hhigh with hlt | rfl
  · have hkept : kept < 10 ^ (n + exponent) := by
      rw [heq, Nat.pow_add]
      exact Nat.mul_lt_mul_of_pos_right hlt (Nat.pow_pos (by decide))
    have hlength := (Nat.length_toDigits_le_iff (by decide) (Nat.add_pos_left hn exponent)).mpr hkept
    rw [heq] at hlength ⊢
    exact (Nat.pow_dvd_pow 10 (by omega)).trans (Nat.dvd_mul_left _ _)
  · rw [← Nat.pow_add] at heq
    have hkept : kept < 10 ^ (n + exponent + 1) := by
      rw [heq]
      exact Nat.pow_lt_pow_right (by decide) (Nat.lt_succ_self _)
    have hlength := (Nat.length_toDigits_le_iff (by decide) (Nat.succ_pos _)).mpr hkept
    rw [heq] at hlength ⊢
    exact Nat.pow_dvd_pow 10 (by omega)

/-- A number that is less than a tenth of the last digit away from `n` digits with zeros behind them has only zeros
behind its first `n` digits when it is that number. A tenth, since just below a power of ten there is a digit
less. -/
theorem drop_toDigits_eq_zeros_iff (hn : 0 < n) (hlow : 10 ^ (n - 1) ≤ leading) (hhigh : leading ≤ 10 ^ n)
    (hbelow : kept < leading * 10 ^ exponent + 10 ^ (exponent - 1))
    (habove : leading * 10 ^ exponent < kept + 10 ^ (exponent - 1)) :
    (∀ c ∈ (significantPart (Nat.toDigits 10 kept)).drop n, c = '0') ↔ kept = leading * 10 ^ exponent := by
  have hkept := pow_le_of_near hlow habove
  rw [significantPart_toDigits (Nat.lt_of_lt_of_le (Nat.pow_pos (by decide)) hkept),
    drop_eq_zeros_iff (digits_toDigits kept), Nat.ofDigitChars_ten_toDigits]
  constructor
  · intro hdvd
    have hplaces : exponent - 1 ≤ (Nat.toDigits 10 kept).length - n := by
      have hlength : kept < 10 ^ (Nat.toDigits 10 kept).length :=
        (Nat.length_toDigits_le_iff (by decide) Nat.length_toDigits_pos).mp le_rfl
      have := (Nat.pow_lt_pow_iff_right (by decide : 1 < 10)).mp (hkept.trans_lt hlength)
      omega
    apply eq_of_dvd_of_near ((Nat.pow_dvd_pow 10 hplaces).trans hdvd) _ hbelow habove
    exact (Nat.pow_dvd_pow 10 (Nat.sub_le _ _)).trans (Nat.dvd_mul_left _ _)
  · exact pow_dvd_of_eq hn hhigh

end TypedTemplate
