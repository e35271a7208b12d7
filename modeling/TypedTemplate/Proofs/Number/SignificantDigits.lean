import TypedTemplate.Proofs.Number.CutError
import TypedTemplate.Proofs.Number.SignificantPart
/-!
# Numbers with significant digits

The general style with a count of digits shows no more of them than were asked for, and no zero at the end of the
decimals. Decimals are cut by rounding the number, so there the digits are right. Digits before the decimals are cut
by way of a 64-bit product, and what is printed is that product with all its digits: behind the first ones there
are zeros only where the rounded number is one of 64 bits itself (`CutsExactly`). That is so below `10¹⁸`, and never
where more than 22 zeros are wanted.
-/

namespace TypedTemplate

/-- The digits of a number that was cut: the decimals are counted and end in no zero, and whether there are zeros
behind the digits that count depends on the number. -/
structure Numeral.CutTo (n : Numeral) (digits : Nat) (exact : Prop) : Prop where
  digital : n.Digital
  getLast_fraction : n.fraction.getLast? ≠ some '0'
  length_le : n.fraction ≠ [] → (significantPart (n.whole ++ n.fraction)).length ≤ digits
  zeros_iff : (∀ c ∈ (significantPart n.whole).drop digits, c = '0') ↔ exact

theorem Numeral.getLast_trimFraction (n : Numeral) : n.trimFraction.fraction.getLast? ≠ some '0' := by
  intro h
  rw [trimFraction, List.getLast?_reverse] at h
  have hhead := List.head?_dropWhile_not (· == '0') n.fraction.reverse
  rw [h] at hhead
  exact absurd hhead (by decide)

namespace Binary64

variable {digits places u : Nat}

/-! ### Decimals -/

/-- The number with its decimals as a whole number, before it is rounded. -/
theorem mul_pow_lt_of_leadingExponent_lt (h : leadingExponent u < (digits : Int) - places) :
    u * 10 ^ places < 10 ^ digits * one := by
  have hlength : 0 < (Nat.toDigits 10 (u * 10 ^ lastPlace / one)).length := Nat.length_toDigits_pos
  rw [leadingExponent] at h
  have hplaces : digits + lastPlace - places + places = digits + lastPlace := by omega
  have hcount : (Nat.toDigits 10 (u * 10 ^ lastPlace / one)).length ≤ digits + lastPlace - places := by omega
  have hlt := (Nat.length_toDigits_le_iff (by decide) (hlength.trans_le hcount)).mp hcount
  rw [Nat.div_lt_iff_lt_mul one_pos] at hlt
  apply Nat.lt_of_mul_lt_mul_right (a := 10 ^ lastPlace)
  calc u * 10 ^ places * 10 ^ lastPlace = u * 10 ^ lastPlace * 10 ^ places := Nat.mul_right_comm _ _ _
    _ < 10 ^ (digits + lastPlace - places) * one * 10 ^ places :=
        Nat.mul_lt_mul_of_pos_right hlt (Nat.pow_pos (by decide))
    _ = 10 ^ (digits + lastPlace - places + places) * one := by rw [Nat.pow_add]; ring
    _ = 10 ^ digits * one * 10 ^ lastPlace := by rw [hplaces, Nat.pow_add]; ring

theorem ofDigitChars_fixed (s : Bool) (h : Representable u) (places : Nat) :
    Nat.ofDigitChars 10 (((Binary64.finite s u h).fixed places).whole ++ ((Binary64.finite s u h).fixed places).fraction) 0
      = roundDiv (u * 10 ^ places) one := by
  rw [fixed, Nat.ofDigitChars_append, Nat.ofDigitChars_ten_toDigits, ofDigitChars_fixedDigits, Nat.mod_mod]
  exact Nat.div_add_mod' _ _

theorem getLast_fixedDigits_of_dvd {n : Nat} (hplaces : 0 < places) (h : 10 ∣ n) :
    (fixedDigits places n).getLast? = some '0' := by
  obtain ⟨places, rfl⟩ := Nat.exists_eq_add_one_of_ne_zero hplaces.ne'
  rw [fixedDigits, List.getLast?_concat, Nat.mod_eq_zero_of_dvd h]
  rfl

/-- Without the zeros at the end of its decimals, a number has no more digits than are wanted, also where it was
rounded up to a power of ten. -/
theorem ofDigitChars_trimFraction_lt (s : Bool) (h : Representable u) (hdigits : 0 < digits) (hplaces : 0 < places)
    (hu : u * 10 ^ places < 10 ^ digits * one) :
    Nat.ofDigitChars 10 (((Binary64.finite s u h).fixed places).trimFraction.whole
      ++ ((Binary64.finite s u h).fixed places).trimFraction.fraction) 0 < 10 ^ digits := by
  have hscaled : roundDiv (u * 10 ^ places) one ≤ 10 ^ digits :=
    (roundDiv_le _ _).trans (Nat.succ_le_of_lt ((Nat.div_lt_iff_lt_mul one_pos).mpr hu))
  have hvalue := ofDigitChars_fixed s h places
  have hlast := ((Binary64.finite s u h).fixed places).getLast_trimFraction
  obtain ⟨zeros, hfraction⟩ := ((Binary64.finite s u h).fixed places).exists_trimFraction_eq
  by_cases hzeros : zeros = 0
  · rw [hzeros, List.replicate_zero, List.append_nil] at hfraction
    rw [← hfraction] at hlast ⊢
    have hpower : roundDiv (u * 10 ^ places) one ≠ 10 ^ digits := by
      intro heq
      apply hlast
      apply getLast_fixedDigits_of_dvd hplaces
      rw [heq]
      exact (Nat.dvd_mod_iff (dvd_pow_self 10 hplaces.ne')).mpr (dvd_pow_self 10 hdigits.ne')
    exact hvalue.trans_lt (Nat.lt_of_le_of_ne hscaled hpower)
  · rw [hfraction, ← List.append_assoc, Nat.ofDigitChars_append, Nat.ofDigitChars_replicate_zero] at hvalue
    have hten : 10 ≤ 10 ^ zeros := Nat.le_self_pow hzeros 10
    have hpos : 0 < 10 ^ digits := Nat.pow_pos (by decide)
    show Nat.ofDigitChars 10 (((Binary64.finite s u h).fixed places).whole ++ _) 0 < _
    generalize Nat.ofDigitChars 10 (((Binary64.finite s u h).fixed places).whole ++ _) 0 = value at hvalue ⊢
    have hmul : 10 * value ≤ 10 ^ zeros * value := Nat.mul_le_mul_right value hten
    omega

theorem cutsExactly_of_magnitude_lt (hdigits : 0 < digits ∧ digits < 10) (hu : u < limit)
    (hdecimals : magnitude u < (digits : Int) - 1) : CutsExactly digits u := by
  have hexponent : cutExponent digits u = 0 := by
    rw [cutExponent]
    omega
  have hleading := leadingDigits_cutExponent_le hdigits hu
  have hpower : 10 ^ digits ≤ 10 ^ 9 := Nat.pow_le_pow_right (by decide) (by omega)
  apply representable_of_le (cutExponent_le hdigits.1 hu)
  rw [hexponent] at hleading ⊢
  rw [Nat.pow_zero, Nat.mul_one]
  exact (hleading.trans hpower).trans (by decide)

theorem cutTo_decimals (hdigits : 0 < digits ∧ digits < 10) (s : Bool) (h : Representable u)
    (hdecimals : magnitude u < (digits : Int) - 1) :
    (((Binary64.finite s u h).fixed ((digits : Int) - 1 - magnitude u).toNat).trimFraction).CutTo digits
      (CutsExactly digits u) := by
  have hdigital := (digital_fixed (x := .finite s u h) rfl ((digits : Int) - 1 - magnitude u).toNat).1.trimFraction
  have hlast := ((Binary64.finite s u h).fixed ((digits : Int) - 1 - magnitude u).toNat).getLast_trimFraction
  have hleading := leadingExponent_le_magnitude u
  have hvalue := ofDigitChars_trimFraction_lt s h hdigits.1
    (by omega : 0 < ((digits : Int) - 1 - magnitude u).toNat) (mul_pow_lt_of_leadingExponent_lt (by omega))
  generalize ((Binary64.finite s u h).fixed ((digits : Int) - 1 - magnitude u).toNat).trimFraction = n at *
  refine ⟨hdigital, hlast, fun _ => ?_, iff_of_true ?_ (cutsExactly_of_magnitude_lt hdigits h.1 hdecimals)⟩
  · exact length_significantPart_le (digits_append hdigital.whole hdigital.fraction) hvalue
  · have hwhole := length_significantPart_le hdigital.whole ((ofDigitChars_le_append _ _).trans_lt hvalue)
    rw [List.drop_eq_nil_of_le hwhole]
    exact fun _ hc => absurd hc List.not_mem_nil

/-! ### Whole numbers -/

theorem fixed_zero_mul_one (s : Bool) {n : Nat} (h : Representable (n * one)) :
    (Binary64.finite s (n * one) h).fixed 0 = ⟨s, Nat.toDigits 10 n, []⟩ := by
  have hround : roundDiv (n * one) one = n := by
    rw [roundDiv_of_dvd one_pos (Nat.dvd_mul_left one n), Nat.mul_div_cancel _ one_pos]
  rw [fixed, Nat.pow_zero, Nat.mul_one, hround, Nat.div_one]
  rfl

theorem significant_eq_keptWhole (hdigits : 0 < digits ∧ digits < 10) (s : Bool) (h : Representable u) (hu : u ≠ 0)
    (hwhole : (digits : Int) - 1 ≤ magnitude u) (hcarries : ¬CarriesOver digits u) :
    keptWhole (cutExponent digits u) u * one < limit
      ∧ (Binary64.finite s u h).significant digits = ⟨s, Nat.toDigits 10 (keptWhole (cutExponent digits u) u), []⟩ := by
  have hdivisor : (-((digits : Int) - 1 - magnitude u)).toNat = cutExponent digits u := by
    rw [cutExponent]
    omega
  have hexponent := cutExponent_le hdigits.1 h.1
  have hfew : leadingDigits (cutExponent digits u) u ≤ 2 ^ significantBits :=
    (leadingDigits_cutExponent_le hdigits h.1).trans
      ((Nat.pow_le_pow_right (by decide) (by omega : digits ≤ 9)).trans (by decide))
  have hcut := cutUnits_eq hexponent hfew
  obtain ⟨scale, hscale, hpower, hone, _⟩ := upTo_powTen hexponent
  obtain ⟨num, hproduct, hnum⟩ := round_div_mul (s := s) h hscale hone
  have heq : (Binary64.finite s u h).significant digits = (nearest s num one).fixed 0 := by
    simp only [significant]
    rw [if_neg hu, if_neg (by omega), hdivisor, hpower, hproduct]
  rw [hpower, units, ← hnum] at hcut
  -- the digits of an infinity are none
  have hrange : nearestUnits num one < limit := by
    by_contra hlarge
    have hdigital := (significant_spec hdigits s h).1 hcarries
    rw [heq, nearest, dif_neg hlarge] at hdigital
    exact absurd (hdigital.whole 'i' List.mem_cons_self) (by decide)
  rw [heq, nearest_of_lt s hrange]
  simp only [hcut] at hrange ⊢
  exact ⟨hrange, fixed_zero_mul_one s _⟩

theorem cutTo_whole (hdigits : 0 < digits ∧ digits < 10) (s : Bool) (hu : u < limit)
    (hwhole : (digits : Int) - 1 ≤ magnitude u) (hrange : keptWhole (cutExponent digits u) u * one < limit) :
    (⟨s, Nat.toDigits 10 (keptWhole (cutExponent digits u) u), []⟩ : Numeral).CutTo digits (CutsExactly digits u) := by
  have hlow := le_leadingDigits_cutExponent hdigits hu hwhole
  have hhigh := leadingDigits_cutExponent_le hdigits hu
  obtain ⟨hbelow, habove⟩ := keptWhole_near (cutExponent_le hdigits.1 hu)
    (hhigh.trans (Nat.pow_le_pow_right (by decide) (by omega : digits ≤ 9)))
  refine ⟨⟨digits_toDigits _, Nat.toDigits_ne_nil, digits_nil⟩, by simp, fun hne => absurd rfl hne, ?_⟩
  rw [cutsExactly_iff hdigits hu hwhole hrange]
  exact drop_toDigits_eq_zeros_iff hdigits.1 hlow hhigh hbelow habove

/-- What is written for a number that does not carry over the limit. -/
theorem cutTo_significant (hdigits : 0 < digits ∧ digits < 10) (s : Bool) (h : Representable u) (hu : u ≠ 0)
    (hcarries : ¬CarriesOver digits u) :
    ((Binary64.finite s u h).significant digits).negative = s
      ∧ ((Binary64.finite s u h).significant digits).CutTo digits (CutsExactly digits u) := by
  by_cases hdecimals : magnitude u < (digits : Int) - 1
  · simp only [significant]
    rw [if_neg hu, if_pos (by omega)]
    exact ⟨rfl, cutTo_decimals hdigits s h hdecimals⟩
  · obtain ⟨hrange, heq⟩ := significant_eq_keptWhole hdigits s h hu (not_lt.mp hdecimals) hcarries
    rw [heq]
    exact ⟨rfl, cutTo_whole hdigits s h.1 (not_lt.mp hdecimals) hrange⟩

end Binary64

/-! ### Printing -/

/-- What is printed with a count of digits for a number that is not zero. There are no more decimals than the count
allows and none of them is a zero at the end; behind the digits that count there are only zeros just where the number
is cut exactly. -/
structure ShowsDigits (digits : Nat) (separators : Separators) (s : Bool) (u : Nat) (t : Text) : Prop where
  overflowed : Binary64.CarriesOver digits u → t = (if s then ['-'] else []) ++ Binary64.overflowDigits
  printed : ¬Binary64.CarriesOver digits u → ∃ n : Numeral, n.CutTo digits (Binary64.CutsExactly digits u)
    ∧ t = (if s then ['-'] else [])
      ++ (n.whole ++ if n.fraction = [] then [] else separators.decimal ++ n.fraction)
  exact_of_lt : u < 10 ^ Binary64.exactPlaces * Binary64.one →
    ¬Binary64.CarriesOver digits u ∧ Binary64.CutsExactly digits u
  not_exact_of_le : 10 ^ (Binary64.lastExact + digits) * Binary64.one ≤ u → ¬Binary64.CutsExactly digits u

theorem formatReal_significant {letter : Char} (hletter : NumberFormat.styleOf letter = .general) {digits : Nat}
    (hdigits : 0 < digits ∧ digits < 10) (separators : Separators) {x : Binary64} (hx : x.isFinite = true) :
    formatReal x [letter, Nat.digitChar digits] separators = (x.significant digits).write [] separators.decimal := by
  have hdigit : ∀ c ∈ some (Nat.digitChar digits), c.isDigit = true := by
    intro c hc
    rw [← Option.some.inj hc, Nat.isDigit_digitChar]
    exact decide_eq_true hdigits.2
  have hvalue : (Nat.digitChar digits).toNat - '0'.toNat = digits := Nat.toNat_digitChar_sub_48_of_lt_ten hdigits.2
  have hformat := NumberFormat.ofText_cons letter hdigit
  rw [hletter, precisionOf, Option.map_some, hvalue] at hformat
  rw [formatReal_of_isFinite hx]
  show (NumberFormat.ofText (letter :: (some (Nat.digitChar digits)).toList)).write separators x = _
  obtain ⟨digits, rfl⟩ := Nat.exists_eq_add_one_of_ne_zero hdigits.1.ne'
  rw [hformat]
  rfl

/-- The general style with a digit shows a number that is not zero with so many significant digits, unless it
overflows. -/
theorem showsDigits_formatReal {letter : Char} (hletter : NumberFormat.styleOf letter = .general) {digits : Nat}
    (hdigits : 0 < digits ∧ digits < 10) (separators : Separators) (s : Bool) {u : Nat}
    (h : Binary64.Representable u) (hu : u ≠ 0) :
    ShowsDigits digits separators s u
      (formatReal (.finite s u h) [letter, Nat.digitChar digits] separators) := by
  rw [formatReal_significant hletter hdigits separators rfl, Numeral.write_eq, Numeral.groupDigits_nil, Numeral.sign,
    Numeral.tail]
  refine ⟨fun hcarries => ?_, fun hkept => ?_, fun hsmall => ⟨?_, ?_⟩, ?_⟩
  · rw [(Binary64.significant_spec hdigits s h).2 hcarries]
    rfl
  · obtain ⟨hnegative, hcut⟩ := Binary64.cutTo_significant hdigits s h hu hkept
    exact ⟨_, hcut, by rw [hnegative]⟩
  · apply Binary64.not_carriesOver_of_lt hdigits.2
    exact hsmall.trans_le (Nat.mul_le_mul_right _ (Nat.pow_le_pow_right (by decide) (by decide)))
  · exact Binary64.cutsExactly_of_lt hdigits hsmall
  · exact Binary64.not_cutsExactly_of_le hdigits h.1

/-- A number that is carried to one more digit. -/
theorem showsDigits_formatReal_of_carry :
    let u := Binary64.nearestUnits (9996 * Binary64.one) 100
    ∃ h : Binary64.Representable u,
      ShowsDigits 3 {} true u (formatReal (.finite true u h) ['g', Nat.digitChar 3] {})
        ∧ formatReal (.finite true u h) ['g', Nat.digitChar 3] {} = "-100".toList := by
  intro u
  have hletter : NumberFormat.styleOf 'g' = .general := by decide
  have hu : u ≠ 0 := by decide +kernel
  refine ⟨Binary64.representable_nearestUnits (by decide +kernel), ?_, by decide +kernel⟩
  exact showsDigits_formatReal hletter (by decide) {} true _ hu

/-- The number nearest to `1.23 · 10²²` is cut to three digits, and the digits behind them are those of the 64-bit
product. -/
theorem not_zeros_behind_three_digits :
    let x : Binary64 := .ofDecimal ⟨false, 123, 20⟩
    let separators : Separators := { group := ['.'], decimal := [','] }
    separators.validate = .ok () ∧ x.isFinite = true
      ∧ formatReal x ['G', '3'] separators = "12300000000000001048576".toList
      ∧ Digits (formatReal x ['G', '3'] separators)
      ∧ ¬∀ c ∈ (significantPart (formatReal x ['G', '3'] separators)).drop 3, c = '0' := by
  intro x separators
  have htext : formatReal x ['G', '3'] separators = "12300000000000001048576".toList := by decide +kernel
  refine ⟨by decide, by decide +kernel, htext, ?_, ?_⟩
  · rw [htext]
    exact List.all_eq_true.mp (by decide)
  · rw [htext]
    exact fun hzeros => absurd (hzeros '1' (by decide)) (by decide)

end TypedTemplate
