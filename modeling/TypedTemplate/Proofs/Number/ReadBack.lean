import Mathlib.Data.List.DropRight
import TypedTemplate.Number.Format
import TypedTemplate.Proofs.Number.Reading
import TypedTemplate.Proofs.Text.Parts
/-!
# Reading back what was written

A number written in the general style, and an integer, are read back as they were. The digits that are
written say a decimal; the decimal rounds to the number, since shortest digits are chosen to do so; and only
one number is the rounded one. No blank stands at either end of a written number, and its separator is the
only character of it that renaming touches, so neither the trimming nor a strange separator gets in the way.
-/

namespace TypedTemplate

/-! ### Digits -/

theorem digits_nil : Digits [] := fun _ hc => absurd hc List.not_mem_nil

theorem digits_toDigits (n : Nat) : Digits (Nat.toDigits 10 n) := fun _ hc =>
  Nat.isDigit_of_mem_toDigits (by decide) (by decide) hc

theorem digits_zeros (count : Nat) : Digits (List.replicate count '0') := by
  intro c hc
  rw [List.eq_of_mem_replicate hc]
  decide

theorem digits_append {s t : Text} (hs : Digits s) (ht : Digits t) : Digits (s ++ t) := by
  intro c hc
  rcases List.mem_append.mp hc with hc | hc
  · exact hs c hc
  · exact ht c hc

theorem digits_fixedDigits (width n : Nat) : Digits (fixedDigits width n) := by
  induction width generalizing n with
  | zero => simp [fixedDigits, Digits]
  | succ width ih =>
      refine digits_append (ih (n / 10)) fun c hc => ?_
      rw [List.mem_singleton.mp hc, Nat.isDigit_digitChar]
      exact decide_eq_true (Nat.mod_lt n (by decide))

theorem toNat_sub_lt_ten {c : Char} (h : c.isDigit = true) : c.toNat - '0'.toNat < 10 := by
  have hhigh : c.toNat ≤ 57 := (Char.isDigit_iff_toNat.mp h).2
  show c.toNat - 48 < 10
  omega

theorem ofDigitChars_fixedDigits (width n init : Nat) :
    Nat.ofDigitChars 10 (fixedDigits width n) init = init * 10 ^ width + n % 10 ^ width := by
  induction width generalizing n with
  | zero => simp [fixedDigits, Nat.mod_one]
  | succ width ih =>
      have hdigit : (Nat.digitChar (n % 10)).toNat - '0'.toNat = n % 10 :=
        Nat.toNat_digitChar_sub_48_of_lt_ten (Nat.mod_lt n (by decide))
      have hmod : n % (10 * 10 ^ width) = n % 10 + 10 * (n / 10 % 10 ^ width) := Nat.mod_mul
      rw [fixedDigits, Nat.ofDigitChars_append, ih, Nat.ofDigitChars_cons, Nat.ofDigitChars_nil, hdigit,
        Nat.pow_succ, Nat.mul_comm (10 ^ width), hmod, Nat.mul_add, Nat.mul_left_comm]
      omega

theorem exists_eq_append_replicate (t : Text) (c : Char) :
    ∃ count, t = (t.reverse.dropWhile (· == c)).reverse ++ List.replicate count c := by
  have hrun : ∀ d ∈ t.reverse.takeWhile (· == c), d = c := by
    intro d hd
    have heq := List.mem_takeWhile_imp hd
    exact beq_iff_eq.mp heq
  refine ⟨(t.reverse.takeWhile (· == c)).length, ?_⟩
  rw [← List.reverse_replicate, ← List.eq_replicate_of_mem hrun, ← List.reverse_append,
    List.takeWhile_append_dropWhile, List.reverse_reverse]

/-! ### Numerals as decimals -/

namespace Numeral

/-- The decimal that a numeral says. -/
def decimal (n : Numeral) : Decimal where
  negative := n.negative
  coefficient := Nat.ofDigitChars 10 (n.whole ++ n.fraction) 0
  exponent := 0 - n.fraction.length

/-- A numeral with a digit before the decimals and nothing but digits. -/
structure Digital (n : Numeral) : Prop where
  whole : Digits n.whole
  whole_ne_nil : n.whole ≠ []
  fraction : Digits n.fraction

variable {n : Numeral}

theorem groupDigits_nil (t : Text) : groupDigits [] t = t := by
  induction t with
  | nil => rfl
  | cons c t ih => rw [groupDigits, ih, List.nil_append, ite_self]

/-- The sign of a numeral. -/
def sign (n : Numeral) : Text :=
  if n.negative then ['-'] else []

theorem write_nil_of_fraction_eq_nil (h : n.fraction = []) (separator : Char) :
    n.write [] [separator] = n.sign ++ n.whole := by
  simp [write, sign, groupDigits_nil, h]

theorem write_nil_of_fraction_ne_nil (h : n.fraction ≠ []) (separator : Char) :
    n.write [] [separator] = n.sign ++ (n.whole ++ separator :: n.fraction) := by
  simp [write, sign, groupDigits_nil, h]

theorem signForm_sign (n : Numeral) : SignForm n.sign n.negative := by
  rw [sign]
  cases n.negative with
  | false => exact .absent
  | true => exact .minus

theorem Digital.numeralForm (h : n.Digital) (point : Char) :
    NumeralForm point (n.write [] [point]) n.decimal := by
  by_cases hfraction : n.fraction = []
  · have hmantissa : MantissaForm point n.whole [] n.whole := .whole h.whole h.whole_ne_nil
    have hform := NumeralForm.parts n.signForm_sign hmantissa .absent
    rw [write_nil_of_fraction_eq_nil hfraction, decimal, hfraction]
    simpa using hform
  · have hmantissa : MantissaForm point n.whole n.fraction (n.whole ++ point :: n.fraction) :=
      .pointed h.whole h.fraction (List.append_ne_nil_of_left_ne_nil h.whole_ne_nil _)
    have hform := NumeralForm.parts n.signForm_sign hmantissa .absent
    rw [write_nil_of_fraction_ne_nil hfraction, decimal]
    simpa using hform

/-! ### The text of a numeral -/

theorem isBlank_of_isDigit {c : Char} (h : c.isDigit = true) : isBlank c = false := by
  rw [Char.isDigit_iff_toNat] at h
  have hlow : 48 ≤ c.toNat := h.1
  have hhigh : c.toNat ≤ 57 := h.2
  simp only [isBlank, Bool.or_eq_false_iff, Bool.and_eq_false_iff, decide_eq_false_iff_not, beq_eq_false_iff_ne]
  omega

theorem Digital.trim_write (h : n.Digital) (separator : Char) :
    (n.write [] [separator]).trim = n.write [] [separator] := by
  have hwhole : ∀ rest : Text, ∀ c ∈ (n.sign ++ (n.whole ++ rest)).head?, isBlank c = false := by
    intro rest c hc
    rw [sign] at hc
    split at hc
    · obtain rfl := Option.some.inj hc
      decide
    · rw [List.nil_append, List.head?_append_of_ne_nil _ h.whole_ne_nil] at hc
      exact isBlank_of_isDigit (h.whole c (List.mem_of_mem_head? hc))
  by_cases hfraction : n.fraction = []
  · rw [write_nil_of_fraction_eq_nil hfraction]
    refine Text.trim_eq_self (by simpa using hwhole []) fun c hc => ?_
    rw [List.getLast?_append_of_ne_nil _ h.whole_ne_nil] at hc
    exact isBlank_of_isDigit (h.whole c (List.mem_of_mem_getLast? hc))
  · rw [write_nil_of_fraction_ne_nil hfraction]
    refine Text.trim_eq_self (hwhole _) fun c hc => ?_
    have hback : n.sign ++ (n.whole ++ separator :: n.fraction)
        = (n.sign ++ (n.whole ++ [separator])) ++ n.fraction := by simp
    rw [hback, List.getLast?_append_of_ne_nil _ hfraction] at hc
    exact isBlank_of_isDigit (h.fraction c (List.mem_of_mem_getLast? hc))

theorem Digital.mem_write (h : n.Digital) {separator c : Char} (hc : c ∈ n.write [] [separator]) :
    c = '-' ∨ c.isDigit = true ∨ c = separator := by
  have hsign : c ∈ n.sign → c = '-' := by
    intro hc
    rw [sign] at hc
    split at hc
    · exact List.mem_singleton.mp hc
    · exact absurd hc List.not_mem_nil
  by_cases hfraction : n.fraction = []
  · rw [write_nil_of_fraction_eq_nil hfraction, List.mem_append] at hc
    exact hc.imp hsign fun hc => .inl (h.whole c hc)
  · rw [write_nil_of_fraction_ne_nil hfraction, List.mem_append, List.mem_append, List.mem_cons] at hc
    rcases hc with hc | hc | hc | hc
    · exact .inl (hsign hc)
    · exact .inr (.inl (h.whole c hc))
    · exact .inr (.inr hc)
    · exact .inr (.inl (h.fraction c hc))

theorem Digital.pointed_write (h : n.Digital) {separator : Char} (hdigit : separator.isDigit = false)
    (hminus : separator ≠ '-') : pointed separator (n.write [] [separator]) = n.plain := by
  have hdigits : ∀ t : Text, Digits t → separator ∉ t := by
    intro t ht hmem
    rw [ht separator hmem] at hdigit
    exact absurd hdigit (by decide)
  have hsign : separator ∉ n.sign := by
    rw [sign]
    split
    · exact fun hmem => hminus (List.mem_singleton.mp hmem)
    · exact List.not_mem_nil
  show renamed separator '.' (n.write [] [separator]) = n.write [] ['.']
  by_cases hfraction : n.fraction = []
  · rw [write_nil_of_fraction_eq_nil hfraction, write_nil_of_fraction_eq_nil hfraction, renamed_append,
      renamed_of_not_mem hsign, renamed_of_not_mem (hdigits _ h.whole)]
  · rw [write_nil_of_fraction_ne_nil hfraction, write_nil_of_fraction_ne_nil hfraction, renamed_append,
      renamed_append, renamed_cons_self, renamed_of_not_mem hsign, renamed_of_not_mem (hdigits _ h.whole),
      renamed_of_not_mem (hdigits _ h.fraction)]

/-- A written numeral is read as the number its decimal rounds to. -/
theorem Digital.readNumber_write (h : n.Digital) {separator : Char} (hdigit : separator.isDigit = false)
    (hminus : separator ≠ '-') {x : Binary64} (hx : Binary64.ofDecimal n.decimal = x)
    (hfinite : x.isFinite = true) : readNumber separator (n.write [] [separator]) = .ok x := by
  have hstray : separator ≠ '.' → '.' ∉ (n.write [] [separator]).trim := by
    intro hne hmem
    rw [h.trim_write] at hmem
    rcases h.mem_write hmem with hpoint | hpoint | hpoint
    · exact absurd hpoint (by decide)
    · exact absurd hpoint (by decide)
    · exact hne hpoint.symm
  have hform : NumeralForm '.' (pointed separator (n.write [] [separator]).trim) n.decimal := by
    rw [h.trim_write, h.pointed_write hdigit hminus]
    exact h.numeralForm '.'
  rw [readNumber_of_pointed hstray hform, hx, if_pos hfinite]

end Numeral

/-! ### Decimals as numerals -/

namespace Decimal

theorem digital_toNumeral (d : Decimal) : d.toNumeral.Digital := by
  rw [toNumeral]
  split
  · exact ⟨digits_append (digits_toDigits _) (digits_zeros _),
      List.append_ne_nil_of_left_ne_nil Nat.toDigits_ne_nil _, digits_nil⟩
  · exact ⟨digits_toDigits _, Nat.toDigits_ne_nil, digits_fixedDigits _ _⟩

theorem negative_toNumeral (d : Decimal) : d.toNumeral.negative = d.negative := by
  rw [toNumeral]
  split <;> rfl

theorem value_toNumeral (d : Decimal) : d.toNumeral.decimal.value = d.value := by
  rw [toNumeral]
  split
  · next e he =>
      rw [value, value, Numeral.decimal, he, List.append_nil, Nat.ofDigitChars_append,
        Nat.ofDigitChars_replicate_zero, Nat.ofDigitChars_ten_toDigits, Nat.mul_comm]
      simp
  · next e he =>
      rw [value, value, Numeral.decimal, he, Nat.ofDigitChars_append, ofDigitChars_fixedDigits,
        Nat.ofDigitChars_ten_toDigits, length_fixedDigits, Nat.mod_mod]
      have hdigits : d.coefficient / 10 ^ (e + 1) * 10 ^ (e + 1) + d.coefficient % 10 ^ (e + 1)
          = d.coefficient := Nat.div_add_mod' _ _
      rw [hdigits, Int.zero_sub]
      rfl

end Decimal

namespace Numeral

variable {n : Numeral}

theorem exists_trimFraction_eq (n : Numeral) :
    ∃ count, n.fraction = n.trimFraction.fraction ++ List.replicate count '0' :=
  exists_eq_append_replicate n.fraction '0'

theorem Digital.trimFraction (h : n.Digital) : n.trimFraction.Digital := by
  obtain ⟨count, hfraction⟩ := n.exists_trimFraction_eq
  refine ⟨h.whole, h.whole_ne_nil, fun c hc => h.fraction c ?_⟩
  rw [hfraction]
  exact List.mem_append_left _ hc

theorem value_decimal (n : Numeral) : n.decimal.value
    = Binary64.withSign n.negative
      (Nat.ofDigitChars 10 (n.whole ++ n.fraction) 0 * 10 ^ (0 - (n.fraction.length : Int))) :=
  rfl

theorem Digital.withNegative (h : n.Digital) (s : Bool) : ({ n with negative := s } : Numeral).Digital :=
  ⟨h.whole, h.whole_ne_nil, h.fraction⟩

theorem value_of_negative_eq_false (h : n.negative = false) (s : Bool) :
    ({ n with negative := s } : Numeral).decimal.value = Binary64.withSign s n.decimal.value := by
  rw [value_decimal, value_decimal, h]
  rfl

theorem value_trimFraction (n : Numeral) : n.trimFraction.decimal.value = n.decimal.value := by
  obtain ⟨count, hfraction⟩ := n.exists_trimFraction_eq
  have hcoefficient : Nat.ofDigitChars 10 (n.whole ++ n.fraction) 0
      = Nat.ofDigitChars 10 (n.whole ++ n.trimFraction.fraction) 0 * 10 ^ count := by
    rw [hfraction, ← List.append_assoc, Nat.ofDigitChars_append, Nat.ofDigitChars_replicate_zero, Nat.mul_comm]
  have hexponent : 0 - (n.fraction.length : Int) = 0 - n.trimFraction.fraction.length - count := by
    rw [hfraction, List.length_append, List.length_replicate]
    omega
  have hten : (10 : ℚ) ≠ 0 := by norm_num
  have hpower : (10 : ℚ) ^ count * 10 ^ (0 - (n.fraction.length : Int))
      = 10 ^ (0 - (n.trimFraction.fraction.length : Int)) := by
    rw [hexponent, zpow_sub₀ hten, zpow_natCast, mul_div_cancel₀ _ (pow_ne_zero count hten)]
  rw [value_decimal, value_decimal, hcoefficient, Nat.cast_mul, Nat.cast_pow, Nat.cast_ofNat, mul_assoc,
    hpower]
  rfl

end Numeral

/-! ### Shortest digits -/

namespace Binary64

variable {units : Nat}

theorem roundsTo_value (negative : Bool) (h : Representable units) :
    RoundsTo negative (value negative units) (.finite negative units h) := by
  have hself : NearestTo units units := by
    have hzero : |(units : ℚ) - units| = 0 := by rw [sub_self, abs_zero]
    refine ⟨h.2, fun v _ => ?_, fun v _ heq => .inl ?_⟩
    · rw [hzero]
      exact abs_nonneg _
    · rw [hzero, eq_comm, abs_eq_zero, sub_eq_zero] at heq
      exact Nat.cast_injective heq
  exact hself.roundsTo (Nat.cast_nonneg units) negative h

theorem RoundsTo.withSign {q : ℚ} {h : Representable units}
    (hround : RoundsTo false q (.finite false units h)) (negative : Bool) :
    RoundsTo negative (withSign negative q) (.finite negative units h) := by
  cases negative with
  | false => exact hround
  | true =>
      cases hround with
      | finite hq hnearest heven =>
          have hflip : ∀ s v, |value s v - -q| = |value (!s) v - q| := by
            intro s v
            cases s with
            | false =>
                show |(v : ℚ) / one - -q| = |-((v : ℚ) / one) - q|
                rw [sub_neg_eq_add, ← neg_add', abs_neg]
            | true =>
                show |-((v : ℚ) / one) - -q| = |(v : ℚ) / one - q|
                rw [neg_sub_neg, abs_sub_comm]
          refine .finite ?_ (fun s v hv => ?_) (fun s v hv heq => ?_)
          · rwa [Binary64.withSign, if_pos rfl, abs_neg]
          · show |value true units - -q| ≤ |value s v - -q|
            rw [hflip, hflip]
            exact hnearest _ v hv
          · rw [Binary64.withSign, if_pos rfl, hflip, hflip] at heq
            exact heven _ v hv heq

theorem negative_of_mem_neighbours {exponent : Int} {d : Decimal} (h : d ∈ neighbours units exponent) :
    d.negative = false := by
  rw [neighbours] at h
  split at h
  · simp only [List.mem_cons, List.not_mem_nil, or_false] at h
    rcases h with rfl | rfl <;> rfl
  · simp only [List.mem_cons, List.not_mem_nil, or_false] at h
    rcases h with rfl | rfl <;> rfl

theorem value_exactDecimal (units : Nat) : (exactDecimal units).value = value false units := by
  have hone : (one : ℚ) = 2 ^ unitBits := by
    rw [one, Nat.cast_pow, Nat.cast_ofNat]
  have hten : (10 : ℚ) ^ unitBits = 2 ^ unitBits * 5 ^ unitBits := by
    rw [← mul_pow]
    norm_num
  have hfive : (5 : ℚ) ^ unitBits ≠ 0 := pow_ne_zero _ (by norm_num)
  show ((units * 5 ^ unitBits : Nat) : ℚ) * 10 ^ (-unitBits : Int) = (units : ℚ) / one
  rw [zpow_neg, zpow_natCast, hten, hone, Nat.cast_mul, Nat.cast_pow, Nat.cast_ofNat, ← div_eq_mul_inv,
    mul_div_mul_right _ _ hfive]

theorem exists_of_roundsTo {d : Decimal} (h : roundsTo units d = true) :
    ∃ s hu, ofDecimal d = .finite s units hu := by
  rw [roundsTo] at h
  split at h
  · next s found hu hd =>
      obtain rfl := beq_iff_eq.mp h
      exact ⟨s, hu, hd⟩
  · exact absurd h (by decide)

/-- The shortest decimal rounds to the number, wherever the search for it ends. -/
theorem roundsTo_shortestUnits (h : Representable units) :
    (shortestUnits units).negative = false
      ∧ RoundsTo false (shortestUnits units).value (.finite false units h) := by
  simp only [shortestUnits]
  rcases hsearch : (List.range 17).findSome? fun (places : Nat) =>
    (neighbours units (leadingExponent units - places)).find? (roundsTo units) with _ | d
  · rw [Option.getD_none, value_exactDecimal]
    exact ⟨rfl, roundsTo_value false h⟩
  · obtain ⟨places, _, hfind⟩ := List.exists_of_findSome?_eq_some hsearch
    have hnegative := negative_of_mem_neighbours (List.mem_of_find?_eq_some hfind)
    obtain ⟨s, _, hd⟩ := exists_of_roundsTo (List.find?_some hfind)
    have hround := roundsTo_ofDecimal d
    rw [hnegative, hd] at hround
    rw [Option.getD_some]
    refine ⟨hnegative, ?_⟩
    cases s with
    | false => exact hround
    | true => cases hround

theorem ofDecimal_trimFraction {d : Decimal} (hnegative : d.negative = false) {h : Representable units}
    (hround : RoundsTo false d.value (.finite false units h)) (s : Bool) :
    ofDecimal ({ d.toNumeral.trimFraction with negative := s } : Numeral).decimal = .finite s units h := by
  have hsign : d.toNumeral.trimFraction.negative = false := by
    rw [← hnegative]
    exact d.negative_toNumeral
  have hread := roundsTo_ofDecimal ({ d.toNumeral.trimFraction with negative := s } : Numeral).decimal
  rw [Numeral.value_of_negative_eq_false hsign, Numeral.value_trimFraction, d.value_toNumeral] at hread
  exact hread.unique (hround.withSign s)

/-- The digits of a finite number say a decimal that rounds to it. -/
theorem shortest_spec (s : Bool) (h : Representable units) :
    (shortest (.finite s units h)).Digital
      ∧ ofDecimal (shortest (.finite s units h)).decimal = .finite s units h := by
  rw [shortest]
  split
  · next hzero =>
      subst hzero
      have hdigits : Digits ['0'] := List.forall_mem_singleton.mpr rfl
      exact ⟨⟨hdigits, List.cons_ne_nil _ _, digits_nil⟩, rfl⟩
  · obtain ⟨hnegative, hround⟩ := roundsTo_shortestUnits h
    have hdigital := (shortestUnits units).digital_toNumeral.trimFraction
    exact ⟨hdigital.withNegative s, ofDecimal_trimFraction hnegative hround s⟩

/-- A finite number is read back from its shortest digits, whatever the separator is. -/
theorem readNumber_shortest {x : Binary64} (hx : x.isFinite = true) {separator : Char}
    (hdigit : separator.isDigit = false) (hminus : separator ≠ '-') :
    readNumber separator (x.shortest.write [] [separator]) = .ok x := by
  cases x with
  | nan => exact absurd hx (by decide)
  | infinite s => exact absurd hx (by simp [isFinite])
  | finite s u h =>
      obtain ⟨hdigital, hdecimal⟩ := shortest_spec s h
      exact hdigital.readNumber_write hdigit hminus hdecimal hx

end Binary64

/-! ### Integers -/

theorem readInteger_formatInteger (n : Int64) : readInteger (formatInteger n) = .ok n := by
  have hdigital : (Numeral.ofInt n.toInt).Digital :=
    ⟨digits_toDigits _, Nat.toDigits_ne_nil, digits_nil⟩
  have hform := IntegerForm.signed (Numeral.ofInt n.toInt).signForm_sign hdigital.whole hdigital.whole_ne_nil
  have hvalue : (if (Numeral.ofInt n.toInt).negative then
        -(Nat.ofDigitChars 10 (Numeral.ofInt n.toInt).whole 0 : Int)
      else Nat.ofDigitChars 10 (Numeral.ofInt n.toInt).whole 0) = n.toInt := by
    simp only [Numeral.ofInt, Nat.ofDigitChars_ten_toDigits, decide_eq_true_eq]
    omega
  rw [readInteger_eq_ok_iff, formatInteger, Numeral.plain, hdigital.trim_write,
    Numeral.write_nil_of_fraction_eq_nil rfl]
  rwa [hvalue] at hform

end TypedTemplate
