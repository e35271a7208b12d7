import TypedTemplate.Proofs.Number.NumeralForm
import TypedTemplate.Proofs.Number.Rounding
/-!
# Reading numbers

A text is read as a number by trimming it, refusing a stray point, writing a point for the separator and
taking the numeral apart; an integer is read without any of the detours. What is accepted in the end is one
grammar, what is returned is the value of the numeral rounded once, and the three causes of failure tell
apart the blank texts, the texts that are no numerals, and the numerals whose value is out of range.
-/

namespace TypedTemplate

variable {decimal : Char} {t : Text} {d : Decimal}

/-! ### Numbers with decimals -/

theorem readNumber_of_blank (decimal : Char) (h : t.trim = []) : readNumber decimal t = .error .empty := by
  simp [readNumber, h]

theorem readNumber_of_pointed (hstray : decimal ≠ '.' → '.' ∉ t.trim)
    (h : NumeralForm '.' (pointed decimal t.trim) d) :
    readNumber decimal t
      = if (Binary64.ofDecimal d).isFinite then .ok (Binary64.ofDecimal d) else .error .notFinite := by
  have hne : t.trim ≠ [] := fun hnil => h.ne_nil (by rw [hnil]; rfl)
  simp only [readNumber, Decimal.read?_eq_some_iff.mpr h]
  rw [if_neg (by simpa using hne), if_neg (by simpa using hstray)]

theorem readNumber_of_not_form (hne : t.trim ≠ []) (h : ¬∃ d, NumeralForm decimal t.trim d) :
    readNumber decimal t = .error .malformed := by
  simp only [readNumber]
  rw [if_neg (by simpa using hne)]
  split
  · rfl
  · next hstray =>
      rw [not_and] at hstray
      rcases hread : Decimal.read? (pointed decimal t.trim) with _ | d
      · rfl
      · exact absurd ⟨d, numeralForm_of_pointed hstray (Decimal.read?_eq_some_iff.mp hread)⟩ h

theorem readNumber_of_numeralForm (hdecimal : isNumeralChar decimal = false)
    (h : NumeralForm decimal t.trim d) :
    readNumber decimal t
      = if (Binary64.ofDecimal d).isFinite then .ok (Binary64.ofDecimal d) else .error .notFinite := by
  obtain ⟨hstray, hpointed⟩ := (numeralForm_iff_pointed hdecimal).mp h
  exact readNumber_of_pointed hstray hpointed

/-- What was read was a numeral, whatever its separator is. -/
theorem exists_numeralForm_of_readNumber {x : Binary64} (h : readNumber decimal t = .ok x) :
    ∃ d, NumeralForm decimal t.trim d := by
  by_contra hno
  rcases eq_or_ne t.trim [] with hblank | hne
  · rw [readNumber_of_blank decimal hblank] at h
    exact absurd h (by simp)
  · rw [readNumber_of_not_form hne hno] at h
    exact absurd h (by simp)

/-- How a text is read as a number: by the grammar of numerals, and rounded once. -/
structure ReadsNumber (decimal : Char) (t : Text) : Prop where
  empty_iff : readNumber decimal t = .error .empty ↔ t.trim = []
  malformed_iff : readNumber decimal t = .error .malformed
    ↔ t.trim ≠ [] ∧ ¬∃ d, NumeralForm decimal t.trim d
  numeral : ∀ d, NumeralForm decimal t.trim d → ∃ x, Binary64.RoundsTo d.negative d.value x
    ∧ readNumber decimal t = if x.isFinite then .ok x else .error .notFinite

theorem readsNumber (hdecimal : isNumeralChar decimal = false) (t : Text) : ReadsNumber decimal t := by
  have hnumeral : ∀ d, NumeralForm decimal t.trim d → ∃ x, Binary64.RoundsTo d.negative d.value x
      ∧ readNumber decimal t = if x.isFinite then .ok x else .error .notFinite := fun d hd =>
    ⟨_, Binary64.roundsTo_ofDecimal d, readNumber_of_numeralForm hdecimal hd⟩
  rcases eq_or_ne t.trim [] with hblank | hne
  · have hread := readNumber_of_blank decimal hblank
    exact ⟨by simp [hread, hblank], by simp [hread, hblank], hnumeral⟩
  by_cases hform : ∃ d, NumeralForm decimal t.trim d
  · obtain ⟨d, hd⟩ := hform
    have hread := readNumber_of_numeralForm hdecimal hd
    split at hread
    · exact ⟨by simp [hread, hne], by simpa [hread] using fun _ => ⟨d, hd⟩, hnumeral⟩
    · exact ⟨by simp [hread, hne], by simpa [hread] using fun _ => ⟨d, hd⟩, hnumeral⟩
  · have hread := readNumber_of_not_form hne hform
    exact ⟨by simp [hread, hne], ⟨fun _ => ⟨hne, hform⟩, fun _ => hread⟩, hnumeral⟩

/-! ### Integers -/

theorem readInteger_of_blank (h : t.trim = []) : readInteger t = .error .empty := by
  simp [readInteger, h]

theorem integerForm_ne_nil {n : Int} (h : IntegerForm t n) : t ≠ [] := by
  cases h with
  | signed _ _ hne => exact List.append_ne_nil_of_right_ne_nil _ hne

theorem readInteger_of_integerForm {n : Int} (h : IntegerForm t.trim n) :
    readInteger t = if -2 ^ 63 ≤ n ∧ n < 2 ^ 63 then .ok (Int64.ofInt n) else .error .malformed := by
  rcases htake : Decimal.takeSign t.trim with ⟨negative, digits⟩
  have hne := integerForm_ne_nil h
  obtain ⟨hdigits, hdigitsNe, hn⟩ := (Decimal.integerForm_iff_of_takeSign htake).mp h
  have hrange : Int64.minValue.toInt ≤ n ∧ n ≤ Int64.maxValue.toInt ↔ -2 ^ 63 ≤ n ∧ n < 2 ^ 63 := by
    rw [Int64.toInt_minValue, Int64.toInt_maxValue]
    omega
  simp only [readInteger, htake]
  rw [if_neg (by simpa using hne), if_neg (mt Decimal.refused_iff.mp (not_not.mpr ⟨hdigits, hdigitsNe⟩)), ← hn]
  simp only [hrange]

theorem readInteger_of_not_form (hne : t.trim ≠ []) (h : ¬∃ n, IntegerForm t.trim n) :
    readInteger t = .error .malformed := by
  rcases htake : Decimal.takeSign t.trim with ⟨negative, digits⟩
  have hrefused : ¬(Digits digits ∧ digits ≠ []) := fun hdigits =>
    h ⟨_, (Decimal.integerForm_iff_of_takeSign htake).mpr ⟨hdigits.1, hdigits.2, rfl⟩⟩
  simp only [readInteger, htake]
  rw [if_neg (by simpa using hne), if_pos (Decimal.refused_iff.mpr hrefused)]

theorem readInteger_eq_ok_iff {m : Int64} : readInteger t = .ok m ↔ IntegerForm t.trim m.toInt := by
  constructor
  · intro h
    rcases eq_or_ne t.trim [] with hblank | hne
    · rw [readInteger_of_blank hblank] at h
      exact absurd h (by simp)
    by_cases hform : ∃ n, IntegerForm t.trim n
    · obtain ⟨n, hn⟩ := hform
      rw [readInteger_of_integerForm hn] at h
      split at h
      · next hrange =>
          obtain rfl := Except.ok.inj h
          rwa [Int64.toInt_ofInt_of_le hrange.1 hrange.2]
      · exact absurd h (by simp)
    · rw [readInteger_of_not_form hne hform] at h
      exact absurd h (by simp)
  · intro h
    rw [readInteger_of_integerForm h, if_pos ⟨m.le_toInt, m.toInt_lt⟩, Int64.ofInt_toInt]

/-- How a text is read as an integer of 64 bits. -/
structure ReadsInteger (t : Text) : Prop where
  empty_iff : readInteger t = .error .empty ↔ t.trim = []
  ok_iff : ∀ n : Int, (∃ m : Int64, readInteger t = .ok m ∧ m.toInt = n)
    ↔ IntegerForm t.trim n ∧ -2 ^ 63 ≤ n ∧ n < 2 ^ 63
  malformed_iff : readInteger t = .error .malformed
    ↔ t.trim ≠ [] ∧ ¬∃ n, IntegerForm t.trim n ∧ -2 ^ 63 ≤ n ∧ n < 2 ^ 63

theorem readsInteger (t : Text) : ReadsInteger t := by
  have hok : ∀ n : Int, (∃ m : Int64, readInteger t = .ok m ∧ m.toInt = n)
      ↔ IntegerForm t.trim n ∧ -2 ^ 63 ≤ n ∧ n < 2 ^ 63 := by
    intro n
    simp only [readInteger_eq_ok_iff]
    constructor
    · rintro ⟨m, hm, rfl⟩
      exact ⟨hm, m.le_toInt, m.toInt_lt⟩
    · rintro ⟨hn, hlow, hhigh⟩
      have hsame := Int64.toInt_ofInt_of_le hlow hhigh
      exact ⟨.ofInt n, by rwa [hsame], hsame⟩
  rcases eq_or_ne t.trim [] with hblank | hne
  · have hread := readInteger_of_blank hblank
    exact ⟨by simp [hread, hblank], hok, by simp [hread, hblank]⟩
  by_cases hform : ∃ n, IntegerForm t.trim n ∧ -2 ^ 63 ≤ n ∧ n < 2 ^ 63
  · obtain ⟨n, hn⟩ := hform
    obtain ⟨m, hread, _⟩ := (hok n).mpr hn
    exact ⟨by simp [hread, hne], hok, by simpa [hread] using fun _ => ⟨n, hn⟩⟩
  · have hread : readInteger t = .error .malformed := by
      by_cases hexists : ∃ n, IntegerForm t.trim n
      · obtain ⟨n, hn⟩ := hexists
        rw [readInteger_of_integerForm hn, if_neg fun hrange => hform ⟨n, hn, hrange⟩]
      · exact readInteger_of_not_form hne hexists
    exact ⟨by simp [hread, hne], hok, fun _ => ⟨hne, hform⟩, fun _ => hread⟩

/-- Texts are read as numbers and as integers by their grammars, and every failure has its cause. -/
theorem reads_numerals (hdecimal : isNumeralChar decimal = false) (t : Text) :
    ReadsNumber decimal t ∧ ReadsInteger t :=
  ⟨readsNumber hdecimal t, readsInteger t⟩

/-- A comma is the separator, leading zeros do not count, and the exponent shifts the decimals away. -/
theorem reads_numerals_of_padded_text :
    let t := " -0012,50e1\t".toList
    isNumeralChar ',' = false ∧ ReadsNumber ',' t ∧ ReadsInteger t
      ∧ readNumber ',' t = .ok (.ofInt (-125)) ∧ readInteger t = .error .malformed := by
  intro t
  have hdecimal : isNumeralChar ',' = false := by decide
  obtain ⟨hnumber, hinteger⟩ := reads_numerals hdecimal t
  exact ⟨hdecimal, hnumber, hinteger, by decide +kernel, by decide +kernel⟩

end TypedTemplate
