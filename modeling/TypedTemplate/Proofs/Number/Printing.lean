import TypedTemplate.Kind
import TypedTemplate.Proofs.Number.Cutting
/-!
# What a printed number looks like

Every format writes one numeral, with or without groups and with or without a percent sign behind it. Whether the
numeral consists of digits is decided where the number to be written is computed: a hundred times a number, and a
number cut to significant digits, can be too large for a number. Then the digits of an infinity are printed,
though the number that was given is finite; `Overflows` says exactly when.
-/

namespace TypedTemplate

namespace Binary64

theorem mul_withSign (negative : Bool) (p q : ℚ) : p * withSign negative q = withSign negative (p * q) := by
  cases negative with
  | false => rfl
  | true => exact mul_neg p q

theorem roundsTo_hundredfold (s : Bool) {u : Nat} (h : Representable u) :
    RoundsTo s (100 * value s u) (Binary64.finite s u h * ofNat 100) := by
  obtain ⟨hhundred, heq⟩ := isNat_ofNat (by decide : 100 ≤ 2 ^ significantBits)
  have hproduct : Binary64.finite s u h * ofNat 100 = nearest s (u * (100 * one)) one := by
    rw [heq, mul_finite, Bool.bne_false]
  have hvalue : 100 * value s u = withSign s ((u * (100 * one) : Nat) / one / one) := by
    rw [value, mul_withSign, Nat.cast_mul, Nat.cast_mul, Nat.cast_ofNat, mul_left_comm, ← mul_assoc,
      mul_div_cancel_right₀ _ cast_one_pos.ne', mul_div_assoc]
  rw [hproduct, hvalue]
  exact roundsTo_nearest s _ one_pos

end Binary64

/-! ### What the text begins with -/

/-- The first character that is no minus. -/
def lead? (t : Text) : Option Char :=
  (t.dropWhile (· == '-')).head?

theorem lead?_sign_append {sign : Text} (hsign : sign = [] ∨ sign = ['-']) {c : Char} (hc : c ≠ '-') (rest : Text) :
    lead? (sign ++ c :: rest) = some c := by
  have hstop : (c :: rest).dropWhile (· == '-') = c :: rest := by
    rw [List.dropWhile_cons_of_neg (by simpa using hc)]
  obtain rfl | rfl := hsign
  · rw [List.nil_append, lead?, hstop]
    rfl
  · rw [lead?, List.singleton_append, List.dropWhile_cons_of_pos (by decide), hstop]
    rfl

namespace NumberFormat

variable {format : NumberFormat} {separators : Separators} {x : Binary64} {t : Text}

/-! ### The parts of a text -/

/-- The numeral that is written. -/
def numeral (format : NumberFormat) (x : Binary64) : Numeral :=
  match format.style with
  | .fixed | .grouped => x.fixed (format.precision.getD defaultDecimals)
  | .percent => (x * Binary64.ofNat 100).fixed (format.precision.getD defaultDecimals)
  | .whole => x.round.fixed 0
  | .general => generalNumeral format.precision x

/-- The separator between the groups of digits, where there are any. -/
def group (format : NumberFormat) (separators : Separators) : Text :=
  match format.style with
  | .grouped | .percent => separators.group
  | _ => []

/-- What is put behind the numeral. -/
def mark (format : NumberFormat) : Text :=
  match format.style with
  | .percent => [' ', '%']
  | _ => []

theorem write_eq (format : NumberFormat) (separators : Separators) (x : Binary64) :
    format.write separators x
      = (format.numeral x).write (format.group separators) separators.decimal ++ format.mark := by
  obtain ⟨style, precision⟩ := format
  cases style <;> simp [write, numeral, group, mark]

/-- A sign, digits in blocks, decimals and a mark. Only the general style chooses how many decimals there are. -/
inductive Printed (format : NumberFormat) (separators : Separators) : Text → Prop
  | parts {sign whole first decimals : Text} {others : List Text} (hsign : sign = [] ∨ sign = ['-'])
      (hblocks : Blocks (format.group separators) whole first others) (hdecimals : Digits decimals)
      (hcount : format.style ≠ .general → decimals.length = format.precision.getD defaultDecimals) :
      Printed format separators
        (sign ++ (whole ++ if decimals = [] then [] else separators.decimal ++ decimals) ++ format.mark)

/-- What is printed in place of a number that is too large. -/
inductive Overflowed (format : NumberFormat) : Text → Prop
  | parts {sign : Text} (hsign : sign = [] ∨ sign = ['-']) :
      Overflowed format (sign ++ Binary64.overflowDigits ++ format.mark)

/-- The number to be written is too large: a hundred times the given one, or the given one cut to significant
digits. -/
def Overflows (format : NumberFormat) (x : Binary64) : Prop :=
  match x, format.style, format.precision with
  | .finite s u _, .percent, _ => Binary64.overflow ≤ |100 * Binary64.value s u|
  | .finite _ u _, .general, some (digits + 1) => Binary64.CarriesOver (digits + 1) u
  | _, _, _ => False

/-- The numeral consists of digits, as many decimals among them as the format asks for, unless the number to be
written is too large. -/
theorem numeral_spec (hstyle : format.style ≠ .whole) (hprecision : ∀ n ∈ format.precision, n < 10)
    (hx : x.isFinite = true) :
    (¬format.Overflows x → (format.numeral x).Digital ∧ (format.style ≠ .general →
        (format.numeral x).fraction.length = format.precision.getD defaultDecimals))
      ∧ (format.Overflows x → ∃ s, format.numeral x = ⟨s, Binary64.overflowDigits, []⟩) := by
  obtain ⟨style, precision⟩ := format
  cases x with
  | nan | infinite => exact absurd hx (by simp [Binary64.isFinite])
  | finite s u h =>
      cases style with
      | fixed | grouped =>
          obtain ⟨hdigital, hlength⟩ := Binary64.digital_fixed hx (precision.getD defaultDecimals)
          exact ⟨fun _ => ⟨hdigital, fun _ => hlength⟩, False.elim⟩
      | whole => exact absurd rfl hstyle
      | percent =>
          have hround := Binary64.roundsTo_hundredfold s h
          simp only [Overflows, numeral]
          generalize Binary64.finite s u h * Binary64.ofNat 100 = product at hround ⊢
          cases hround with
          | infinite hlarge => exact ⟨fun hsmall => absurd hlarge hsmall, fun _ => ⟨s, rfl⟩⟩
          | @finite v hv hsmall =>
              obtain ⟨hdigital, hlength⟩ :=
                Binary64.digital_fixed (x := .finite s v hv) rfl (precision.getD defaultDecimals)
              exact ⟨fun _ => ⟨hdigital, fun _ => hlength⟩, fun hlarge => absurd hsmall (not_lt.mpr hlarge)⟩
      | general =>
          rcases precision with _ | _ | digits
          · exact ⟨fun _ => ⟨(Binary64.shortest_spec s h).1, fun hne => absurd rfl hne⟩, False.elim⟩
          · exact ⟨fun _ => ⟨(Binary64.shortest_spec s h).1, fun hne => absurd rfl hne⟩, False.elim⟩
          · obtain ⟨hdigital, hover⟩ :=
              Binary64.significant_spec ⟨Nat.succ_pos digits, hprecision _ rfl⟩ s h
            exact ⟨fun hkept => ⟨hdigital hkept, fun hne => absurd rfl hne⟩, fun hcarries => ⟨s, hover hcarries⟩⟩

theorem Printed.lead? (h : format.Printed separators t) : ∃ c, lead? t = some c ∧ c.isDigit = true := by
  cases h with
  | parts hsign hblocks =>
      obtain ⟨c, block, rfl⟩ := List.exists_cons_of_length_pos hblocks.length_first.1
      have hdigit : c.isDigit = true := hblocks.digits _ List.mem_cons_self c List.mem_cons_self
      have hminus : c ≠ '-' := by
        intro heq
        rw [heq] at hdigit
        exact absurd hdigit (by decide)
      refine ⟨c, ?_, hdigit⟩
      rw [hblocks.eq_append, List.append_assoc, List.append_assoc, List.append_assoc, List.cons_append]
      exact lead?_sign_append hsign hminus _

theorem Overflowed.lead? (h : format.Overflowed t) : lead? t = some 'i' := by
  obtain ⟨hsign⟩ := h
  rw [List.append_assoc]
  exact lead?_sign_append hsign (by decide) _

theorem Overflowed.not_printed (h : format.Overflowed t) : ¬format.Printed separators t := by
  intro hprinted
  obtain ⟨c, hlead, hdigit⟩ := hprinted.lead?
  rw [h.lead?, Option.some_inj] at hlead
  rw [← hlead] at hdigit
  exact absurd hdigit (by decide)

theorem Printed.mem (h : format.Printed separators t) {c : Char} (hc : c ∈ t) :
    c.isDigit = true ∨ c = '-' ∨ c ∈ separators.group ∨ c ∈ separators.decimal ∨ c ∈ format.mark := by
  obtain ⟨hsign, hblocks, hdecimals, _⟩ := h
  rw [List.mem_append, List.mem_append, List.mem_append] at hc
  obtain (hc | hc | hc) | hc := hc
  · obtain rfl | rfl := hsign
    · exact absurd hc List.not_mem_nil
    · exact .inr (.inl (List.mem_singleton.mp hc))
  · refine (hblocks.isDigit_or_mem hc).imp_right fun hgroup => .inr (.inl ?_)
    rw [group] at hgroup
    split at hgroup
    · exact hgroup
    · exact hgroup
    · exact absurd hgroup List.not_mem_nil
  · split at hc
    · exact absurd hc List.not_mem_nil
    · rcases List.mem_append.mp hc with hc | hc
      · exact .inr (.inr (.inr (.inl hc)))
      · exact .inl (hdecimals c hc)
  · exact .inr (.inr (.inr (.inr hc)))

/-! ### Printing -/

theorem printed_write {n : Numeral} (h : n.Digital)
    (hcount : format.style ≠ .general → n.fraction.length = format.precision.getD defaultDecimals) :
    format.Printed separators (n.write (format.group separators) separators.decimal ++ format.mark) := by
  obtain ⟨first, others, hblocks, _, _⟩ := exists_blocks (format.group separators) h.whole h.whole_ne_nil
  rw [Numeral.write_eq, Numeral.tail]
  exact .parts n.sign_eq hblocks h.fraction hcount

theorem overflowed_write (separators : Separators) (s : Bool) :
    format.Overflowed
      ((⟨s, Binary64.overflowDigits, []⟩ : Numeral).write (format.group separators) separators.decimal
        ++ format.mark) := by
  have hgroup : Numeral.groupDigits (format.group separators) Binary64.overflowDigits = Binary64.overflowDigits := by
    simp [Numeral.groupDigits, Binary64.overflowDigits]
  rw [Numeral.write_eq, hgroup]
  exact .parts (Numeral.sign_eq _)

/-- What is printed for a finite number: digits in the layout of the format, and the digits of an infinity only
where the number to be written is too large. -/
structure Prints (format : NumberFormat) (separators : Separators) (x : Binary64) (t : Text) : Prop where
  printed_iff : format.Printed separators t ↔ ¬format.Overflows x
  overflowed_iff : format.Overflowed t ↔ format.Overflows x
  mem_of_not_overflows : ¬format.Overflows x → ∀ c ∈ t,
    c.isDigit = true ∨ c = '-' ∨ c ∈ separators.group ∨ c ∈ separators.decimal ∨ c ∈ format.mark

theorem Prints.lead? {x : Binary64} (h : format.Prints separators x t) :
    ∃ c, lead? t = some c ∧ (c.isDigit = true ∨ c = 'i') := by
  by_cases hover : format.Overflows x
  · exact ⟨'i', (h.overflowed_iff.mpr hover).lead?, .inr rfl⟩
  · obtain ⟨c, hlead, hdigit⟩ := (h.printed_iff.mpr hover).lead?
    exact ⟨c, hlead, .inl hdigit⟩

theorem prints_write (hstyle : format.style ≠ .whole) (hprecision : ∀ n ∈ format.precision, n < 10)
    (hx : x.isFinite = true) : format.Prints separators x (format.write separators x) := by
  obtain ⟨hkept, hover⟩ := numeral_spec hstyle hprecision hx
  rw [write_eq]
  by_cases h : format.Overflows x
  · obtain ⟨s, heq⟩ := hover h
    rw [heq]
    have hoverflowed : format.Overflowed _ := overflowed_write separators s
    refine ⟨iff_of_false hoverflowed.not_printed (not_not.mpr h), iff_of_true hoverflowed h, fun hnot => absurd h hnot⟩
  · have hprinted : format.Printed separators _ := printed_write (hkept h).1 (hkept h).2
    exact ⟨iff_of_true hprinted h, iff_of_false (fun hoverflowed => hoverflowed.not_printed hprinted) h,
      fun _ c hc => hprinted.mem hc⟩

end NumberFormat

/-- The texts that stand for what is no finite number. -/
def nonFiniteTexts : List Text :=
  [Binary64.nanDigits, ['∞'], ['-', '∞']]

theorem styleOf_ne_whole {letter : Char} (hletter : Kind.ofLetter? letter = some .number) :
    NumberFormat.styleOf letter ≠ .whole := by
  intro hwhole
  rw [NumberFormat.styleOf] at hwhole
  split at hwhole
  case h_4 heq =>
    rw [Kind.ofLetter?, heq] at hletter
    exact absurd hletter (by decide)
  all_goals exact absurd hwhole (by decide)

theorem precisionOf_lt {digit : Option Char} (hdigit : ∀ c ∈ digit, c.isDigit = true) :
    ∀ n ∈ precisionOf digit, n < 10 := by
  intro n hn
  obtain ⟨c, hc, rfl⟩ := Option.map_eq_some_iff.mp hn
  exact toNat_sub_lt_ten (hdigit c hc)

/-- A finite number prints as digits in the layout of its format, unless a hundred times the number, or the number
cut to its significant digits, is too large; and the texts for what is no finite number stand for nothing else. -/
theorem prints_formatReal {letter : Char} (hletter : Kind.ofLetter? letter = some .number) {digit : Option Char}
    (hdigit : ∀ c ∈ digit, c.isDigit = true) (separators : Separators) (x : Binary64) :
    (x.isFinite = true → (NumberFormat.ofText (letter :: digit.toList)).Prints separators x
        (formatReal x (letter :: digit.toList) separators))
      ∧ (formatReal x (letter :: digit.toList) separators ∈ nonFiniteTexts ↔ x.isFinite = false) := by
  have hprints : x.isFinite = true → (NumberFormat.ofText (letter :: digit.toList)).Prints separators x
      (formatReal x (letter :: digit.toList) separators) := by
    intro hx
    rw [formatReal_of_isFinite hx, NumberFormat.ofText_cons letter hdigit]
    exact NumberFormat.prints_write (styleOf_ne_whole hletter) (precisionOf_lt hdigit) hx
  refine ⟨hprints, ?_, ?_⟩
  · intro hmem
    by_contra hfinite
    have hx : x.isFinite = true := by simpa using hfinite
    obtain ⟨c, hlead, hc⟩ := (hprints hx).lead?
    have hleads : ∀ t ∈ nonFiniteTexts, (lead? t).all (fun c => !(c.isDigit || c == 'i')) = true := by decide
    have hfalse := hleads _ hmem
    rw [hlead, Option.all_some] at hfalse
    rcases hc with hc | hc <;> simp [hc] at hfalse
  · intro hx
    cases x with
    | finite => exact absurd hx (by simp [Binary64.isFinite])
    | nan => simp [formatReal, nonFiniteTexts]
    | infinite s => cases s <;> simp [formatReal, nonFiniteTexts]

/-- A negative percentage, and a group separator that is a letter of the digits of an infinity. -/
theorem prints_formatReal_of_odd_separators :
    let x : Binary64 := .ofInt (-1234567) / .ofNat 8
    let separators : Separators := { group := ['i'], decimal := ['-'] }
    Kind.ofLetter? 'p' = some .number ∧ x.isFinite = true
      ∧ (NumberFormat.ofText ['p', '1']).Prints separators x (formatReal x ['p', '1'] separators)
      ∧ formatReal x ['p', '1'] separators ∉ nonFiniteTexts
      ∧ formatReal x ['p', '1'] separators = "-15i432i087-5 %".toList := by
  intro x separators
  have hletter : Kind.ofLetter? 'p' = some .number := by decide
  have hx : x.isFinite = true := by decide +kernel
  have hdigit : ∀ c ∈ some '1', c.isDigit = true := by
    intro c hc
    obtain rfl := Option.some.inj hc
    rfl
  obtain ⟨hprints, hunmarked⟩ := prints_formatReal hletter hdigit separators x
  refine ⟨hletter, hx, hprints hx, fun hmem => ?_, by decide +kernel⟩
  have hnot := hunmarked.mp hmem
  rw [hx] at hnot
  exact absurd hnot (by decide)

/-- A finite number whose percentage is too large, and the largest number cut to one digit, print the digits of an
infinity. -/
theorem not_printed_of_large_numbers :
    let separators : Separators := {}
    let x : Binary64 := .ofDecimal ⟨false, 1, 307⟩
    let y : Binary64 := .ofDecimal ⟨false, 17976931348623157, 292⟩
    separators.validate = .ok () ∧ x.isFinite = true ∧ y.isFinite = true
      ∧ formatReal x ['P', '0'] separators = "inf %".toList
      ∧ ¬(NumberFormat.ofText ['P', '0']).Printed separators (formatReal x ['P', '0'] separators)
      ∧ formatReal y ['G', '1'] separators = "inf".toList
      ∧ ¬(NumberFormat.ofText ['G', '1']).Printed separators (formatReal y ['G', '1'] separators) := by
  intro separators x y
  have hpercent : formatReal x ['P', '0'] separators = [] ++ Binary64.overflowDigits ++ [' ', '%'] := by decide +kernel
  have hgeneral : formatReal y ['G', '1'] separators = [] ++ Binary64.overflowDigits ++ [] := by decide +kernel
  refine ⟨by decide, by decide +kernel, by decide +kernel, hpercent, ?_, hgeneral, ?_⟩
  · rw [hpercent]
    have hover : (NumberFormat.ofText ['P', '0']).Overflowed _ := .parts (.inl rfl)
    exact hover.not_printed
  · rw [hgeneral]
    have hover : (NumberFormat.ofText ['G', '1']).Overflowed _ := .parts (.inl rfl)
    exact hover.not_printed

end TypedTemplate
