import Mathlib.Data.List.Basic
import Mathlib.Data.List.TakeDrop
import Mathlib.Data.List.TakeWhile
import TypedTemplate.Number.Read
/-!
# The written forms of numbers

What a number may look like, said by a grammar: a sign, digits with one separator among or around them, and
an exponent. A numeral with a point is taken apart from the left, and that finds the parts the grammar names.
Any other separator comes in by renaming a character, and a numeral knows which characters it is made of, so
it is known which of them must not be renamed.
-/

namespace TypedTemplate

/-! ### The forms -/

/-- A text of ASCII digits. -/
def Digits (t : Text) : Prop :=
  ∀ c ∈ t, c.isDigit = true

/-- An optional sign; the flag says whether it is a minus. -/
inductive SignForm : Text → Bool → Prop
  | absent : SignForm [] false
  | plus : SignForm ['+'] false
  | minus : SignForm ['-'] true

/-- Digits before and after a separator, at least one in all; without digits after it the separator may be
left out. -/
inductive MantissaForm (point : Char) (whole : Text) : (fraction t : Text) → Prop
  | whole (hwhole : Digits whole) (hne : whole ≠ []) : MantissaForm point whole [] whole
  | pointed {fraction : Text} (hwhole : Digits whole) (hfraction : Digits fraction)
      (hne : whole ++ fraction ≠ []) : MantissaForm point whole fraction (whole ++ point :: fraction)

/-- An integer in digits behind an optional sign. -/
inductive IntegerForm : Text → Int → Prop
  | signed {sign digits : Text} {negative : Bool} (hsign : SignForm sign negative)
      (hdigits : Digits digits) (hne : digits ≠ []) :
      IntegerForm (sign ++ digits)
        (if negative then -(Nat.ofDigitChars 10 digits 0 : Int) else Nat.ofDigitChars 10 digits 0)

/-- An optional power of ten. -/
inductive ExponentForm : Text → Int → Prop
  | absent : ExponentForm [] 0
  | power {mark : Char} {t : Text} {n : Int} (hmark : mark = 'e' ∨ mark = 'E') (h : IntegerForm t n) :
      ExponentForm (mark :: t) n

/-- A numeral and what it says: the digits as one coefficient, shifted back by the digits after the
separator. -/
inductive NumeralForm (point : Char) : Text → Decimal → Prop
  | parts {sign whole fraction mantissa exponent : Text} {negative : Bool} {power : Int}
      (hsign : SignForm sign negative) (hmantissa : MantissaForm point whole fraction mantissa)
      (hexponent : ExponentForm exponent power) :
      NumeralForm point (sign ++ (mantissa ++ exponent))
        { negative
          coefficient := Nat.ofDigitChars 10 (whole ++ fraction) 0
          exponent := power - fraction.length }

/-! ### Reading with a point -/

theorem span_eq_iff {p : Char → Bool} {t a b : Text} :
    t.span p = (a, b) ↔ t = a ++ b ∧ (∀ c ∈ a, p c = true) ∧ ∀ c ∈ b.head?, p c = false := by
  rw [List.span_eq_takeWhile_dropWhile]
  constructor
  · intro h
    obtain ⟨rfl, rfl⟩ := Prod.mk.inj h
    refine ⟨(List.takeWhile_append_dropWhile).symm, fun c hc => List.mem_takeWhile_imp hc, ?_⟩
    intro c hc
    have hhead := List.head?_dropWhile_not p t
    rw [Option.mem_def] at hc
    rw [hc] at hhead
    exact hhead
  · rintro ⟨rfl, ha, hb⟩
    rw [List.takeWhile_append_of_pos ha, List.dropWhile_append_of_pos ha]
    cases b with
    | nil => simp
    | cons c b =>
        have hc := hb c rfl
        rw [List.takeWhile_cons_of_neg (by simp [hc]), List.dropWhile_cons_of_neg (by simp [hc]),
          List.append_nil]

namespace Decimal

theorem takeSign_eq_iff {t rest : Text} {negative : Bool} :
    takeSign t = (negative, rest)
      ↔ ∃ sign, SignForm sign negative ∧ t = sign ++ rest
        ∧ (sign = [] → ∀ c ∈ rest.head?, c ≠ '+' ∧ c ≠ '-') := by
  constructor
  · intro h
    unfold takeSign at h
    split at h
    · obtain ⟨rfl, rfl⟩ := Prod.mk.inj h
      exact ⟨_, .minus, rfl, by simp⟩
    · obtain ⟨rfl, rfl⟩ := Prod.mk.inj h
      exact ⟨_, .plus, rfl, by simp⟩
    · next hminus hplus =>
        obtain ⟨rfl, rfl⟩ := Prod.mk.inj h
        refine ⟨[], .absent, rfl, fun _ c hc => ?_⟩
        obtain ⟨rest, rfl⟩ := List.head?_eq_some_iff.mp hc
        exact ⟨fun heq => hplus rest (by rw [heq]), fun heq => hminus rest (by rw [heq])⟩
  · rintro ⟨sign, hsign, rfl, hrest⟩
    cases hsign with
    | minus => rfl
    | plus => rfl
    | absent =>
        have hhead := hrest rfl
        rw [List.nil_append]
        unfold takeSign
        split
        · simp at hhead
        · simp at hhead
        · rfl

theorem ne_sign_of_isDigit {c : Char} (h : c.isDigit = true) : c ≠ '+' ∧ c ≠ '-' := by
  refine ⟨?_, ?_⟩
  · rintro rfl
    exact absurd h (by decide)
  · rintro rfl
    exact absurd h (by decide)

theorem head?_ne_sign_of_digits {t : Text} (h : Digits t) : ∀ c ∈ t.head?, c ≠ '+' ∧ c ≠ '-' :=
  fun c hc => ne_sign_of_isDigit (h c (List.mem_of_mem_head? hc))

theorem integerForm_iff_of_takeSign {t digits : Text} {negative : Bool}
    (htake : takeSign t = (negative, digits)) {n : Int} :
    IntegerForm t n ↔ Digits digits ∧ digits ≠ []
      ∧ n = if negative then -(Nat.ofDigitChars 10 digits 0 : Int) else Nat.ofDigitChars 10 digits 0 := by
  constructor
  · intro h
    cases h with
    | @signed sign digits' negative' hsign hdigits hne =>
        have hsame : takeSign (sign ++ digits') = (negative', digits') :=
          takeSign_eq_iff.mpr ⟨sign, hsign, rfl, fun _ => head?_ne_sign_of_digits hdigits⟩
        obtain ⟨rfl, rfl⟩ := Prod.mk.inj (htake.symm.trans hsame)
        exact ⟨hdigits, hne, rfl⟩
  · rintro ⟨hdigits, hne, rfl⟩
    obtain ⟨sign, hsign, rfl, _⟩ := takeSign_eq_iff.mp htake
    exact .signed hsign hdigits hne

theorem refused_iff {digits : Text} :
    (digits.isEmpty || !digits.all Char.isDigit) = true ↔ ¬(Digits digits ∧ digits ≠ []) := by
  rw [Bool.or_eq_true, List.isEmpty_iff, Bool.not_eq_true', Bool.eq_false_iff, Ne, List.all_eq_true,
    not_and_or, not_not, or_comm]
  rfl

theorem readExponent?_eq_some_iff {t : Text} {n : Int} : readExponent? t = some n ↔ ExponentForm t n := by
  cases t with
  | nil =>
      constructor
      · intro h
        obtain rfl := Option.some.inj h
        exact .absent
      · intro h
        cases h
        rfl
  | cons mark t =>
      rcases htake : takeSign t with ⟨negative, digits⟩
      simp only [readExponent?, htake]
      constructor
      · intro h
        split at h
        · next hmark =>
            split at h
            · exact absurd h (by simp)
            · next haccepted =>
                obtain ⟨hdigits, hne⟩ := not_not.mp (mt refused_iff.mpr haccepted)
                obtain rfl := Option.some.inj h
                exact .power hmark ((integerForm_iff_of_takeSign htake).mpr ⟨hdigits, hne, rfl⟩)
        · exact absurd h (by simp)
      · intro h
        cases h with
        | power hmark h =>
            obtain ⟨hdigits, hne, rfl⟩ := (integerForm_iff_of_takeSign htake).mp h
            rw [if_pos hmark, if_neg (mt refused_iff.mp (not_not.mpr ⟨hdigits, hne⟩))]

theorem takeFraction_eq_iff {t fraction rest : Text} :
    takeFraction t = (fraction, rest)
      ↔ (fraction = [] ∧ t = rest ∧ ∀ c ∈ t.head?, c ≠ '.')
        ∨ t = '.' :: (fraction ++ rest) ∧ Digits fraction ∧ ∀ c ∈ rest.head?, c.isDigit = false := by
  unfold takeFraction
  split
  · next t =>
      rw [span_eq_iff]
      constructor
      · rintro ⟨rfl, hfraction, hrest⟩
        exact .inr ⟨rfl, hfraction, hrest⟩
      · rintro (⟨_, _, hhead⟩ | ⟨ht, hfraction, hrest⟩)
        · exact absurd rfl (hhead '.' rfl)
        · exact ⟨(List.cons.inj ht).2, hfraction, hrest⟩
  · next hpoint =>
      constructor
      · intro h
        obtain ⟨rfl, rfl⟩ := Prod.mk.inj h
        refine .inl ⟨rfl, rfl, fun c hc heq => ?_⟩
        obtain ⟨rest, rfl⟩ := List.head?_eq_some_iff.mp hc
        exact hpoint rest (by rw [heq])
      · rintro (⟨rfl, rfl, _⟩ | ⟨rfl, _⟩)
        · rfl
        · exact absurd rfl (hpoint _)

theorem head?_exponent {t : Text} {n : Int} (h : ExponentForm t n) :
    ∀ c ∈ t.head?, c.isDigit = false ∧ c ≠ '.' := by
  cases h with
  | absent => simp
  | power hmark =>
      rcases hmark with rfl | rfl <;> simp

theorem head?_mantissa {whole fraction mantissa : Text} (h : MantissaForm '.' whole fraction mantissa)
    (rest : Text) : ∀ c ∈ (mantissa ++ rest).head?, c ≠ '+' ∧ c ≠ '-' := by
  cases h with
  | whole hwhole hne =>
      rw [List.head?_append_of_ne_nil _ hne]
      exact head?_ne_sign_of_digits hwhole
  | pointed hwhole =>
      cases whole with
      | nil => simp
      | cons c whole => simpa using ne_sign_of_isDigit (hwhole c List.mem_cons_self)

theorem exists_mantissa_of_span {t whole after fraction rest : Text}
    (hspan : t.span Char.isDigit = (whole, after)) (hfraction : takeFraction after = (fraction, rest))
    (hne : whole ++ fraction ≠ []) :
    ∃ mantissa, MantissaForm '.' whole fraction mantissa ∧ t = mantissa ++ rest := by
  obtain ⟨rfl, hwhole, _⟩ := span_eq_iff.mp hspan
  rcases takeFraction_eq_iff.mp hfraction with ⟨rfl, rfl, _⟩ | ⟨rfl, hdigits, _⟩
  · rw [List.append_nil] at hne
    exact ⟨whole, .whole hwhole hne, rfl⟩
  · exact ⟨whole ++ '.' :: fraction, .pointed hwhole hdigits hne, by simp⟩

/-- A mantissa is taken apart again when no digit and no point follows it. -/
theorem exists_span_of_mantissa {whole fraction mantissa rest : Text}
    (h : MantissaForm '.' whole fraction mantissa) (hrest : ∀ c ∈ rest.head?, c.isDigit = false ∧ c ≠ '.') :
    ∃ after, (mantissa ++ rest).span Char.isDigit = (whole, after)
      ∧ takeFraction after = (fraction, rest) ∧ whole ++ fraction ≠ [] := by
  have hdigit : ∀ c ∈ rest.head?, c.isDigit = false := fun c hc => (hrest c hc).1
  cases h with
  | whole hwhole hne =>
      refine ⟨rest, span_eq_iff.mpr ⟨rfl, hwhole, hdigit⟩, ?_, by rwa [List.append_nil]⟩
      exact takeFraction_eq_iff.mpr (.inl ⟨rfl, rfl, fun c hc => (hrest c hc).2⟩)
  | pointed hwhole hfraction hne =>
      refine ⟨'.' :: (fraction ++ rest), ?_, takeFraction_eq_iff.mpr (.inr ⟨rfl, hfraction, hdigit⟩), hne⟩
      rw [span_eq_iff, List.append_assoc, List.cons_append]
      exact ⟨rfl, hwhole, by simp⟩

theorem read?_eq_some_iff {t : Text} {d : Decimal} : read? t = some d ↔ NumeralForm '.' t d := by
  constructor
  · intro h
    rcases hsign : takeSign t with ⟨negative, unsigned⟩
    rcases hwhole : unsigned.span Char.isDigit with ⟨whole, afterWhole⟩
    rcases hfraction : takeFraction afterWhole with ⟨fraction, exponent⟩
    simp only [read?, hsign, hwhole, hfraction] at h
    split at h
    · exact absurd h (by simp)
    next hdigits =>
    rw [Bool.and_eq_true, List.isEmpty_iff, List.isEmpty_iff, ← List.append_eq_nil_iff] at hdigits
    obtain ⟨power, hpower, rfl⟩ := Option.map_eq_some_iff.mp h
    obtain ⟨sign, hsignForm, rfl, _⟩ := takeSign_eq_iff.mp hsign
    obtain ⟨mantissa, hmantissa, rfl⟩ := exists_mantissa_of_span hwhole hfraction hdigits
    exact .parts hsignForm hmantissa (readExponent?_eq_some_iff.mp hpower)
  · intro h
    cases h with
    | @parts sign whole fraction mantissa exponent negative power hsign hmantissa hexponent =>
        have htake : takeSign (sign ++ (mantissa ++ exponent)) = (negative, mantissa ++ exponent) :=
          takeSign_eq_iff.mpr ⟨sign, hsign, rfl, fun _ => head?_mantissa hmantissa exponent⟩
        obtain ⟨after, hspan, hfraction, hne⟩ :=
          exists_span_of_mantissa hmantissa (head?_exponent hexponent)
        have hpower := readExponent?_eq_some_iff.mpr hexponent
        have hdigits : ¬(whole.isEmpty && fraction.isEmpty) = true := by
          rwa [Bool.and_eq_true, List.isEmpty_iff, List.isEmpty_iff, ← List.append_eq_nil_iff]
        simp only [read?, htake, hspan, hfraction, hpower]
        rw [if_neg hdigits, Option.map_some]

end Decimal

/-! ### The characters of a numeral -/

/-- The characters that numerals are made of, the separator aside. -/
def isNumeralChar (c : Char) : Bool :=
  c.isDigit || c == '+' || c == '-' || c == 'e' || c == 'E'

theorem isNumeralChar_of_isDigit {c : Char} (h : c.isDigit = true) : isNumeralChar c = true := by
  simp [isNumeralChar, h]

theorem SignForm.isNumeralChar {sign : Text} {negative : Bool} (h : SignForm sign negative) :
    ∀ c ∈ sign, isNumeralChar c = true := by
  cases h with
  | absent => exact fun _ hc => absurd hc List.not_mem_nil
  | plus => exact List.forall_mem_singleton.mpr rfl
  | minus => exact List.forall_mem_singleton.mpr rfl

theorem ExponentForm.isNumeralChar {t : Text} {n : Int} (h : ExponentForm t n) :
    ∀ c ∈ t, isNumeralChar c = true := by
  cases h with
  | absent => simp
  | power hmark h =>
      cases h with
      | signed hsign hdigits =>
          intro c hc
          rcases List.mem_cons.mp hc with rfl | hc
          · rcases hmark with rfl | rfl <;> decide
          rcases List.mem_append.mp hc with hc | hc
          · exact hsign.isNumeralChar c hc
          · exact isNumeralChar_of_isDigit (hdigits c hc)

variable {point decimal : Char} {t : Text} {d : Decimal}

theorem MantissaForm.mem {whole fraction : Text} (h : MantissaForm point whole fraction t) :
    ∀ c ∈ t, isNumeralChar c = true ∨ c = point := by
  intro c hc
  cases h with
  | whole hwhole => exact .inl (isNumeralChar_of_isDigit (hwhole c hc))
  | pointed hwhole hfraction =>
      rcases List.mem_append.mp hc with hc | hc
      · exact .inl (isNumeralChar_of_isDigit (hwhole c hc))
      rcases List.mem_cons.mp hc with rfl | hc
      · exact .inr rfl
      · exact .inl (isNumeralChar_of_isDigit (hfraction c hc))

theorem NumeralForm.mem (h : NumeralForm point t d) : ∀ c ∈ t, isNumeralChar c = true ∨ c = point := by
  intro c hc
  cases h with
  | parts hsign hmantissa hexponent =>
      rcases List.mem_append.mp hc with hc | hc
      · exact .inl (hsign.isNumeralChar c hc)
      rcases List.mem_append.mp hc with hc | hc
      · exact hmantissa.mem c hc
      · exact .inl (hexponent.isNumeralChar c hc)

theorem NumeralForm.ne_nil (h : NumeralForm point t d) : t ≠ [] := by
  cases h with
  | parts _ hmantissa =>
      intro hnil
      obtain ⟨_, hrest⟩ := List.append_eq_nil_iff.mp hnil
      obtain ⟨hempty, _⟩ := List.append_eq_nil_iff.mp hrest
      cases hmantissa with
      | whole _ hne => exact hne hempty
      | pointed => simp at hempty

/-! ### The configured separator -/

/-- The text with one character for another. -/
def renamed (old new : Char) (t : Text) : Text :=
  t.map fun c => if c = old then new else c

theorem renamed_append (old new : Char) (s t : Text) :
    renamed old new (s ++ t) = renamed old new s ++ renamed old new t :=
  List.map_append

theorem renamed_cons_self (old new : Char) (t : Text) :
    renamed old new (old :: t) = new :: renamed old new t := by
  rw [renamed, List.map_cons, if_pos rfl]
  rfl

theorem renamed_of_not_mem {old : Char} (h : old ∉ t) (new : Char) : renamed old new t = t := by
  have hkept : ∀ c ∈ t, (if c = old then new else c) = id c := by
    intro c hc
    rw [if_neg (ne_of_mem_of_not_mem hc h)]
    rfl
  rw [renamed, List.map_congr_left hkept, List.map_id]

theorem NumeralForm.rename (hpoint : isNumeralChar point = false) (h : NumeralForm point t d)
    (new : Char) : NumeralForm new (renamed point new t) d := by
  have hkept : ∀ s : Text, (∀ c ∈ s, isNumeralChar c = true) → renamed point new s = s := by
    intro s hs
    refine renamed_of_not_mem (fun hmem => ?_) new
    rw [hs point hmem] at hpoint
    exact absurd hpoint (by decide)
  have hdigits : ∀ s : Text, Digits s → renamed point new s = s := fun s hs =>
    hkept s fun c hc => isNumeralChar_of_isDigit (hs c hc)
  cases h with
  | parts hsign hmantissa hexponent =>
      rw [renamed_append, renamed_append, hkept _ hsign.isNumeralChar, hkept _ hexponent.isNumeralChar]
      refine .parts hsign ?_ hexponent
      cases hmantissa with
      | whole hwhole hne =>
          rw [hdigits _ hwhole]
          exact .whole hwhole hne
      | pointed hwhole hfraction hne =>
          rw [renamed_append, renamed_cons_self, hdigits _ hwhole, hdigits _ hfraction]
          exact .pointed hwhole hfraction hne

theorem numeralForm_of_pointed (hstray : decimal ≠ '.' → '.' ∉ t)
    (h : NumeralForm '.' (pointed decimal t) d) : NumeralForm decimal t d := by
  have hback : renamed '.' decimal (pointed decimal t) = t := by
    rw [renamed, pointed, List.map_map]
    refine (List.map_congr_left fun c hc => ?_).trans (List.map_id t)
    by_cases hdecimal : c = decimal
    · simp [hdecimal]
    · have hpoint : c ≠ '.' := by
        rintro rfl
        exact hstray (Ne.symm hdecimal) hc
      simp [hdecimal, hpoint]
  have hform := h.rename (by decide) decimal
  rwa [hback] at hform

/-- A separator that occurs nowhere else in a numeral may be written as a point. -/
theorem numeralForm_iff_pointed (hdecimal : isNumeralChar decimal = false) :
    NumeralForm decimal t d ↔ (decimal ≠ '.' → '.' ∉ t) ∧ NumeralForm '.' (pointed decimal t) d := by
  constructor
  · intro h
    refine ⟨fun hne hmem => ?_, h.rename hdecimal '.'⟩
    rcases h.mem '.' hmem with hpoint | hpoint
    · exact absurd hpoint (by decide)
    · exact hne hpoint.symm
  · rintro ⟨hstray, h⟩
    exact numeralForm_of_pointed hstray h

end TypedTemplate
