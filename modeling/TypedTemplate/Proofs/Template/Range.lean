import TypedTemplate.Proofs.Number.Order
import TypedTemplate.Proofs.Number.Reading
import TypedTemplate.Proofs.Template.PresentationForm
/-!
# Ranges in writing

A range is written as two bounds around two dots: blanks, a mark where the bound is excluded, and a number or
nothing. The dots of the numbers may come close to the dots of the range, but a bound has no two dots in a
row, so the first two that meet are those of the range, and the text is split in the intended place. What is
said here goes from the written bounds to the mapping and back; every other text with two dots in a row is
refused, and the code says whether the dots are at fault or a bound.
-/

namespace TypedTemplate

/-! ### The dots of a number -/

theorem count_eq_zero_of_forall {p : Char → Bool} {t : Text} {c : Char} (h : ∀ d ∈ t, p d = true)
    (hc : p c = false) : t.count c = 0 := by
  rw [List.count_eq_zero]
  intro hmem
  rw [h c hmem] at hc
  exact absurd hc (by decide)

theorem NumeralForm.count_le_one {point : Char} {t : Text} {d : Decimal} (h : NumeralForm point t d)
    (hpoint : isNumeralChar point = false) : t.count point ≤ 1 := by
  have hdigits : ∀ s : Text, Digits s → s.count point = 0 := fun s hs =>
    count_eq_zero_of_forall (fun c hc => isNumeralChar_of_isDigit (hs c hc)) hpoint
  cases h with
  | parts hsign hmantissa hexponent =>
      rw [List.count_append, List.count_append, count_eq_zero_of_forall hsign.isNumeralChar hpoint,
        count_eq_zero_of_forall hexponent.isNumeralChar hpoint]
      cases hmantissa with
      | whole hwhole =>
          rw [hdigits _ hwhole]
          omega
      | pointed hwhole hfraction =>
          rw [List.count_append, List.count_cons_self, hdigits _ hwhole, hdigits _ hfraction]

theorem count_point_trim (t : Text) : t.trim.count '.' = t.count '.' := by
  obtain ⟨front, back, hfront, hback, ht⟩ := t.exists_eq_append_trim
  have hpoint : isBlank '.' = false := by decide
  conv_rhs => rw [ht]
  rw [List.count_append, List.count_append, count_eq_zero_of_forall hfront hpoint,
    count_eq_zero_of_forall hback hpoint]
  omega

theorem count_point_of_readNumber {decimal : Char} {t : Text} {x : Binary64}
    (h : readNumber decimal t = .ok x) : t.count '.' ≤ 1 := by
  obtain ⟨d, hd⟩ := exists_numeralForm_of_readNumber h
  rw [← count_point_trim]
  by_cases hdecimal : decimal = '.'
  · subst hdecimal
    exact hd.count_le_one (by decide)
  · have hnone : t.trim.count '.' = 0 := by
      rw [List.count_eq_zero]
      intro hmem
      rcases hd.mem '.' hmem with hchar | hchar
      · exact absurd hchar (by decide)
      · exact hdecimal hchar.symm
    omega

namespace PresentationGrammar

variable {decimal : Char} {whenOpen : Binary64}

/-! ### Bounds in writing -/

/-- The mark of an excluded bound, or none. -/
inductive MarkText : Text → Bool → Prop
  | absent : MarkText [] false
  | greater : MarkText ['>'] true
  | less : MarkText ['<'] true

/-- Nothing, for an open side, or a number. -/
inductive LimitText (decimal : Char) : Text → Option Binary64 → Prop
  | absent : LimitText decimal [] none
  | number {t : Text} {x : Binary64} (h : readNumber decimal t = .ok x) : LimitText decimal t (some x)

/-- A limit behind an optional mark, with blanks around both. -/
inductive BoundText (decimal : Char) : Text → Bool → Option Binary64 → Prop
  | parts {before mark between number after : Text} {marked : Bool} {limit : Option Binary64}
      (hbefore : before.Blanks) (hmark : MarkText mark marked) (hbetween : between.Blanks)
      (hlimit : LimitText decimal number limit) (hafter : after.Blanks) :
      BoundText decimal (before ++ (mark ++ (between ++ (number ++ after)))) marked limit

theorem BoundText.count_le_one {t : Text} {marked : Bool} {limit : Option Binary64}
    (h : BoundText decimal t marked limit) : t.count '.' ≤ 1 := by
  have hpoint : isBlank '.' = false := by decide
  cases h with
  | parts hbefore hmark hbetween hlimit hafter =>
      rw [List.count_append, List.count_append, List.count_append, List.count_append,
        count_eq_zero_of_forall hbefore hpoint, count_eq_zero_of_forall hbetween hpoint,
        count_eq_zero_of_forall hafter hpoint]
      have hmarkCount : ∀ mark : Text, MarkText mark marked → mark.count '.' = 0 := by
        intro mark hmark
        cases hmark with
        | absent => rfl
        | greater => rfl
        | less => rfl
      rw [hmarkCount _ hmark]
      cases hlimit with
      | absent => simp
      | number h => simpa using count_point_of_readNumber h

theorem BoundText.not_dots {t : Text} {marked : Bool} {limit : Option Binary64}
    (h : BoundText decimal t marked limit) : ¬['.', '.'] <:+: t := by
  intro hdots
  have htwo := hdots.sublist.count_le '.'
  have hone := h.count_le_one
  have hcount : ['.', '.'].count '.' = 2 := by decide
  omega

theorem LimitText.limitForm {t : Text} {limit : Option Binary64} (h : LimitText decimal t limit) :
    LimitForm decimal whenOpen t (limit.getD whenOpen) := by
  cases h with
  | absent => exact .blank rfl
  | number h => exact .number h

theorem limitForm_congr {s t : Text} (h : s.trim = t.trim) {x : Binary64} :
    LimitForm decimal whenOpen s x ↔ LimitForm decimal whenOpen t x := by
  rw [← limitForm_trim, h, limitForm_trim]

theorem LimitText.unmarked (hgreater : decimal ≠ '>') (hless : decimal ≠ '<') {t : Text}
    {limit : Option Binary64} (h : LimitText decimal t limit) :
    ∀ c ∈ t.trim.head?, c ≠ '>' ∧ c ≠ '<' := by
  intro c hc
  cases h with
  | absent => exact absurd hc (by simp [Text.trim, Text.trimStart, Text.trimEnd])
  | number h =>
      obtain ⟨d, hd⟩ := exists_numeralForm_of_readNumber h
      have hchar := hd.mem c (List.mem_of_mem_head? hc)
      constructor
      · rintro rfl
        exact hchar.elim (by decide) hgreater.symm
      · rintro rfl
        exact hchar.elim (by decide) hless.symm

theorem bound_of_boundText (hgreater : decimal ≠ '>') (hless : decimal ≠ '<') {t : Text} {marked : Bool}
    {limit : Option Binary64} (h : BoundText decimal t marked limit) (whenOpen : Binary64) :
    bound decimal whenOpen t = .ok (limit.getD whenOpen, marked) := by
  rw [bound_eq_ok_iff]
  cases h with
  | @parts before mark between number after _ _ hbefore hmark hbetween hlimit hafter =>
      have hinner : (between ++ (number ++ after)).trim = number.trim := by
        rw [Text.trim_blanks_append hbetween, Text.trim_append_blanks hafter]
      have hmarked : ∀ c : Char, isBlank c = false →
          (before ++ ([c] ++ (between ++ (number ++ after)))).trim
            = c :: (between ++ (number ++ after)).trimEnd := by
        intro c hc
        rw [Text.trim_blanks_append hbefore]
        exact Text.trim_append_cons [] hc _
      have hrest : LimitForm decimal whenOpen (between ++ (number ++ after)).trimEnd (limit.getD whenOpen) := by
        refine (limitForm_congr ?_).mp hlimit.limitForm
        rw [Text.trim_trimEnd, hinner]
      cases hmark with
      | absent =>
          have htrim : (before ++ ([] ++ (between ++ (number ++ after)))).trim = number.trim := by
            rw [Text.trim_blanks_append hbefore, List.nil_append, hinner]
          refine .included ?_ ((limitForm_congr htrim).mpr hlimit.limitForm)
          rw [htrim]
          exact hlimit.unmarked hgreater hless
      | greater => exact .excluded (.inl rfl) (hmarked '>' (by decide)) hrest
      | less => exact .excluded (.inr rfl) (hmarked '<' (by decide)) hrest

theorem exists_limitText_of_limitForm {t : Text} {x : Binary64} (h : LimitForm decimal whenOpen t x) :
    ∃ before number limit, before.Blanks ∧ LimitText decimal number limit ∧ t = before ++ number
      ∧ x = limit.getD whenOpen := by
  cases h with
  | blank hblank =>
      have ht : t.Blanks := by
        obtain ⟨front, back, hfront, hback, ht⟩ := t.exists_eq_append_trim
        rw [hblank, List.nil_append] at ht
        rw [ht]
        exact fun c hc => (List.mem_append.mp hc).elim (hfront c) (hback c)
      exact ⟨t, [], none, ht, .absent, (List.append_nil t).symm, rfl⟩
  | number h => exact ⟨[], t, some x, Text.blanks_nil, .number h, rfl, rfl⟩

theorem exists_boundText_of_bound {t : Text} {x : Binary64} {marked : Bool}
    (h : bound decimal whenOpen t = .ok (x, marked)) : ∃ limit, BoundText decimal t marked limit := by
  cases bound_eq_ok_iff.mp h with
  | included _ hx =>
      obtain ⟨before, number, limit, hbefore, hlimit, rfl, _⟩ := exists_limitText_of_limitForm hx
      have hparts := BoundText.parts hbefore .absent Text.blanks_nil hlimit Text.blanks_nil
      exact ⟨limit, by simpa using hparts⟩
  | @excluded mark rest _ hmark ht hx =>
      obtain ⟨front, back, hfront, hback, ht'⟩ := t.exists_eq_append_trim
      obtain ⟨before, number, limit, hbefore, hlimit, rfl, _⟩ := exists_limitText_of_limitForm hx
      have hmarkText : MarkText [mark] true := by
        rcases hmark with rfl | rfl
        · exact .greater
        · exact .less
      have hparts := BoundText.parts hfront hmarkText hbefore hlimit hback
      refine ⟨limit, ?_⟩
      rw [ht', ht]
      simpa using hparts

theorem eq_of_bound_eq_error {t : Text} {code : ErrorCode} (h : bound decimal whenOpen t = .error code) :
    code = .explicitMappingInvRngVal := by
  simp only [bound] at h
  split at h
  · exact absurd h (by simp)
  split at h
  · exact absurd h (by simp)
  · exact (Except.error.inj h).symm

theorem bound_eq_error (whenOpen : Binary64) {t : Text}
    (h : ¬∃ marked limit, BoundText decimal t marked limit) :
    bound decimal whenOpen t = .error .explicitMappingInvRngVal := by
  cases hbound : bound decimal whenOpen t with
  | ok b => exact absurd ⟨b.2, exists_boundText_of_bound hbound⟩ h
  | error code => rw [eq_of_bound_eq_error hbound]

/-! ### The dots of a range -/

theorem dots_concat_iff {t : Text} {c : Char} (hc : c ≠ '.') :
    ['.', '.'] <:+: t ++ [c] ↔ ['.', '.'] <:+: t := by
  rw [List.infix_concat_iff]
  refine ⟨fun h => h.resolve_left fun hsuffix => ?_, .inr⟩
  have hlast := hsuffix.getLast (by simp)
  simp at hlast
  exact hc hlast.symm

theorem dots_append_iff {t blanks : Text} (h : blanks.Blanks) :
    ['.', '.'] <:+: t ++ blanks ↔ ['.', '.'] <:+: t := by
  induction blanks using List.reverseRecOn with
  | nil => rw [List.append_nil]
  | append_singleton blanks c ih =>
      have hblanks : Text.Blanks blanks := fun d hd => h d (List.mem_append_left _ hd)
      have hc : c ≠ '.' := by
        rintro rfl
        exact absurd (h '.' (by simp)) (by decide)
      rw [← List.append_assoc, dots_concat_iff hc, ih hblanks]

theorem dots_point_iff {low : Text} :
    ['.', '.'] <:+: low ++ ['.'] ↔ low.getLast? = some '.' ∨ ['.', '.'] <:+: low := by
  rw [List.infix_concat_iff, List.suffix_concat_iff, List.getLast?_eq_some_iff]
  refine or_congr_left ⟨?_, ?_⟩
  · rintro (h | ⟨t, ht, hsuffix⟩)
    · exact absurd h (by simp)
    · obtain rfl : ['.'] = t := List.append_cancel_right ht
      obtain ⟨front, hfront⟩ := hsuffix
      exact ⟨front, hfront.symm⟩
  · rintro ⟨front, rfl⟩
    exact .inr ⟨['.'], rfl, front, rfl⟩

/-- The first two dots that meet are those of a range. -/
theorem exists_cut {spec : Text} (h : ['.', '.'] <:+: spec) :
    ∃ low high, spec = low ++ '.' :: '.' :: high ∧ ¬['.', '.'] <:+: low ++ ['.'] := by
  cases hcut : cutRange? spec with
  | none => exact absurd h (cutRange?_eq_none_iff.mp hcut)
  | some parts => exact ⟨parts.1, parts.2, cutRange?_eq_some_iff.mp hcut⟩

theorem bound_congr {s t : Text} (h : s.trim = t.trim) :
    bound decimal whenOpen s = bound decimal whenOpen t := by
  rw [bound, bound, h]

theorem range_congr {low low' high high' text : Text} (hlow : low.trim = low'.trim)
    (hhigh : high.trim = high'.trim) :
    range decimal low high text = range decimal low' high' text := by
  rw [range, range, bound_congr hlow, bound_congr hhigh]

/-- The dots that do not belong to the range decide; without them it is the bounds. -/
theorem valueSpec_of_cut {low high text : Text} (hlow : ¬['.', '.'] <:+: low ++ ['.']) :
    valueSpec decimal (low ++ '.' :: '.' :: high) text
      = if ['.', '.'] <:+: '.' :: high then .error .explicitMappingInvalidRange
        else range decimal low high text := by
  have hpoint : isBlank '.' = false := by decide
  obtain ⟨front, _, hfront⟩ := low.exists_eq_append_trimStart
  obtain ⟨back, hback, hhigh⟩ := high.exists_eq_trimEnd_append
  have htrim : (low ++ '.' :: '.' :: high).trim = low.trimStart ++ '.' :: '.' :: high.trimEnd := by
    have hend : Text.trimEnd ('.' :: high) = '.' :: high.trimEnd := Text.trimEnd_append_cons [] hpoint high
    rw [Text.trim_append_cons low hpoint, hend]
  have hcut : cutRange? (low ++ '.' :: '.' :: high).trim = some (low.trimStart, high.trimEnd) := by
    rw [cutRange?_eq_some_iff]
    refine ⟨htrim, fun hdots => hlow (hdots.trans ?_)⟩
    refine List.IsSuffix.isInfix ⟨front, ?_⟩
    conv_rhs => rw [hfront, List.append_assoc]
  have hcrowded : ['.', '.'] <:+: '.' :: high
      ↔ ((cutRange? high.trimEnd).isSome || high.trimEnd.head? == some '.') = true := by
    have hsame : ['.', '.'] <:+: '.' :: high ↔ ['.', '.'] <:+: '.' :: high.trimEnd := by
      conv_lhs => rw [hhigh, ← List.cons_append]
      exact dots_append_iff hback
    rw [hsame, dots_infix_cons_iff, Bool.or_eq_true, Option.isSome_iff_ne_none, Ne, cutRange?_eq_none_iff,
      not_not, beq_iff_eq, or_comm]
    simp
  simp only [valueSpec, hcut, hcrowded]
  rw [range_congr low.trim_trimStart high.trim_trimEnd]

/-! ### Ranges -/

/-- A range in writing: two bounds around two dots that touch no third one. -/
inductive RangeText (decimal : Char) :
    Text → (lowMarked highMarked : Bool) → (low high : Option Binary64) → Prop
  | parts {before after : Text} {lowMarked highMarked : Bool} {low high : Option Binary64}
      (hlow : BoundText decimal before lowMarked low) (hend : before.getLast? ≠ some '.')
      (hhigh : BoundText decimal after highMarked high) (hstart : after.head? ≠ some '.') :
      RangeText decimal (before ++ '.' :: '.' :: after) lowMarked highMarked low high

/-- The mapping between two limits; an open side is infinite. -/
def between (lowMarked highMarked : Bool) (low high : Option Binary64) (text : Text) : NumericMapping where
  min := low.getD (.infinite true)
  max := high.getD (.infinite false)
  minExcluded := lowMarked
  maxExcluded := highMarked
  text := text

variable {spec text : Text} {lowMarked highMarked : Bool} {low high : Option Binary64}

theorem valueSpec_of_rangeText (hgreater : decimal ≠ '>') (hless : decimal ≠ '<')
    (h : RangeText decimal spec lowMarked highMarked low high) (text : Text) :
    valueSpec decimal spec text
      = if (high.getD (.infinite false)).lt (low.getD (.infinite true)) then
          .error .explicitMappingInvertedRange
        else .ok (between lowMarked highMarked low high text) := by
  cases h with
  | @parts before after _ _ _ _ hlow hend hhigh hstart =>
      have hbefore : ¬['.', '.'] <:+: before ++ ['.'] := by
        rw [dots_point_iff, not_or]
        exact ⟨hend, hlow.not_dots⟩
      have hafter : ¬['.', '.'] <:+: '.' :: after := by
        rw [dots_infix_cons_iff, not_or]
        exact ⟨fun h => hstart h.2, hhigh.not_dots⟩
      rw [valueSpec_of_cut hbefore, if_neg hafter, range, bound_of_boundText hgreater hless hlow,
        bound_of_boundText hgreater hless hhigh]
      rfl

/-- What is wrong with a text that is no range in writing: behind the first two dots that meet comes a third
one or two dots again, or one of the two sides is no bound. -/
inductive RangeFault (decimal : Char) (spec : Text) : ErrorCode → Prop
  | dots {before after : Text} (hspec : spec = before ++ '.' :: '.' :: after)
      (hbefore : ¬['.', '.'] <:+: before ++ ['.']) (hafter : ['.', '.'] <:+: '.' :: after) :
      RangeFault decimal spec .explicitMappingInvalidRange
  | bound {before after : Text} (hspec : spec = before ++ '.' :: '.' :: after)
      (hbefore : ¬['.', '.'] <:+: before ++ ['.']) (hafter : ¬['.', '.'] <:+: '.' :: after)
      (hmissing : (¬∃ marked limit, BoundText decimal before marked limit)
        ∨ ¬∃ marked limit, BoundText decimal after marked limit) :
      RangeFault decimal spec .explicitMappingInvRngVal

theorem range_eq_error {before after : Text}
    (h : (¬∃ marked limit, BoundText decimal before marked limit)
      ∨ ¬∃ marked limit, BoundText decimal after marked limit) :
    range decimal before after text = .error .explicitMappingInvRngVal := by
  rw [range]
  by_cases hbefore : ∃ marked limit, BoundText decimal before marked limit
  · have hafter := h.resolve_left (not_not.mpr hbefore)
    rw [bound_eq_error _ hafter]
    cases hbound : bound decimal (.infinite true) before with
    | ok b => rfl
    | error code =>
        rw [eq_of_bound_eq_error hbound]
        rfl
  · rw [bound_eq_error _ hbefore]
    rfl

/-- A text with two dots in a row is a range in writing, or it is refused for a fault. -/
theorem exists_rangeFault (hdots : ['.', '.'] <:+: spec)
    (h : ¬∃ lowMarked highMarked low high, RangeText decimal spec lowMarked highMarked low high)
    (text : Text) : ∃ code, RangeFault decimal spec code ∧ valueSpec decimal spec text = .error code := by
  obtain ⟨before, after, rfl, hbefore⟩ := exists_cut hdots
  rw [valueSpec_of_cut hbefore]
  by_cases hafter : ['.', '.'] <:+: '.' :: after
  · exact ⟨_, .dots rfl hbefore hafter, if_pos hafter⟩
  · have hmissing : (¬∃ marked limit, BoundText decimal before marked limit)
        ∨ ¬∃ marked limit, BoundText decimal after marked limit := by
      by_contra hboth
      rw [not_or, not_not, not_not] at hboth
      obtain ⟨⟨lowMarked, low, hlow⟩, highMarked, high, hhigh⟩ := hboth
      have hend := (not_or.mp (mt dots_point_iff.mpr hbefore)).1
      have hstart := (not_or.mp (mt dots_infix_cons_iff.mpr hafter)).1
      exact h ⟨_, _, _, _, .parts hlow hend hhigh fun hhead => hstart ⟨rfl, hhead⟩⟩
    rw [if_neg hafter]
    exact ⟨_, .bound rfl hbefore hafter hmissing, range_eq_error hmissing⟩

/-! ### What a range matches -/

/-- A value lies between two others, strictly on the marked sides. -/
def Within (lowMarked highMarked : Bool) (low high v : WithBot (WithTop ℚ)) : Prop :=
  (if lowMarked then low < v else low ≤ v) ∧ if highMarked then v < high else v ≤ high

theorem matches_iff_within {m : NumericMapping} {a b : WithBot (WithTop ℚ)}
    (hmin : m.min.extended? = some a) (hmax : m.max.extended? = some b) (x : Binary64) :
    m.matches? x = true
      ↔ ∃ v, x.extended? = some v ∧ Within m.minExcluded m.maxExcluded a b v := by
  have hlow : (if m.minExcluded then m.min.lt x else m.min.le x) = true
      ↔ ∃ v, x.extended? = some v ∧ if m.minExcluded then a < v else a ≤ v := by
    split
    · simp [Binary64.lt_iff, hmin]
    · simp [Binary64.le_iff, hmin]
  have hhigh : (if m.maxExcluded then x.lt m.max else x.le m.max) = true
      ↔ ∃ v, x.extended? = some v ∧ if m.maxExcluded then v < b else v ≤ b := by
    split
    · simp [Binary64.lt_iff, hmax]
    · simp [Binary64.le_iff, hmax]
  rw [NumericMapping.matches?, Bool.and_eq_true, hlow, hhigh]
  constructor
  · rintro ⟨⟨v, hv, hbelow⟩, w, hw, habove⟩
    obtain rfl := Option.some.inj (hv.symm.trans hw)
    exact ⟨v, hv, hbelow, habove⟩
  · rintro ⟨v, hv, hbelow, habove⟩
    exact ⟨⟨v, hv, hbelow⟩, v, hv, habove⟩

/-- How a text with two dots in a row is read: a range in writing by its bounds, and any other text not at
all. -/
structure ReadsRange (decimal : Char) (spec text : Text) : Prop where
  written : ∀ lowMarked highMarked low high, RangeText decimal spec lowMarked highMarked low high →
    ∃ a b, (low.getD (.infinite true)).extended? = some a
      ∧ (high.getD (.infinite false)).extended? = some b
      ∧ (a ≤ b → valueSpec decimal spec text = .ok (between lowMarked highMarked low high text))
      ∧ (b < a → valueSpec decimal spec text = .error .explicitMappingInvertedRange)
      ∧ ∀ x, (between lowMarked highMarked low high text).matches? x = true
        ↔ ∃ v, x.extended? = some v ∧ Within lowMarked highMarked a b v
  accepted : ['.', '.'] <:+: spec → ∀ m, valueSpec decimal spec text = .ok m →
    ∃ lowMarked highMarked low high, RangeText decimal spec lowMarked highMarked low high
      ∧ m = between lowMarked highMarked low high text
  refused : ['.', '.'] <:+: spec →
    (¬∃ lowMarked highMarked low high, RangeText decimal spec lowMarked highMarked low high) →
    ∃ code, RangeFault decimal spec code ∧ valueSpec decimal spec text = .error code

theorem BoundText.exists_extended (hgreater : decimal ≠ '>') (hless : decimal ≠ '<') {t : Text}
    {marked : Bool} {limit : Option Binary64} (h : BoundText decimal t marked limit)
    (hopen : whenOpen ≠ .nan) : ∃ a, (limit.getD whenOpen).extended? = some a := by
  have hnan := (bound_eq_ok_iff.mp (bound_of_boundText hgreater hless h whenOpen)).ne_nan hopen
  cases hx : limit.getD whenOpen with
  | nan => exact absurd hx hnan
  | infinite s => exact ⟨_, rfl⟩
  | finite s u hu => exact ⟨_, rfl⟩

/-- Ranges are read as they are written, and nothing else with two dots in a row is read. -/
theorem readsRange (hgreater : decimal ≠ '>') (hless : decimal ≠ '<') (spec text : Text) :
    ReadsRange decimal spec text := by
  constructor
  case written =>
    intro lowMarked highMarked low high h
    have hvalue := valueSpec_of_rangeText hgreater hless h text
    obtain ⟨a, ha, b, hb⟩ : ∃ a, (low.getD (.infinite true)).extended? = some a
        ∧ ∃ b, (high.getD (.infinite false)).extended? = some b := by
      cases h with
      | parts hlow _ hhigh =>
          obtain ⟨a, ha⟩ := hlow.exists_extended hgreater hless (by simp : Binary64.infinite true ≠ .nan)
          obtain ⟨b, hb⟩ := hhigh.exists_extended hgreater hless (by simp : Binary64.infinite false ≠ .nan)
          exact ⟨a, ha, b, hb⟩
    have hinverted : (high.getD (.infinite false)).lt (low.getD (.infinite true)) = true ↔ b < a := by
      simp [Binary64.lt_iff, ha, hb]
    refine ⟨a, b, ha, hb, fun hle => ?_, fun hlt => ?_, matches_iff_within ha hb⟩
    · rw [hvalue, if_neg (mt hinverted.mp (not_lt.mpr hle))]
    · rw [hvalue, if_pos (hinverted.mpr hlt)]
  case accepted =>
    intro hdots m hread
    by_cases hexists : ∃ lowMarked highMarked low high,
      RangeText decimal spec lowMarked highMarked low high
    · obtain ⟨lowMarked, highMarked, low, high, h⟩ := hexists
      rw [valueSpec_of_rangeText hgreater hless h text] at hread
      split at hread
      · exact absurd hread (by simp)
      · exact ⟨_, _, _, _, h, (Except.ok.inj hread).symm⟩
    · obtain ⟨code, _, herror⟩ := exists_rangeFault hdots hexists text
      exact absurd (hread.symm.trans herror) (by simp)
  case refused =>
    intro hdots hnone
    exact exists_rangeFault hdots hnone text

/-- The dots of the numbers stand next to those of the range, apart from a blank, and both sides are
excluded. -/
theorem readsRange_of_touching_dots :
    let spec := " < .5.. <2. ".toList
    let text := "small".toList
    '.' ≠ '>' ∧ '.' ≠ '<' ∧ ReadsRange '.' spec text
      ∧ valueSpec '.' spec text
        = .ok (between true true (some (.ofNat 1 / .ofNat 2)) (some (.ofNat 2)) text) := by
  intro spec text
  have hgreater : '.' ≠ '>' := by decide
  have hless : '.' ≠ '<' := by decide
  exact ⟨hgreater, hless, readsRange hgreater hless spec text, by decide +kernel⟩

end PresentationGrammar

end TypedTemplate
