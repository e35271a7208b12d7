import TypedTemplate.Number.Format
import TypedTemplate.Proofs.Number.ReadBack
/-!
# Digits in groups

A number in a grouped format is its fixed-point text with separators put between the digits before the
decimals. The digits are cut into blocks of three from the end, whatever their count is and whatever the sign
and the decimals are, and `groupDigits` walks them from the front: a separator follows a digit where the count
of the digits left is a multiple of three. The blocks are what the induction carries; that deleting the
separators gives the digits back, and that splitting at them gives the blocks back, is read off from there.
-/

namespace TypedTemplate

/-- Digits in blocks with `group` between them: one to three digits in the first block and three in every
other one. -/
structure Blocks (group whole first : Text) (others : List Text) : Prop where
  eq_append : whole = first ++ others.flatMap (group ++ ·)
  digits : ∀ block ∈ first :: others, Digits block
  length_first : 1 ≤ first.length ∧ first.length ≤ 3
  length_others : ∀ block ∈ others, block.length = 3

/-- Digits that split at the group separator into blocks, and into a single one without a separator. -/
inductive Grouped : (group whole : Text) → Prop
  | single {whole : Text} (hdigits : Digits whole) (hne : whole ≠ []) : Grouped [] whole
  | blocks {separator : Char} {whole first : Text} {others : List Text}
      (hsplit : whole.split separator = (first, others)) (hblocks : Blocks [separator] whole first others) :
      Grouped [separator] whole

variable {group whole first digits : Text} {others : List Text}

/-! ### Blocks -/

theorem digits_cons {c : Char} (hc : c.isDigit = true) (ht : Digits digits) : Digits (c :: digits) :=
  List.forall_mem_cons.mpr ⟨hc, ht⟩

theorem Digits.of_cons {c : Char} (h : Digits (c :: digits)) : c.isDigit = true ∧ Digits digits :=
  List.forall_mem_cons.mp h

theorem not_mem_of_digits {c : Char} (hc : c.isDigit = false) (h : Digits digits) : c ∉ digits := by
  intro hmem
  rw [h c hmem] at hc
  exact absurd hc (by decide)

/-- The digits are cut into blocks from the end, so their count fixes the length of the first block. -/
theorem exists_blocks (group : Text) (hdigits : Digits digits) (hne : digits ≠ []) :
    ∃ first others, Blocks group (Numeral.groupDigits group digits) first others
      ∧ first.length = (digits.length - 1) % 3 + 1 ∧ first ++ others.flatten = digits := by
  induction digits with
  | nil => exact absurd rfl hne
  | cons d rest ih =>
      obtain ⟨hd, hrest⟩ := hdigits.of_cons
      by_cases hlast : rest = []
      · subst hlast
        refine ⟨[d], [], ⟨by simp [Numeral.groupDigits], ?_, by simp, by simp⟩, rfl, rfl⟩
        exact List.forall_mem_singleton.mpr (digits_cons hd digits_nil)
      have hpos : 0 < rest.length := List.length_pos_of_ne_nil hlast
      obtain ⟨first, others, hblocks, hlength, hflatten⟩ := ih hrest hlast
      by_cases hgroup : rest.length % 3 = 0
      · -- a separator follows the digit, and the first block behind it is full
        refine ⟨[d], first :: others, ⟨?_, ?_, by simp, ?_⟩, ?_, ?_⟩
        · rw [Numeral.groupDigits, if_pos ⟨hgroup, hlast⟩, hblocks.eq_append]
          simp
        · exact List.forall_mem_cons.mpr ⟨digits_cons hd digits_nil, hblocks.digits⟩
        · refine List.forall_mem_cons.mpr ⟨?_, hblocks.length_others⟩
          omega
        · rw [List.length_singleton, List.length_cons]
          omega
        · rw [List.flatten_cons, hflatten]
          rfl
      · -- the digit joins the first block, which still has room
        have hdigits' := List.forall_mem_cons.mp hblocks.digits
        refine ⟨d :: first, others, ⟨?_, ?_, ?_, hblocks.length_others⟩, ?_, ?_⟩
        · rw [Numeral.groupDigits, if_neg (fun h => hgroup h.1), hblocks.eq_append]
          rfl
        · exact List.forall_mem_cons.mpr ⟨digits_cons hd hdigits'.1, hdigits'.2⟩
        · rw [List.length_cons]
          omega
        · rw [List.length_cons, List.length_cons]
          omega
        · rw [List.cons_append, hflatten]

namespace Blocks

variable {separator : Char}

theorem ne_nil (h : Blocks group whole first others) : whole ≠ [] := by
  have hfirst := h.length_first
  rw [h.eq_append]
  apply List.append_ne_nil_of_left_ne_nil
  rw [← List.length_pos_iff]
  omega

theorem isDigit_or_mem (h : Blocks group whole first others) {c : Char} (hc : c ∈ whole) :
    c.isDigit = true ∨ c ∈ group := by
  obtain ⟨hfirst, hothers⟩ := List.forall_mem_cons.mp h.digits
  rw [h.eq_append, List.mem_append, List.mem_flatMap] at hc
  obtain hc | ⟨block, hblock, hc⟩ := hc
  · exact .inl (hfirst c hc)
  · exact (List.mem_append.mp hc).symm.imp_left (hothers block hblock c)

theorem split_eq (h : Blocks [separator] whole first others) (hseparator : separator.isDigit = false) :
    whole.split separator = (first, others) := by
  apply Text.split_eq_iff.mpr
  refine ⟨h.eq_append, ?_⟩
  intro block hblock
  exact not_mem_of_digits hseparator (h.digits block hblock)

end Blocks

theorem filter_of_digits (hgroup : ∀ c ∈ group, c.isDigit = false) (h : Digits digits) :
    digits.filter (· ∉ group) = digits := by
  apply List.filter_eq_self.mpr
  intro c hc
  rw [decide_eq_true_iff]
  intro hmem
  exact not_mem_of_digits (hgroup c hmem) h hc

theorem filter_flatMap_append (hgroup : ∀ c ∈ group, c.isDigit = false)
    (hothers : ∀ block ∈ others, Digits block) :
    (others.flatMap (group ++ ·)).filter (· ∉ group) = others.flatten := by
  have hnone : group.filter (· ∉ group) = [] := by
    apply List.filter_eq_nil_iff.mpr
    simp
  induction others with
  | nil => rfl
  | cons block others ih =>
      obtain ⟨hblock, hrest⟩ := List.forall_mem_cons.mp hothers
      rw [List.flatMap_cons, List.filter_append, List.filter_append, hnone, filter_of_digits hgroup hblock,
        ih hrest, List.flatten_cons]
      rfl

theorem Blocks.filter_eq (h : Blocks group whole first others) (hgroup : ∀ c ∈ group, c.isDigit = false) :
    whole.filter (· ∉ group) = first ++ others.flatten := by
  obtain ⟨hfirst, hothers⟩ := List.forall_mem_cons.mp h.digits
  rw [h.eq_append, List.filter_append, filter_of_digits hgroup hfirst, filter_flatMap_append hgroup hothers]

theorem Blocks.grouped (h : Blocks group whole first others)
    (hgroup : group = [] ∨ ∃ separator, group = [separator] ∧ separator.isDigit = false) :
    Grouped group whole := by
  obtain rfl | ⟨separator, rfl, hseparator⟩ := hgroup
  · refine .single ?_ h.ne_nil
    intro c hc
    exact (h.isDigit_or_mem hc).resolve_right List.not_mem_nil
  · exact .blocks (h.split_eq hseparator) h

/-! ### Fixed-point numerals -/

namespace Binary64

theorem digital_fixed {x : Binary64} (hx : x.isFinite = true) (places : Nat) :
    (x.fixed places).Digital ∧ (x.fixed places).fraction.length = places := by
  cases x with
  | nan | infinite => exact absurd hx (by simp [isFinite])
  | finite s u h =>
      exact ⟨⟨digits_toDigits _, Nat.toDigits_ne_nil, digits_fixedDigits _ _⟩, length_fixedDigits _ _⟩

end Binary64

/-- The decimals of a numeral behind their separator; without decimals there is none. -/
def Numeral.tail (decimal : Text) (n : Numeral) : Text :=
  if n.fraction = [] then [] else decimal ++ n.fraction

theorem Numeral.write_eq (group decimal : Text) (n : Numeral) :
    n.write group decimal = n.sign ++ (groupDigits group n.whole ++ n.tail decimal) := by
  simp [write, sign, tail]

theorem Numeral.sign_eq (n : Numeral) : n.sign = [] ∨ n.sign = ['-'] := by
  rw [sign]
  split
  · exact .inr rfl
  · exact .inl rfl

/-- Deleting a group separator that occurs nowhere else undoes the grouping. -/
theorem Numeral.Digital.filter_write {n : Numeral} (h : n.Digital) {decimal : Text}
    (hgroup : ∀ c ∈ group, c.isDigit = false) (hminus : '-' ∉ group) (hdecimal : ∀ c ∈ decimal, c ∉ group) :
    (n.write group decimal).filter (· ∉ group) = n.write [] decimal := by
  obtain ⟨first, others, hblocks, _, hflatten⟩ := exists_blocks group h.whole h.whole_ne_nil
  have hsign : n.sign.filter (· ∉ group) = n.sign := by
    rcases n.sign_eq with heq | heq
    · rw [heq]
      rfl
    · rw [heq]
      simp [hminus]
  have htail : (n.tail decimal).filter (· ∉ group) = n.tail decimal := by
    have hpoint : decimal.filter (· ∉ group) = decimal := by
      apply List.filter_eq_self.mpr
      simpa using hdecimal
    rw [tail]
    split
    · rfl
    · rw [List.filter_append, hpoint, filter_of_digits hgroup h.fraction]
  rw [write_eq, write_eq, List.filter_append, List.filter_append, hsign, htail, hblocks.filter_eq hgroup,
    hflatten, groupDigits_nil]

/-! ### Formats -/

/-- The precision that a digit behind the letter gives. -/
def precisionOf (digit : Option Char) : Option Nat :=
  digit.map fun c => c.toNat - '0'.toNat

theorem NumberFormat.ofText_cons (letter : Char) {digit : Option Char}
    (hdigit : ∀ c ∈ digit, c.isDigit = true) :
    ofText (letter :: digit.toList) = ⟨styleOf letter, precisionOf digit⟩ := by
  cases digit with
  | none => rfl
  | some c =>
      have hc : c.isDigit = true := hdigit c rfl
      simp [ofText, precisionOf, hc]

theorem formatReal_of_isFinite {x : Binary64} (hx : x.isFinite = true) (format : Text)
    (separators : Separators) :
    formatReal x format separators = (NumberFormat.ofText format).write separators x := by
  cases x with
  | nan | infinite => exact absurd hx (by simp [Binary64.isFinite])
  | finite => rfl

/-- What grouping does to a number in fixed-point: separators come in between the digits before the decimals,
and nothing else changes. -/
structure GroupsDigits (x : Binary64) (digit : Option Char) (separators : Separators) : Prop where
  filter_eq : (formatReal x ('N' :: digit.toList) separators).filter (· ∉ separators.group)
    = formatReal x ('F' :: digit.toList) separators
  parts : ∃ sign whole decimals,
    formatReal x ('N' :: digit.toList) separators
        = sign ++ (whole ++ if decimals = [] then [] else separators.decimal ++ decimals)
      ∧ (sign = [] ∨ sign = ['-']) ∧ Grouped separators.group whole ∧ (∀ c ∈ separators.decimal, c ∉ whole)
      ∧ Digits decimals ∧ (∀ c ∈ separators.group, c ∉ decimals)
      ∧ decimals.length = (precisionOf digit).getD defaultDecimals

/-- Whatever the number and its precision are, grouping inserts separators at every third digit before the
decimals. -/
theorem groupsDigits {x : Binary64} (hx : x.isFinite = true) {digit : Option Char}
    (hdigit : ∀ c ∈ digit, c.isDigit = true) {separators : Separators} {decimal : Char}
    (hdecimal : separators.decimal = [decimal]) (hdecimalDigit : decimal.isDigit = false)
    (hgroup : separators.group = []
      ∨ ∃ g, separators.group = [g] ∧ g ≠ decimal ∧ g ≠ '-' ∧ g.isDigit = false) :
    GroupsDigits x digit separators := by
  obtain ⟨hdigital, hlength⟩ := x.digital_fixed hx ((precisionOf digit).getD defaultDecimals)
  have hgroupDigits : ∀ c ∈ separators.group, c.isDigit = false := by
    obtain hnone | ⟨g, hg, _, _, hgdigit⟩ := hgroup
    · simp [hnone]
    · simpa [hg] using hgdigit
  have hminus : '-' ∉ separators.group := by
    obtain hnone | ⟨g, hg, _, hgminus, _⟩ := hgroup
    · simp [hnone]
    · simpa [hg] using hgminus.symm
  have hapart : decimal ∉ separators.group := by
    obtain hnone | ⟨g, hg, hne, _⟩ := hgroup
    · simp [hnone]
    · simpa [hg] using hne.symm
  have hfixed : formatReal x ('F' :: digit.toList) separators
      = (x.fixed ((precisionOf digit).getD defaultDecimals)).write [] separators.decimal := by
    rw [formatReal_of_isFinite hx, NumberFormat.ofText_cons 'F' hdigit]
    rfl
  have hgrouped : formatReal x ('N' :: digit.toList) separators
      = (x.fixed ((precisionOf digit).getD defaultDecimals)).write separators.group separators.decimal := by
    rw [formatReal_of_isFinite hx, NumberFormat.ofText_cons 'N' hdigit]
    rfl
  constructor
  case filter_eq =>
    rw [hfixed, hgrouped]
    apply hdigital.filter_write hgroupDigits hminus
    simpa [hdecimal] using hapart
  case parts =>
    obtain ⟨first, others, hblocks, _, _⟩ :=
      exists_blocks separators.group hdigital.whole hdigital.whole_ne_nil
    refine ⟨_, _, _, hgrouped.trans (Numeral.write_eq _ _ _), Numeral.sign_eq _, ?_, ?_, hdigital.fraction,
      fun c hc => not_mem_of_digits (hgroupDigits c hc) hdigital.fraction, hlength⟩
    · apply hblocks.grouped
      exact hgroup.imp_right fun ⟨g, hg, _, _, hgdigit⟩ => ⟨g, hg, hgdigit⟩
    · rw [hdecimal, List.forall_mem_singleton]
      intro hmem
      rcases hblocks.isDigit_or_mem hmem with hc | hc
      · rw [hc] at hdecimalDigit
        exact absurd hdecimalDigit (by decide)
      · exact hapart hc

/-- A negative number whose digits before the decimals are a multiple of three, and a minus for the decimal
separator. -/
theorem groupsDigits_of_odd_separators :
    let x : Binary64 := .ofInt (-4937285) / .ofNat 8
    let separators : Separators := { group := ['_'], decimal := ['-'] }
    x.isFinite = true ∧ GroupsDigits x (some '1') separators
      ∧ formatReal x "N1".toList separators = "-617_160-6".toList := by
  intro x separators
  have hx : x.isFinite = true := by decide +kernel
  refine ⟨hx, groupsDigits hx ?_ rfl ?_ (.inr ⟨'_', rfl, ?_, ?_, ?_⟩), by decide +kernel⟩
  · intro c hc
    obtain rfl := Option.some.inj hc
    decide
  all_goals decide

end TypedTemplate
