import TypedTemplate.Proofs.Template.NumericMappings
import TypedTemplate.Proofs.Template.Styling
import TypedTemplate.Template.Rendering
/-!
# Well-formed presentations

A presentation that was read is well-formed for the kind it was read for: it has the format of that kind
and no mappings of another, its mappings are absent or there are some, and every range among them has its
bounds in order, with an infinite one only on the side that was left open. Each of the forms gives one part
of this, from the bounds up. A reference that shows a variable as it was declared takes its presentation
from another placeholder, maybe of another template; there it is `Session.Styled` that carries what was
read. What a renderer relies on follows from the shape alone: when there is something to show besides a
bare letter, and that the two truth values never look the same.
-/

namespace TypedTemplate

/-! ### What is well-formed -/

/-- The bounds of a mapping are in order, and only the side that was left open is infinite. -/
structure NumericMapping.WellFormed (m : NumericMapping) : Prop where
  ne_nan : m.min ≠ .nan ∧ m.max ≠ .nan
  min_finite_or_open : m.min.isFinite = true ∨ m.min = .infinite true
  max_finite_or_open : m.max.isFinite = true ∨ m.max = .infinite false
  min_le_max : m.min.le m.max = true

namespace Presentation

/-- The texts of the truth values: different ones, for exactly zero and one. -/
def HasFlagTexts (p : Presentation) : Prop :=
  ∃ zero one off on, zero.IsNat 0 ∧ one.IsNat 1
    ∧ p.numericMappings = some [.exact zero off, .exact one on] ∧ '=' ∉ off ∧ '=' ∉ on ∧ off ≠ on

/-- What a kind asks of the format and of the mappings it allows. -/
def Suits (p : Presentation) : Kind → Prop
  | .bool => p.format = [] ∧ p.textMappings = none ∧ (p.numericMappings = none ∨ p.HasFlagTexts)
  | .integer => p.format = ['D'] ∧ p.textMappings = none
  | .number =>
    (∃ letter ∈ Kind.number.letters, ∃ digit : Option Char, (∀ c ∈ digit, c.isDigit = true)
      ∧ p.format = letter :: digit.toList) ∧ p.textMappings = none
  | .text =>
    p.format = [] ∧ p.numericMappings = none
      ∧ ∀ m ∈ p.textMappings.getD [], m.pattern ≠ [] ∧ '=' ∉ m.pattern ∧ '=' ∉ m.replacement

/-- A presentation as a placeholder of a kind may have it. -/
structure WellFormed (p : Presentation) (kind : Kind) : Prop where
  suits : p.Suits kind
  numericMappings_ne_nil : p.numericMappings ≠ some []
  textMappings_ne_nil : p.textMappings ≠ some []
  numericMappings : ∀ m ∈ p.numericMappings.getD [], m.WellFormed

/-- The format says how many digits are shown. -/
def HasPrecision (p : Presentation) : Prop :=
  ∃ letter digit, p.format = [letter, digit] ∧ digit.isDigit = true

def HasMapping (p : Presentation) : Prop :=
  (∃ m, m ∈ p.numericMappings.getD []) ∨ ∃ m, m ∈ p.textMappings.getD []

end Presentation

/-- A token that shows true and false as two different texts, whichever input its variable is bound to. -/
def Token.TellsFlags (token : Token) : Prop :=
  ∀ (binding : Variable → Option Handle) (v : Variable) (h : Handle) (on off : InputBank)
    (separators : Separators), token.shown? = some v → binding v = some h →
      on.value h = some (.bool true) → off.value h = some (.bool false) →
      ∃ yes no, renderToken on separators (token.bind binding) = .ok yes
        ∧ renderToken off separators (token.bind binding) = .ok no ∧ yes ≠ no

/-- A token with a presentation that is well-formed for its kind, and what a renderer gets from that. -/
structure Token.WellPresented (token : Token) (kind : Kind) (p : Presentation) : Prop where
  wellFormed : p.WellFormed kind
  isFormatted_iff : p.isFormatted = true ↔ p.HasPrecision ∨ p.HasMapping
  tellsFlags : kind = .bool → token.TellsFlags

/-! ### Bounds -/

namespace Binary64

theorem ne_nan_of_isFinite {x : Binary64} (hx : x.isFinite = true) : x ≠ .nan := by
  rintro rfl
  exact absurd hx (by decide)

theorem le_refl_of_isFinite {x : Binary64} (hx : x.isFinite = true) : x.le x = true := by
  cases x with
  | nan | infinite => exact absurd hx (by simp [isFinite])
  | finite => simp [le]

theorem IsNat.isFinite {x : Binary64} {n : Nat} (hx : x.IsNat n) : x.isFinite = true := by
  obtain ⟨_, rfl⟩ := hx
  rfl

theorem IsNat.le_iff {x y : Binary64} {m n : Nat} (hx : x.IsNat m) (hy : y.IsNat n) :
    x.le y = true ↔ m ≤ n := by
  obtain ⟨_, rfl⟩ := hx
  obtain ⟨_, rfl⟩ := hy
  have hone : 0 < one := Nat.two_pow_pos _
  rw [le, decide_eq_true_iff]
  simp only [signed, Bool.false_eq_true, if_false]
  rw [Int.ofNat_le]
  exact Nat.mul_le_mul_right_iff hone

end Binary64

theorem isNat_flagNumber (flag : Bool) : (flagNumber flag).IsNat (if flag then 1 else 0) := by
  cases flag with
  | false => exact Binary64.isNat_ofNat (Nat.zero_le _)
  | true => exact Binary64.isNat_ofNat Nat.one_le_two_pow

theorem NumericMapping.wellFormed_exact {x : Binary64} (hx : x.isFinite = true) (text : Text) :
    (exact x text).WellFormed where
  ne_nan := ⟨Binary64.ne_nan_of_isFinite hx, Binary64.ne_nan_of_isFinite hx⟩
  min_finite_or_open := .inl hx
  max_finite_or_open := .inl hx
  min_le_max := Binary64.le_refl_of_isFinite hx

namespace PresentationGrammar

variable {decimal : Char} {whenOpen : Binary64}

theorem LimitForm.isFinite_or_eq {t : Text} {x : Binary64} (h : LimitForm decimal whenOpen t x) :
    x.isFinite = true ∨ x = whenOpen := by
  cases h with
  | blank => exact .inr rfl
  | number h => exact .inl (isFinite_of_readNumber h)

theorem BoundForm.isFinite_or_eq {t : Text} {x : Binary64} {excluded : Bool}
    (h : BoundForm decimal whenOpen t (x, excluded)) : x.isFinite = true ∨ x = whenOpen := by
  cases h with
  | included _ hx => exact hx.isFinite_or_eq
  | excluded _ _ hx => exact hx.isFinite_or_eq

/-! ### Mappings -/

theorem ValueForm.wellFormed {spec text : Text} {m : NumericMapping} (h : ValueForm decimal spec text m) :
    m.WellFormed := by
  cases h with
  | exact _ hx => exact NumericMapping.wellFormed_exact (isFinite_of_readNumber hx) text
  | range _ _ _ hmin hmax hle =>
      exact
        { ne_nan := ⟨hmin.ne_nan (by simp), hmax.ne_nan (by simp)⟩
          min_finite_or_open := hmin.isFinite_or_eq
          max_finite_or_open := hmax.isFinite_or_eq
          min_le_max := hle }

theorem wellFormed_of_mem_numbered {index : Nat} {items : List Text} {m : NumericMapping}
    (hm : m ∈ numbered index items) : m.WellFormed := by
  obtain ⟨⟨item, i⟩, _, rfl⟩ := List.mem_map.mp hm
  exact NumericMapping.wellFormed_exact (isNat_implicitNumber i).isFinite item

theorem NumericForm.wellFormed {allowImplicit : Bool} {items : List Text} {ms : List NumericMapping}
    (h : NumericForm allowImplicit decimal items ms) {m : NumericMapping} (hm : m ∈ ms) : m.WellFormed := by
  cases h with
  | implicit => exact wellFormed_of_mem_numbered hm
  | explicit hitems =>
      -- the item that the mapping was read from says what it stands for
      obtain ⟨i, hi⟩ := List.getElem?_of_mem hm
      obtain ⟨_, _, _, _, _, hvalue⟩ := exists_getElem?_of_forall₂ hitems hi
      exact hvalue.wellFormed

theorem NumericForm.length_eq {allowImplicit : Bool} {items : List Text} {ms : List NumericMapping}
    (h : NumericForm allowImplicit decimal items ms) : ms.length = items.length := by
  cases h with
  | implicit => simp [numbered]
  | explicit hitems => exact hitems.length_eq.symm

theorem OptionalForm.ne_some_nil {α : Type} {form : List Text → List α → Prop} {items : List Text}
    {ms : Option (List α)} (h : OptionalForm form items ms)
    (hlength : ∀ {l}, form items l → l.length = items.length) : ms ≠ some [] := by
  cases h with
  | absent => exact nofun
  | present hitems h =>
      rintro ⟨⟩
      exact hitems (List.length_eq_zero_iff.mp (hlength h).symm)

theorem OptionalForm.form_of_mem {α : Type} {form : List Text → List α → Prop} {items : List Text}
    {ms : Option (List α)} (h : OptionalForm form items ms) {m : α} (hm : m ∈ ms.getD []) :
    form items (ms.getD []) := by
  cases h with
  | absent => exact absurd hm List.not_mem_nil
  | present _ h => exact h

/-! ### Presentations -/

theorem FlagForm.wellFormed {off on : Text} {p : Presentation} (h : FlagForm off on p) :
    p.WellFormed .bool := by
  have hzero : (Binary64.ofNat 0).IsNat 0 := isNat_flagNumber false
  have hone : (Binary64.ofNat 1).IsNat 1 := isNat_flagNumber true
  cases h with
  | texts hoff hon hne =>
      exact
        { suits := ⟨rfl, rfl, .inr ⟨_, _, off, on, hzero, hone, rfl, hoff, hon, hne⟩⟩
          numericMappings_ne_nil := by simp
          textMappings_ne_nil := nofun
          numericMappings := List.forall_mem_cons.mpr
            ⟨NumericMapping.wellFormed_exact hzero.isFinite off,
              List.forall_mem_singleton.mpr (NumericMapping.wellFormed_exact hone.isFinite on)⟩ }

theorem Form.wellFormed {kind : Kind} {letter : Char} {rest : Text} {items : List Text} {p : Presentation}
    (hletter : letter ∈ kind.letters) (h : Form decimal kind (letter :: rest) items p) :
    p.WellFormed kind := by
  cases h with
  | flag =>
      exact
        { suits := ⟨rfl, rfl, .inl rfl⟩
          numericMappings_ne_nil := nofun
          textMappings_ne_nil := nofun
          numericMappings := fun _ hm => absurd hm List.not_mem_nil }
  | glyphs _ h => exact h.wellFormed
  | flagTexts _ h => exact h.wellFormed
  | integer _ h =>
      exact
        { suits := ⟨rfl, rfl⟩
          numericMappings_ne_nil := h.ne_some_nil NumericForm.length_eq
          textMappings_ne_nil := nofun
          numericMappings := fun _ hm => (h.form_of_mem hm).wellFormed hm }
  | number _ hdigit h =>
      exact
        { suits := ⟨⟨letter, hletter, _, hdigit, rfl⟩, rfl⟩
          numericMappings_ne_nil := h.ne_some_nil NumericForm.length_eq
          textMappings_ne_nil := nofun
          numericMappings := fun _ hm => (h.form_of_mem hm).wellFormed hm }
  | text _ h =>
      refine
        { suits := ⟨rfl, rfl, fun m hm => ?_⟩
          numericMappings_ne_nil := nofun
          textMappings_ne_nil := h.ne_some_nil fun hitems => hitems.length_eq.symm
          numericMappings := fun _ hm => absurd hm List.not_mem_nil }
      obtain ⟨i, hi⟩ := List.getElem?_of_mem hm
      obtain ⟨_, _, hassigns, hpattern⟩ := exists_getElem?_of_forall₂ (h.form_of_mem hm) hi
      exact ⟨hpattern, hassigns.2⟩

end PresentationGrammar

theorem Presentation.WrittenFor.wellFormed {p : Presentation} {decimal : Char} {kind : Kind}
    (h : p.WrittenFor decimal kind) : p.WellFormed kind := by
  obtain ⟨_, _, letter, rest, items, _, _, hletter, hform⟩ := h
  exact hform.wellFormed hletter

/-! ### What a renderer relies on -/

namespace Presentation

variable {p : Presentation}

/-- A format of more than one character ends in a digit, whatever the kind. -/
theorem WellFormed.hasPrecision_iff {kind : Kind} (h : p.WellFormed kind) :
    1 < p.format.length ↔ p.HasPrecision := by
  constructor
  · intro hlength
    cases kind with
    | number =>
        obtain ⟨letter, _, digit, hdigit, hformat⟩ := h.suits.1
        cases digit with
        | none => simp [hformat] at hlength
        | some digit => exact ⟨letter, digit, hformat, hdigit digit rfl⟩
    | bool | integer | text => simp [h.suits.1] at hlength
  · rintro ⟨letter, digit, hformat, _⟩
    simp [hformat]

theorem WellFormed.isFormatted_iff {kind : Kind} (h : p.WellFormed kind) :
    p.isFormatted = true ↔ p.HasPrecision ∨ p.HasMapping := by
  simp only [isFormatted, Bool.or_eq_true, decide_eq_true_iff, Bool.not_eq_true', h.hasPrecision_iff,
    List.isEmpty_eq_false_iff_exists_mem, HasMapping, or_assoc]

theorem matches?_exact {x y : Binary64} {m n : Nat} (hx : x.IsNat m) (hy : y.IsNat n) (text : Text) :
    (NumericMapping.exact x text).matches? y = decide (m = n) := by
  have hxy : x.le y = decide (m ≤ n) := by
    rw [Bool.eq_iff_iff, hx.le_iff hy, decide_eq_true_iff]
  have hyx : y.le x = decide (n ≤ m) := by
    rw [Bool.eq_iff_iff, hy.le_iff hx, decide_eq_true_iff]
  simp only [NumericMapping.matches?, NumericMapping.exact, Bool.false_eq_true, if_false, hxy, hyx]
  rw [← Bool.decide_and, decide_eq_decide, Nat.le_antisymm_iff]

theorem mapped?_flagNumber {zero one : Binary64} {off on : Text} (hzero : zero.IsNat 0)
    (hone : one.IsNat 1) (hms : p.numericMappings = some [.exact zero off, .exact one on]) (flag : Bool) :
    p.mapped? (flagNumber flag) = some (if flag then on else off) := by
  have hflag := isNat_flagNumber flag
  simp only [mapped?, hms, Option.getD_some, List.find?_cons, List.find?_nil, matches?_exact hzero hflag,
    matches?_exact hone hflag]
  cases flag with
  | false => rfl
  | true => rfl

theorem WellFormed.renderContent_ne (h : p.WellFormed .bool) (separators : Separators) :
    renderContent p separators (.bool true) ≠ renderContent p separators (.bool false) := by
  obtain ⟨_, _, hnone | ⟨zero, one, off, on, hzero, hone, hms, _, _, hne⟩⟩ := h.suits
  · simp [renderContent, mapped?, hnone]
  · simp only [renderContent, mapped?_flagNumber hzero hone hms]
    exact hne.symm

end Presentation

namespace Token

theorem tellsFlags_of_wellFormed {token : Token} {p : Presentation}
    (hp : token.presentation? = some p) (h : p.WellFormed .bool) : token.TellsFlags := by
  intro binding v handle on off separators hv hbound hon hoff
  have hshown : (token.bind binding).shown? = some { v with binding := binding v } := by
    rw [shown?_bind, hv, Option.map_some]
  have hpresentation : (token.bind binding).presentation? = some p := by
    rw [presentation?_bind, hp]
  refine ⟨_, _, renderToken_of_shown? hshown hpresentation, renderToken_of_shown? hshown hpresentation, ?_⟩
  simp only [hbound, Option.bind_some, hon, hoff]
  exact h.renderContent_ne separators

theorem Styled.wellPresented {token : Token} {decimal : Char} (h : token.Styled decimal) {kind : Kind}
    {p : Presentation} (hkind : token.kind? = some kind) (hp : token.presentation? = some p) :
    token.WellPresented kind p := by
  obtain ⟨v, hv, rfl⟩ := Option.map_eq_some_iff.mp hkind
  have hwellFormed := (h v p hv hp).wellFormed
  exact
    { wellFormed := hwellFormed
      isFormatted_iff := hwellFormed.isFormatted_iff
      tellsFlags := fun hbool => tellsFlags_of_wellFormed hp (hbool ▸ hwellFormed) }

end Token

namespace Transcript

/-- Whatever a session was asked for before, a placeholder that it parses is shown in a presentation that
is well-formed for the kind of its variable. -/
theorem wellPresented_place (decimal : Char) (requests : List Session.Request) (body : Text) (span : Span) :
    let token := (((opened decimal).answerAll requests).session.place body span).1
    ∀ kind p, token.kind? = some kind → token.presentation? = some p → token.WellPresented kind p := by
  intro token kind p hkind hp
  have hs := (faithful_answerAll decimal requests).sound
  have hstyled := styled_answerAll decimal requests
  have htoken : token.Styled _ := (Session.styled_placeSegment hs hstyled (.placeholder body span)).2.2
  exact htoken.wellPresented hkind hp

/-- The texts were given to another placeholder, behind a restart that made its name free again. -/
theorem wellPresented_place_of_inherited_texts :
    let requests := [
      .placeholder "door:F2|..0=below".toList ⟨0, 17⟩, .restart,
      .template "A door, {door:B|shut|open}.".toList]
    let token := (((opened ',').answerAll requests).session.place " door :".toList ⟨4, 11⟩).1
    let p : Presentation :=
      { numericMappings := some [.exact (.ofNat 0) "shut".toList, .exact (.ofNat 1) "open".toList] }
    token.kind? = some .bool ∧ token.presentation? = some p ∧ token.WellPresented .bool p := by
  intro requests token p
  have hkind : token.kind? = some .bool := by decide +kernel
  have hp : token.presentation? = some p := by decide +kernel
  exact ⟨hkind, hp, wellPresented_place ',' requests _ _ _ p hkind hp⟩

end Transcript

end TypedTemplate
