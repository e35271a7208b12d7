import TypedTemplate.Node.Basic
import TypedTemplate.Proofs.Number.Integers
import TypedTemplate.Proofs.Template.NumericMappings
import TypedTemplate.Proofs.Template.PlaceholderForm
import TypedTemplate.Proofs.Template.Range
import TypedTemplate.Template.Rendering
/-!
# Mappings of integers

An explicit mapping of an integer is written with integers, but it is kept with numbers, and the integer that is
shown becomes a number before it is compared. So the limits and the integer are compared after they were rounded,
`Selects nearestInt`, and not as they are, `Selects id`. The two agree where one of the sides is below `2⁵³`;
above that, integers that are rounded to the same number share their text.
-/

namespace TypedTemplate

/-- A text for the integers between two limits, which may be missing. -/
structure IntegerMapping where
  low : Option Int
  high : Option Int
  lowMarked : Bool := false
  highMarked : Bool := false
  text : Text

namespace IntegerMapping

/-- A text for a single integer. -/
def exact (n : Int) (text : Text) : IntegerMapping :=
  { low := some n, high := some n, text }

/-- Two integers are in order, strictly when the limit among them is marked. -/
def Before (marked : Bool) (m n : Int) : Prop :=
  if marked then m < n else m ≤ n

instance (marked : Bool) (m n : Int) : Decidable (Before marked m n) := by
  unfold Before
  infer_instance

/-- The integer lies between the limits, when all of them are seen through `view`. -/
def Selects (view : Int → Int) (m : IntegerMapping) (n : Int) : Prop :=
  (∀ a ∈ m.low, Before m.lowMarked (view a) (view n)) ∧ ∀ b ∈ m.high, Before m.highMarked (view n) (view b)

instance (view : Int → Int) (m : IntegerMapping) (n : Int) : Decidable (m.Selects view n) := by
  unfold Selects
  infer_instance

/-- What is shown for an integer: the text of the first mapping that selects it, or else its digits. -/
def shown (view : Int → Int) (ms : List IntegerMapping) (n : Int64) : Text :=
  ((ms.find? fun m => m.Selects view n.toInt).map text).getD (formatInteger n)

end IntegerMapping

namespace PresentationGrammar

/-! ### Mappings in writing -/

/-- An integer that can be assigned. -/
def InRange (n : Int) : Prop :=
  -2 ^ 63 ≤ n ∧ n < 2 ^ 63

/-- A limit that is an integer, behind an optional mark, with blanks around both; an open side has no limit. -/
inductive IntegerBound : Text → Bool → Option Int → Prop
  | opened {before mark after : Text} {marked : Bool} (hbefore : before.Blanks) (hmark : MarkText mark marked)
      (hafter : after.Blanks) : IntegerBound (before ++ (mark ++ after)) marked none
  | limit {before mark number : Text} {marked : Bool} {n : Int} (hbefore : before.Blanks)
      (hmark : MarkText mark marked) (hnumber : IntegerForm number.trim n) (hrange : InRange n) :
      IntegerBound (before ++ (mark ++ number)) marked (some n)

/-- An explicit mapping in writing: a text for an integer or for a range between two of them. -/
inductive IntegerItem (item : Text) : IntegerMapping → Prop
  | exact {spec text : Text} {n : Int} (hassigns : Assigns item spec text) (hspec : IntegerForm spec.trim n)
      (hrange : InRange n) : IntegerItem item (.exact n text)
  | range {before after text : Text} {lowMarked highMarked : Bool} {low high : Option Int}
      (hassigns : Assigns item (before ++ '.' :: '.' :: after) text)
      (hlow : IntegerBound before lowMarked low) (hhigh : IntegerBound after highMarked high) :
      IntegerItem item ⟨low, high, lowMarked, highMarked, text⟩

theorem InRange.natAbs_le {n : Int} (h : InRange n) : n.natAbs ≤ 2 ^ 63 := by
  rw [InRange] at h
  omega

theorem inRange_toInt (n : Int64) : InRange n.toInt :=
  ⟨n.le_toInt, n.toInt_lt⟩

variable {decimal : Char} {item t text : Text} {marked lowMarked highMarked : Bool}

theorem not_mem_point_of_integerForm {n : Int} (h : IntegerForm t.trim n) : '.' ∉ t := by
  rw [← List.count_eq_zero, ← count_point_trim, List.count_eq_zero]
  generalize t.trim = body at h
  cases h with
  | signed hsign hdigits hne =>
      intro hmem
      rcases List.mem_append.mp hmem with hmem | hmem
      · exact absurd (hsign.isNumeralChar '.' hmem) (by decide)
      · exact absurd (hdigits '.' hmem) (by decide)

theorem IntegerBound.not_mem_point {limit : Option Int} (h : IntegerBound t marked limit) : '.' ∉ t := by
  have hblanks : ∀ blanks : Text, blanks.Blanks → '.' ∉ blanks := fun _ hb hmem =>
    absurd (hb '.' hmem) (by decide)
  have hmarks : ∀ mark : Text, MarkText mark marked → '.' ∉ mark := by
    intro mark hmark
    cases hmark <;> decide
  cases h with
  | opened hbefore hmark hafter => simp [hblanks _ hbefore, hmarks _ hmark, hblanks _ hafter]
  | limit hbefore hmark hnumber =>
      simp [hblanks _ hbefore, hmarks _ hmark, not_mem_point_of_integerForm hnumber]

/-! ### From the text to the mapping -/

section

variable (hdigit : decimal.isDigit = false) (hsign : decimal ≠ '+' ∧ decimal ≠ '-')

include hdigit hsign

theorem IntegerBound.exists_boundText {limit : Option Int} (h : IntegerBound t marked limit) :
    ∃ x, BoundText decimal t marked x ∧ Option.Rel Binary64.StandsFor x limit := by
  cases h with
  | opened hbefore hmark hafter =>
      have hparts : BoundText decimal _ marked none := .parts hbefore hmark Text.blanks_nil .absent hafter
      exact ⟨none, hparts, .none⟩
  | limit hbefore hmark hnumber hrange =>
      obtain ⟨x, hread, hx⟩ := exists_readNumber_of_integerForm hdigit hsign hnumber hrange.natAbs_le
      have hparts := BoundText.parts hbefore hmark Text.blanks_nil (.number hread) Text.blanks_nil
      rw [List.nil_append, List.append_nil] at hparts
      exact ⟨some x, hparts, .some hx⟩

end

/-- The mapping is kept for a mapping of integers: it has the same text, and it matches where that one selects
what is rounded. -/
structure Keeps (m : NumericMapping) (i : IntegerMapping) : Prop where
  text_eq : m.text = i.text
  matches_iff : ∀ n : Int64, m.matches? (.ofInt n.toInt) = true ↔ i.Selects Binary64.nearestInt n.toInt

open Binary64 in
theorem above_iff {limit : Option Binary64} {limitInt : Option Int} (hlimit : Option.Rel StandsFor limit limitInt)
    {x : Binary64} {n : Int} (hx : x.StandsFor n) (marked : Bool) :
    (if marked then (limit.getD (.infinite true)).lt x else (limit.getD (.infinite true)).le x) = true
      ↔ ∀ a ∈ limitInt, IntegerMapping.Before marked (nearestInt a) (nearestInt n) := by
  cases hlimit with
  | none =>
      have hfinite := hx.isFinite
      cases x with
      | nan | infinite => exact absurd hfinite (by simp [isFinite])
      | finite => cases marked <;> simp [lt, le]
  | some hy => cases marked <;> simp [IntegerMapping.Before, hy.lt_iff hx, hy.le_iff hx]

open Binary64 in
theorem below_iff {limit : Option Binary64} {limitInt : Option Int} (hlimit : Option.Rel StandsFor limit limitInt)
    {x : Binary64} {n : Int} (hx : x.StandsFor n) (marked : Bool) :
    (if marked then x.lt (limit.getD (.infinite false)) else x.le (limit.getD (.infinite false))) = true
      ↔ ∀ b ∈ limitInt, IntegerMapping.Before marked (nearestInt n) (nearestInt b) := by
  cases hlimit with
  | none =>
      have hfinite := hx.isFinite
      cases x with
      | nan | infinite => exact absurd hfinite (by simp [isFinite])
      | finite => cases marked <;> simp [lt, le]
  | some hy => cases marked <;> simp [IntegerMapping.Before, hx.lt_iff hy, hx.le_iff hy]

theorem keeps_between {low high : Option Binary64} {lowInt highInt : Option Int}
    (hlow : Option.Rel Binary64.StandsFor low lowInt) (hhigh : Option.Rel Binary64.StandsFor high highInt)
    (lowMarked highMarked : Bool) (text : Text) :
    Keeps (between lowMarked highMarked low high text) ⟨lowInt, highInt, lowMarked, highMarked, text⟩ := by
  refine ⟨rfl, fun n => ?_⟩
  have hn := Binary64.standsFor_ofInt (inRange_toInt n).natAbs_le
  rw [NumericMapping.matches?, Bool.and_eq_true]
  exact and_congr (above_iff hlow hn lowMarked) (below_iff hhigh hn highMarked)

theorem keeps_exact {x : Binary64} {n : Int} (hx : x.StandsFor n) (text : Text) :
    Keeps (.exact x text) (.exact n text) :=
  keeps_between (.some hx) (.some hx) false false text

/-! ### Reading -/

theorem IntegerItem.mem_assign {i : IntegerMapping} (h : IntegerItem item i) : '=' ∈ item := by
  cases h with
  | exact hassigns => exact mem_of_assigns hassigns
  | range hassigns => exact mem_of_assigns hassigns

theorem assigns_unique {spec spec' text' : Text} (h : Assigns item spec text) (h' : Assigns item spec' text') :
    spec = spec' ∧ text = text' := by
  have hsame := (split_of_assigns h).symm.trans (split_of_assigns h')
  obtain ⟨rfl, hitems⟩ := Prod.mk.inj hsame
  exact ⟨rfl, (List.cons.inj hitems).1⟩

/-- A mapping that is written with integers and was read is kept for a mapping of integers. -/
theorem ExplicitForm.keeps (hdigit : decimal.isDigit = false) (hsign : decimal ≠ '+' ∧ decimal ≠ '-')
    (hmark : decimal ≠ '>' ∧ decimal ≠ '<') {m : NumericMapping} {i : IntegerMapping}
    (h : ExplicitForm decimal item m) (hi : IntegerItem item i) : Keeps m i := by
  obtain ⟨spec, text, hassigns, hvalue⟩ := h
  cases hi with
  | exact hassigns' hspec hrange =>
      obtain ⟨rfl, rfl⟩ := assigns_unique hassigns hassigns'
      obtain ⟨x, hread, hx⟩ := exists_readNumber_of_integerForm hdigit hsign hspec hrange.natAbs_le
      cases hvalue with
      | exact _ hread' =>
          obtain rfl := Except.ok.inj (hread.symm.trans hread')
          exact keeps_exact hx text
      | @range low high _ htrim =>
          have hpoint : '.' ∉ spec.trim := by
            apply not_mem_point_of_integerForm
            rwa [Text.trim_trim]
          rw [htrim] at hpoint
          exact absurd (List.mem_append_right low List.mem_cons_self) hpoint
  | range hassigns' hlow hhigh =>
      obtain ⟨rfl, rfl⟩ := assigns_unique hassigns hassigns'
      obtain ⟨low, hlowText, hlowInt⟩ := hlow.exists_boundText hdigit hsign
      obtain ⟨high, hhighText, hhighInt⟩ := hhigh.exists_boundText hdigit hsign
      have hend := fun h => hlow.not_mem_point (List.mem_of_getLast? h)
      have hstart := fun h => hhigh.not_mem_point (List.mem_of_head? h)
      have hread := valueSpec_of_rangeText hmark.1 hmark.2 (.parts hlowText hend hhighText hstart) text
      rw [valueSpec_eq_ok_iff.mpr hvalue] at hread
      split at hread
      · exact absurd hread (by simp)
      · obtain rfl := Except.ok.inj hread
        exact keeps_between hlowInt hhighInt _ _ text

theorem forall₂_keeps (hdigit : decimal.isDigit = false) (hsign : decimal ≠ '+' ∧ decimal ≠ '-')
    (hmark : decimal ≠ '>' ∧ decimal ≠ '<') {items : List Text} {ms : List NumericMapping}
    {is : List IntegerMapping} (hms : List.Forall₂ (ExplicitForm decimal) items ms)
    (his : List.Forall₂ IntegerItem items is) : List.Forall₂ Keeps ms is := by
  induction hms generalizing is with
  | nil =>
      cases his
      exact .nil
  | cons hm _ ih =>
      cases his with
      | cons hi hrest => exact .cons (hm.keeps hdigit hsign hmark hi) (ih hrest)

theorem map_find?_of_keeps {ms : List NumericMapping} {is : List IntegerMapping} (h : List.Forall₂ Keeps ms is)
    (n : Int64) : (ms.find? (·.matches? (.ofInt n.toInt))).map NumericMapping.text
      = (is.find? fun i => i.Selects Binary64.nearestInt n.toInt).map IntegerMapping.text := by
  induction h with
  | nil => rfl
  | @cons m i ms is hkeeps _ ih =>
      have hmatches := hkeeps.matches_iff n
      by_cases hselects : i.Selects Binary64.nearestInt n.toInt
      · simp [hmatches.mpr hselects, hselects, hkeeps.text_eq]
      · simp [mt hmatches.mp hselects, hselects, ih]

end PresentationGrammar

/-! ### The placeholder -/

open PresentationGrammar

theorem append_colon_inj {raw raw' format format' : Text} (h : raw ++ ':' :: format = raw' ++ ':' :: format')
    (hraw : ':' ∉ raw') (hformat : ':' ∉ format') : raw = raw' ∧ format = format' := by
  have hcount := congrArg (List.count ':') h
  rw [List.count_append, List.count_append, List.count_cons_self, List.count_cons_self,
    List.count_eq_zero.mpr hraw, List.count_eq_zero.mpr hformat] at hcount
  exact Text.append_cons_inj (List.count_eq_zero.mp (by omega)) hraw h

/-- The presentation that a placeholder shows its variable in. -/
def Reading.presentation : Reading → Presentation
  | .declaration _ _ p => p
  | .reuse r => r.presentation

namespace Session

variable {s : Session} {raw : Text} {items : List Text} {letter : Char}

theorem presentation?_place {body : Text} {r : Reading} (hread : s.read body = .ok r) (span : Span) :
    (s.place body span).1.presentation? = some r.presentation := by
  rw [place, hread]
  cases r with
  | reuse r => rfl
  | declaration kind name p => cases name <;> rfl

theorem form_of_formatPart {decimal : Char} {kind : Kind} {p : Presentation} (hletter : letter ≠ '|')
    (hitems : ∀ item ∈ items, '|' ∉ item)
    (h : FormatPart decimal kind (Text.joined '|' [letter] items) p) :
    letter ∈ kind.letters ∧ Form decimal kind [letter] items p := by
  obtain ⟨_, letter', rest, items', hjoined, hfree, hkind, hform⟩ := h
  have hpieces : ∀ piece ∈ [letter] :: items, '|' ∉ piece := by
    refine List.forall_mem_cons.mpr ⟨?_, hitems⟩
    rw [List.mem_singleton]
    exact hletter.symm
  have hsplit := Text.split_joined hpieces
  rw [hjoined, Text.split_joined hfree] at hsplit
  obtain ⟨hhead, rfl⟩ := Prod.mk.inj hsplit
  obtain ⟨rfl, rfl⟩ := List.cons.inj hhead
  exact ⟨hkind, hform⟩

/-- A body with a letter and items behind its colon is read by the form of its kind. -/
theorem form_of_read (hs : s.Sound) (hletter : letter ≠ '|') (hitems : ∀ item ∈ items, '|' ∉ item) {r : Reading}
    (hread : s.read (raw ++ ':' :: Text.joined '|' [letter] items) = .ok r) :
    ∃ kind, letter ∈ kind.letters ∧ Form s.decimal kind [letter] items r.presentation := by
  generalize hbody : raw ++ ':' :: Text.joined '|' [letter] items = body at hread
  cases bodyForm_of_read hs hread with
  | inherited hbody' hraw =>
      obtain rfl | rfl := hbody'
      · rw [← hbody] at hraw
        exact absurd (List.mem_append_right raw List.mem_cons_self) hraw.1
      · have hformat := (append_colon_inj hbody hraw.1 List.not_mem_nil).2
        exact absurd hformat (List.cons_ne_nil _ _)
  | restyled hbody' hraw _ _ hformat =>
      obtain ⟨rfl, rfl⟩ := append_colon_inj (hbody.trans hbody') hraw.1 hformat.1
      exact ⟨_, form_of_formatPart hletter hitems hformat⟩
  | declaration hbody' hraw _ hformat =>
      obtain ⟨rfl, rfl⟩ := append_colon_inj (hbody.trans hbody') hraw.1 hformat.1
      exact ⟨_, form_of_formatPart hletter hitems hformat⟩

end Session

theorem Kind.eq_of_mem_letters {kind kind' : Kind} {letter : Char} (h : letter ∈ kind.letters)
    (h' : letter ∈ kind'.letters) : kind = kind' :=
  Option.some.inj ((ofLetter?_eq_some_iff.mpr h).symm.trans (ofLetter?_eq_some_iff.mpr h'))

theorem exists_explicitForm {decimal letter : Char} {items : List Text} {p : Presentation} (hne : items ≠ [])
    (hitems : ∀ item ∈ items, '=' ∈ item) (h : Form decimal .integer [letter] items p) :
    ∃ ms, p.numericMappings = some ms ∧ List.Forall₂ (ExplicitForm decimal) items ms := by
  cases h with
  | integer _ hmappings =>
      cases hmappings with
      | absent => exact absurd rfl hne
      | present _ hform =>
          cases hform with
          | explicit hexplicit => exact ⟨_, rfl, hexplicit⟩
          | implicit _ himplicit =>
              obtain ⟨item, hitem⟩ := List.exists_mem_of_ne_nil items hne
              exact absurd (hitems item hitem) (himplicit item hitem).2

/-! ### Rounded and exact comparison -/

namespace IntegerMapping

open Binary64 (nearestInt significantBits)

theorem before_nearestInt_iff {m n : Int}
    (h : m = n ∨ m.natAbs < 2 ^ significantBits ∨ n.natAbs < 2 ^ significantBits) (marked : Bool) :
    Before marked (nearestInt m) (nearestInt n) ↔ Before marked m n := by
  obtain rfl | hsmall := h
  · simp [Before]
  · cases marked with
    | false => exact Binary64.nearestInt_le_iff hsmall
    | true => exact Binary64.nearestInt_lt_iff hsmall

theorem selects_nearestInt_iff {m : IntegerMapping} {n : Int}
    (h : ∀ a, a ∈ m.low ∨ a ∈ m.high → a = n ∨ a.natAbs < 2 ^ significantBits ∨ n.natAbs < 2 ^ significantBits) :
    m.Selects nearestInt n ↔ m.Selects id n := by
  rw [Selects, Selects]
  apply and_congr
  · apply forall₂_congr
    intro a ha
    exact before_nearestInt_iff (h a (.inl ha)) m.lowMarked
  · apply forall₂_congr
    intro b hb
    exact before_nearestInt_iff ((h b (.inr hb)).imp Eq.symm Or.symm) m.highMarked

theorem selects_exact_iff {view : Int → Int} {a n : Int} {text : Text} :
    (exact a text).Selects view n ↔ view a = view n := by
  simp only [Selects, exact, Option.mem_some_iff, forall_eq', Before, if_false, Bool.false_eq_true]
  omega

/-- Integers that share a text for a single integer are rounded to the same one, and none of them is small. -/
theorem large_of_selects_exact {a m n : Int} {text : Text} (hm : (exact a text).Selects nearestInt m)
    (hn : (exact a text).Selects nearestInt n) (hne : m ≠ n) :
    2 ^ significantBits ≤ m.natAbs ∧ 2 ^ significantBits ≤ n.natAbs := by
  have hsame : nearestInt m = nearestInt n := (selects_exact_iff.mp hm).symm.trans (selects_exact_iff.mp hn)
  by_contra hsmall
  have hsmall : m.natAbs < 2 ^ significantBits ∨ n.natAbs < 2 ^ significantBits := by omega
  have hlt := Binary64.nearestInt_lt_iff hsmall
  have hgt := Binary64.nearestInt_lt_iff hsmall.symm
  omega

end IntegerMapping

/-! ### What is shown -/

theorem renderValue_of_keeps {p : Presentation} {ms : List NumericMapping} {is : List IntegerMapping}
    (hms : p.numericMappings = some ms) (hkeeps : List.Forall₂ Keeps ms is) (separators : Separators) (n : Int64) :
    renderValue p separators (some (.integer n)) = IntegerMapping.shown Binary64.nearestInt is n := by
  rw [renderValue, renderContent, Presentation.mapped?, hms, Option.getD_some, map_find?_of_keeps hkeeps n,
    IntegerMapping.shown]

theorem renderToken_of_keeps {token : Token} {p : Presentation} {ms : List NumericMapping} {is : List IntegerMapping}
    (hp : token.presentation? = some p) (hms : p.numericMappings = some ms) (hkeeps : List.Forall₂ Keeps ms is)
    {inputs : InputBank} (separators : Separators) {n : Int64}
    (hvalue : ∀ v ∈ token.shown?, v.binding.bind inputs.value = some (.integer n)) :
    renderToken inputs separators token = .ok (IntegerMapping.shown Binary64.nearestInt is n) := by
  obtain ⟨v, hv⟩ : ∃ v, token.shown? = some v := by
    cases token with
    | text | error => exact absurd hp (by simp [Token.presentation?])
    | declared v => exact ⟨v, rfl⟩
    | reference r => exact ⟨r.target, rfl⟩
  rw [renderToken_of_shown? hv hp, hvalue v hv, renderValue_of_keeps hms hkeeps]

/-- A placeholder that shows integers through mappings of integers. -/
structure Token.ShowsThrough (token : Token) (is : List IntegerMapping) : Prop where
  /-- Whatever input the placeholder is bound to, its integer is compared after it was rounded. -/
  rendered : ∀ binding inputs separators, ∀ n : Int64,
    (∀ v ∈ (token.bind binding).shown?, v.binding.bind inputs.value = some (.integer n)) →
      renderToken inputs separators (token.bind binding)
        = .ok (IntegerMapping.shown Binary64.nearestInt is n)
  /-- It makes no difference that it was rounded, if each limit is the integer itself or one of the two is below
  `2⁵³`. -/
  shown_eq : ∀ n : Int64, (∀ i ∈ is, ∀ a, a ∈ i.low ∨ a ∈ i.high →
      a = n.toInt ∨ a.natAbs < 2 ^ Binary64.significantBits ∨ n.toInt.natAbs < 2 ^ Binary64.significantBits) →
    IntegerMapping.shown Binary64.nearestInt is n = IntegerMapping.shown id is n
  /-- Different integers share a text for a single integer only when none of them is below `2⁵³`. -/
  large_of_shared : ∀ (a : Int) (text : Text), .exact a text ∈ is → ∀ m n : Int,
    (IntegerMapping.exact a text).Selects Binary64.nearestInt m →
    (IntegerMapping.exact a text).Selects Binary64.nearestInt n → m ≠ n →
      2 ^ Binary64.significantBits ≤ m.natAbs ∧ 2 ^ Binary64.significantBits ≤ n.natAbs

theorem IntegerMapping.shown_eq_of_selects {is : List IntegerMapping} {view view' : Int → Int} {n : Int64}
    (h : ∀ i ∈ is, i.Selects view n.toInt ↔ i.Selects view' n.toInt) : shown view is n = shown view' is n := by
  have hfind : is.find? (fun i => i.Selects view n.toInt) = is.find? fun i => i.Selects view' n.toInt := by
    induction is with
    | nil => rfl
    | cons i is ih =>
        obtain ⟨hi, his⟩ := List.forall_mem_cons.mp h
        rw [List.find?_cons, List.find?_cons, decide_eq_decide.mpr hi, ih his]
  rw [shown, shown, hfind]

/-- A placeholder for an integer whose explicit mappings are written with integers shows its value through them,
rounded to the precision of a number. -/
theorem showsThrough_place {decimal letter : Char} (hdigit : decimal.isDigit = false)
    (hsign : decimal ≠ '+' ∧ decimal ≠ '-') (hmark : decimal ≠ '>' ∧ decimal ≠ '<')
    (hletter : letter ∈ Kind.integer.letters) {items : List Text} (hne : items ≠ [])
    (hbars : ∀ item ∈ items, '|' ∉ item) {is : List IntegerMapping} (his : List.Forall₂ IntegerItem items is)
    (requests : List Session.Request) (raw : Text) (span : Span) :
    let s := ((Transcript.opened decimal).answerAll requests).session
    let token := (s.place (raw ++ ':' :: Text.joined '|' [letter] items) span).1
    token.error? = none → token.ShowsThrough is := by
  intro s token htoken
  have hs : s.Sound := (Transcript.faithful_answerAll decimal requests).sound
  have hdecimal : s.decimal = decimal := Transcript.decimal_answerAll decimal requests
  have hbar : letter ≠ '|' := by
    rintro rfl
    exact absurd hletter (by decide)
  have hassign : ∀ item ∈ items, '=' ∈ item :=
    (List.forall₂_and_left items is |>.mp (his.imp fun _ _ hi => ⟨hi.mem_assign, hi⟩)).1
  obtain ⟨r, hread⟩ := (Session.error?_place_eq_none_iff_read span).mp htoken
  obtain ⟨kind, hkind, hform⟩ := Session.form_of_read hs hbar hbars hread
  obtain rfl := Kind.eq_of_mem_letters hkind hletter
  rw [hdecimal] at hform
  obtain ⟨ms, hms, hexplicit⟩ := exists_explicitForm hne hassign hform
  have hkeeps := forall₂_keeps hdigit hsign hmark hexplicit his
  constructor
  case rendered =>
    intro binding inputs separators n hvalue
    have hp := Session.presentation?_place hread span
    rw [← Token.presentation?_bind binding] at hp
    exact renderToken_of_keeps hp hms hkeeps separators hvalue
  case shown_eq =>
    intro n hsmall
    apply IntegerMapping.shown_eq_of_selects
    intro i hi
    exact IntegerMapping.selects_nearestInt_iff (hsmall i hi)
  case large_of_shared =>
    intro a text _ m n hm hn hmn
    exact IntegerMapping.large_of_selects_exact hm hn hmn

/-- A range behind a text for `2⁵³`, which the next integer is rounded to. -/
theorem showsThrough_place_of_large_integer :
    let items := ["9007199254740992=even".toList, " > 5..< +9=few".toList]
    let is : List IntegerMapping := [.exact 9007199254740992 "even".toList, ⟨some 5, some 9, true, true, "few".toList⟩]
    let s := ((Transcript.opened ' ').answerAll [.template "{n:I|a|b}".toList]).session
    let token := (s.place ("n".toList ++ ':' :: Text.joined '|' ['i'] items) ⟨9, 45⟩).1
    ' '.isDigit = false ∧ (' ' ≠ '+' ∧ ' ' ≠ '-') ∧ (' ' ≠ '>' ∧ ' ' ≠ '<') ∧ 'i' ∈ Kind.integer.letters
      ∧ items ≠ [] ∧ (∀ item ∈ items, '|' ∉ item) ∧ List.Forall₂ IntegerItem items is ∧ token.error? = none
      ∧ token.ShowsThrough is
      ∧ IntegerMapping.shown Binary64.nearestInt is 9007199254740993 = "even".toList
      ∧ IntegerMapping.shown Binary64.nearestInt is 9 = "9".toList := by
  intro items is s token
  have hdigit : ' '.isDigit = false := by decide
  have hsign : ' ' ≠ '+' ∧ ' ' ≠ '-' := by decide
  have hmark : ' ' ≠ '>' ∧ ' ' ≠ '<' := by decide
  have hletter : 'i' ∈ Kind.integer.letters := by decide
  have hne : items ≠ [] := by decide
  have hbars : ∀ item ∈ items, '|' ∉ item := by decide
  have heven : Assigns "9007199254740992=even".toList "9007199254740992".toList "even".toList :=
    ⟨rfl, by decide, by decide⟩
  have hfew : Assigns " > 5..< +9=few".toList
      (([' '] ++ (['>'] ++ " 5".toList)) ++ '.' :: '.' :: ([] ++ (['<'] ++ " +9".toList))) "few".toList :=
    ⟨rfl, by decide, by decide⟩
  have hexact : readInteger "9007199254740992".toList = .ok 9007199254740992 := by decide +kernel
  have hfive : readInteger " 5".toList = .ok 5 := by decide +kernel
  have hnine : readInteger " +9".toList = .ok 9 := by decide +kernel
  have hlow : IntegerBound ([' '] ++ (['>'] ++ " 5".toList)) true (some 5) :=
    .limit (List.forall_mem_singleton.mpr rfl) .greater (readInteger_eq_ok_iff.mp hfive) (inRange_toInt 5)
  have hhigh : IntegerBound ([] ++ (['<'] ++ " +9".toList)) true (some 9) :=
    .limit Text.blanks_nil .less (readInteger_eq_ok_iff.mp hnine) (inRange_toInt 9)
  have his : List.Forall₂ IntegerItem items is :=
    .cons (.exact heven (readInteger_eq_ok_iff.mp hexact) (inRange_toInt 9007199254740992))
      (.cons (.range hfew hlow hhigh) .nil)
  have htoken : token.error? = none := by decide +kernel
  have hshows := showsThrough_place hdigit hsign hmark hletter hne hbars his [.template "{n:I|a|b}".toList]
    "n".toList ⟨9, 45⟩ htoken
  exact ⟨hdigit, hsign, hmark, hletter, hne, hbars, his, htoken, hshows, by decide +kernel, by decide +kernel⟩

/-- The next integer behind `2⁵³` has the text of `2⁵³`, though the two are different. -/
theorem renderOnce_of_rounded_integer :
    let item := "9007199254740992=even".toList
    let is : List IntegerMapping := [.exact 9007199254740992 "even".toList]
    IntegerItem item (.exact 9007199254740992 "even".toList)
      ∧ IntegerMapping.shown id is 9007199254740993 = "9007199254740993".toList
      ∧ renderOnce {} "{x:I|9007199254740992=even}".toList [("x".toList, "9007199254740992".toList)]
        = .ok "even".toList
      ∧ renderOnce {} "{x:I|9007199254740992=even}".toList [("x".toList, "9007199254740993".toList)]
        = .ok "even".toList := by
  intro item is
  have hassigns : Assigns item "9007199254740992".toList "even".toList := ⟨rfl, by decide, by decide⟩
  have hread : readInteger "9007199254740992".toList = .ok 9007199254740992 := by decide +kernel
  refine ⟨.exact hassigns (readInteger_eq_ok_iff.mp hread) (inRange_toInt 9007199254740992), ?_, ?_, ?_⟩
  · decide +kernel
  · decide +kernel
  · decide +kernel

end TypedTemplate
