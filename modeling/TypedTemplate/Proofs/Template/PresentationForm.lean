import Mathlib.Data.List.Infix
import TypedTemplate.Proofs.Outcome
import TypedTemplate.Proofs.Text.Parts
import TypedTemplate.Template.PresentationGrammar
/-!
# The written forms of presentations

How a presentation may be written, said by rules that name the parts of a text and never how it is read:
bounds, numbers and ranges, mappings of numbers and of texts, and the head and items of each kind. Every
reader of the grammar reads exactly what has a form, and reads it as the form says. The lemmas go up from
the bound of a range to `Presentation.read_eq_ok_iff`.
-/

namespace TypedTemplate

/-! ### Numbers -/

theorem readNumber_trim (decimal : Char) (t : Text) :
    readNumber decimal t.trim = readNumber decimal t := by
  rw [readNumber, readNumber, Text.trim_trim]

theorem isFinite_of_readNumber {decimal : Char} {t : Text} {x : Binary64}
    (h : readNumber decimal t = .ok x) : x.isFinite = true := by
  rw [readNumber] at h
  split at h
  · exact absurd h (by simp)
  split at h
  · exact absurd h (by simp)
  split at h
  · exact absurd h (by simp)
  · simp only at h
    split at h
    · next hfinite =>
        obtain rfl := Except.ok.inj h
        exact hfinite
    · exact absurd h (by simp)

theorem Binary64.le_iff_lt_eq_false {x y : Binary64} (hx : x ≠ .nan) (hy : y ≠ .nan) :
    x.le y = true ↔ y.lt x = false := by
  cases x with
  | nan => exact absurd rfl hx
  | infinite s =>
      cases y with
      | nan => exact absurd rfl hy
      | infinite t => cases s <;> cases t <;> decide
      | finite t v _ => cases s <;> simp [le, lt]
  | finite s u _ =>
      cases y with
      | nan => exact absurd rfl hy
      | infinite t => cases t <;> simp [le, lt]
      | finite t v _ => simp [le, lt]

namespace PresentationGrammar

/-! ### The forms -/

/-- A limit of a range: blanks for an open side, or a number. -/
inductive LimitForm (decimal : Char) (whenOpen : Binary64) (t : Text) : Binary64 → Prop
  | blank (h : t.trim = []) : LimitForm decimal whenOpen t whenOpen
  | number {x : Binary64} (h : readNumber decimal t = .ok x) : LimitForm decimal whenOpen t x

/-- A bound of a range: a limit, behind a mark when it is excluded. -/
inductive BoundForm (decimal : Char) (whenOpen : Binary64) (t : Text) : Binary64 × Bool → Prop
  | included {x : Binary64} (hmark : ∀ c ∈ t.trim.head?, c ≠ '>' ∧ c ≠ '<')
      (hx : LimitForm decimal whenOpen t x) : BoundForm decimal whenOpen t (x, false)
  | excluded {mark : Char} {rest : Text} {x : Binary64} (hmark : mark = '>' ∨ mark = '<')
      (ht : t.trim = mark :: rest) (hx : LimitForm decimal whenOpen rest x) :
      BoundForm decimal whenOpen t (x, true)

/-- What a mapping stands for: a number, or two bounds in order. The dots between the bounds are two, and
no other two dots meet. -/
inductive ValueForm (decimal : Char) (spec text : Text) : NumericMapping → Prop
  | exact {x : Binary64} (hdots : ¬['.', '.'] <:+: spec.trim) (hx : readNumber decimal spec = .ok x) :
      ValueForm decimal spec text (.exact x text)
  | range {low high : Text} {m : NumericMapping} (hspec : spec.trim = low ++ '.' :: '.' :: high)
      (hlow : ¬['.', '.'] <:+: low ++ ['.']) (hhigh : ¬['.', '.'] <:+: '.' :: high)
      (hmin : BoundForm decimal (.infinite true) low (m.min, m.minExcluded))
      (hmax : BoundForm decimal (.infinite false) high (m.max, m.maxExcluded))
      (hle : m.min.le m.max = true) (htext : m.text = text) : ValueForm decimal spec text m

/-- A text for the next number. -/
def ImplicitForm (item : Text) : Prop :=
  item ≠ [] ∧ '=' ∉ item

/-- Two texts around the only equals sign. -/
def Assigns (item before after : Text) : Prop :=
  item = before ++ '=' :: after ∧ '=' ∉ before ∧ '=' ∉ after

/-- A text for a number or a range that stands before it. -/
def ExplicitForm (decimal : Char) (item : Text) (m : NumericMapping) : Prop :=
  ∃ spec text, Assigns item spec text ∧ ValueForm decimal spec text m

/-- The mappings of texts to numbers in a row. -/
def numbered (index : Nat) (items : List Text) : List NumericMapping :=
  (items.zipIdx index).map fun p => .exact (implicitNumber p.2) p.1

/-- The mappings of numbers are implicit, where that is allowed, or they are all explicit. -/
inductive NumericForm (allowImplicit : Bool) (decimal : Char) (items : List Text) :
    List NumericMapping → Prop
  | implicit (hallowed : allowImplicit = true) (hitems : ∀ item ∈ items, ImplicitForm item) :
      NumericForm allowImplicit decimal items (numbered 0 items)
  | explicit {ms : List NumericMapping} (hitems : List.Forall₂ (ExplicitForm decimal) items ms) :
      NumericForm allowImplicit decimal items ms

/-- The mapping of a text: what is replaced, which is not empty, and by what. -/
def TextForm (item : Text) (m : TextMapping) : Prop :=
  Assigns item m.pattern m.replacement ∧ m.pattern ≠ []

/-- A list that is absent where there are no items. -/
inductive OptionalForm {α : Type} (form : List Text → List α → Prop) : List Text → Option (List α) → Prop
  | absent : OptionalForm form [] none
  | present {items : List Text} {ms : List α} (hitems : items ≠ []) (h : form items ms) :
      OptionalForm form items (some ms)

/-- Two texts for a truth value. -/
inductive FlagForm (off on : Text) : Presentation → Prop
  | texts (hoff : '=' ∉ off) (hon : '=' ∉ on) (hne : off ≠ on) :
      FlagForm off on { numericMappings := some [.exact (.ofNat 0) off, .exact (.ofNat 1) on] }

/-- The head and the items of a presentation, by kind. Which letters stand for a kind is not said
here. -/
inductive Form (decimal : Char) : Kind → Text → List Text → Presentation → Prop
  | flag (letter : Char) : Form decimal .bool [letter] [] {}
  | glyphs (letter : Char) {off on : Char} {p : Presentation} (h : FlagForm [off] [on] p) :
      Form decimal .bool [letter, off, on] [] p
  | flagTexts (letter : Char) {off on : Text} {p : Presentation} (h : FlagForm off on p) :
      Form decimal .bool [letter] [off, on] p
  | integer (letter : Char) {items : List Text} {ms : Option (List NumericMapping)}
      (h : OptionalForm (NumericForm true decimal) items ms) :
      Form decimal .integer [letter] items { format := ['D'], numericMappings := ms }
  | number (letter : Char) {digit : Option Char} (hdigit : ∀ c ∈ digit, c.isDigit = true)
      {items : List Text} {ms : Option (List NumericMapping)}
      (h : OptionalForm (NumericForm false decimal) items ms) :
      Form decimal .number (letter :: digit.toList) items
        { format := letter :: digit.toList, numericMappings := ms }
  | text (letter : Char) {items : List Text} {ms : Option (List TextMapping)}
      (h : OptionalForm (List.Forall₂ TextForm) items ms) :
      Form decimal .text [letter] items { textMappings := ms }

variable {decimal : Char} {whenOpen : Binary64}

/-! ### Bounds -/

theorem limitForm_trim {t : Text} {x : Binary64} :
    LimitForm decimal whenOpen t.trim x ↔ LimitForm decimal whenOpen t x := by
  constructor
  · intro h
    cases h with
    | blank h => exact .blank (by rwa [Text.trim_trim] at h)
    | number h => exact .number (by rwa [readNumber_trim] at h)
  · intro h
    cases h with
    | blank h => exact .blank (by rwa [Text.trim_trim])
    | number h => exact .number (by rwa [readNumber_trim])

theorem LimitForm.ne_nan {t : Text} {x : Binary64} (hopen : whenOpen ≠ .nan)
    (h : LimitForm decimal whenOpen t x) : x ≠ .nan := by
  cases h with
  | blank => exact hopen
  | number h =>
      rintro rfl
      exact absurd (isFinite_of_readNumber h) (by simp [Binary64.isFinite])

theorem BoundForm.ne_nan {t : Text} {x : Binary64} {excluded : Bool} (hopen : whenOpen ≠ .nan)
    (h : BoundForm decimal whenOpen t (x, excluded)) : x ≠ .nan := by
  cases h with
  | included _ hx => exact hx.ne_nan hopen
  | excluded _ _ hx => exact hx.ne_nan hopen

theorem takeExclusion_cases (t : Text) :
    (∃ mark rest, (mark = '>' ∨ mark = '<') ∧ t = mark :: rest ∧ takeExclusion t = (true, rest))
      ∨ (∀ c ∈ t.head?, c ≠ '>' ∧ c ≠ '<') ∧ takeExclusion t = (false, t) := by
  match t with
  | [] => exact .inr ⟨by simp, rfl⟩
  | c :: rest =>
      by_cases hgreater : c = '>'
      · subst hgreater
        exact .inl ⟨_, rest, .inl rfl, rfl, rfl⟩
      by_cases hless : c = '<'
      · subst hless
        exact .inl ⟨_, rest, .inr rfl, rfl, rfl⟩
      refine .inr ⟨by simpa using ⟨hgreater, hless⟩, ?_⟩
      rw [takeExclusion]
      · simpa using hgreater
      · simpa using hless

theorem bound_eq_ok_iff_of_takeExclusion {t number : Text} {excluded : Bool} {b : Binary64 × Bool}
    (htake : takeExclusion t.trim = (excluded, number)) :
    bound decimal whenOpen t = .ok b
      ↔ ∃ x, LimitForm decimal whenOpen number x ∧ b = (x, excluded) := by
  rw [bound, htake]
  simp only [readNumber_trim, List.isEmpty_iff]
  split
  · next hblank =>
      have hempty : readNumber decimal number = .error .empty := by simp [readNumber, hblank]
      constructor
      · intro h
        exact ⟨whenOpen, .blank hblank, (Except.ok.inj h).symm⟩
      · rintro ⟨x, hx, rfl⟩
        cases hx with
        | blank => rfl
        | number h => exact absurd (hempty.symm.trans h) (by simp)
  · next hblank =>
      cases hread : readNumber decimal number with
      | error e =>
          constructor
          · intro h
            exact absurd h (by simp)
          · rintro ⟨x, hx, _⟩
            cases hx with
            | blank h => exact absurd h hblank
            | number h => exact absurd (hread.symm.trans h) (by simp)
      | ok x =>
          constructor
          · intro h
            exact ⟨x, .number hread, (Except.ok.inj h).symm⟩
          · rintro ⟨y, hy, rfl⟩
            cases hy with
            | blank h => exact absurd h hblank
            | number h => rw [Except.ok.inj (hread.symm.trans h)]

theorem bound_eq_ok_iff {t : Text} {b : Binary64 × Bool} :
    bound decimal whenOpen t = .ok b ↔ BoundForm decimal whenOpen t b := by
  obtain ⟨mark, rest, hmark, ht, htake⟩ | ⟨hmark, htake⟩ := takeExclusion_cases t.trim
  · rw [bound_eq_ok_iff_of_takeExclusion htake]
    constructor
    · rintro ⟨x, hx, rfl⟩
      exact .excluded hmark ht hx
    · intro h
      cases h with
      | included hfree =>
          have hne := hfree mark (by rw [ht]; rfl)
          exact absurd hmark (not_or.mpr hne)
      | excluded _ ht' hx =>
          obtain ⟨_, rfl⟩ := List.cons.inj (ht.symm.trans ht')
          exact ⟨_, hx, rfl⟩
  · rw [bound_eq_ok_iff_of_takeExclusion htake]
    constructor
    · rintro ⟨x, hx, rfl⟩
      exact .included hmark (limitForm_trim.mp hx)
    · intro h
      cases h with
      | included _ hx => exact ⟨_, limitForm_trim.mpr hx, rfl⟩
      | excluded hmark' ht =>
          have hne := hmark _ (by rw [ht]; rfl)
          exact absurd hmark' (not_or.mpr hne)

/-! ### Numbers and ranges -/

theorem dots_infix (low high : Text) : ['.', '.'] <:+: low ++ '.' :: '.' :: high :=
  ⟨low, high, by simp⟩

theorem dots_infix_cons_iff {c : Char} {t : Text} :
    ['.', '.'] <:+: c :: t ↔ c = '.' ∧ t.head? = some '.' ∨ ['.', '.'] <:+: t := by
  rw [List.infix_cons_iff, List.cons_prefix_cons]
  cases t with
  | nil => simp
  | cons d t => simp [eq_comm]

theorem cutRange?_eq_none_iff {t : Text} : cutRange? t = none ↔ ¬['.', '.'] <:+: t := by
  fun_induction cutRange? t with
  | case1 t => simp [dots_infix_cons_iff]
  | case2 c t hdots ih =>
      rw [Option.map_eq_none_iff, ih, dots_infix_cons_iff, not_or]
      refine ⟨fun h => ⟨?_, h⟩, And.right⟩
      rintro ⟨rfl, hhead⟩
      obtain ⟨rest, rfl⟩ := List.head?_eq_some_iff.mp hhead
      exact hdots rest rfl rfl
  | case3 => simp

/-- The cut is made where two dots meet first. -/
theorem cutRange?_eq_some_iff {t low high : Text} :
    cutRange? t = some (low, high)
      ↔ t = low ++ '.' :: '.' :: high ∧ ¬['.', '.'] <:+: low ++ ['.'] := by
  fun_induction cutRange? t generalizing low with
  | case1 t =>
      cases low with
      | nil => simp [dots_infix_cons_iff]
      | cons c low =>
          simp only [Option.some.injEq, Prod.mk.injEq, reduceCtorEq, false_and, List.cons_append,
            List.cons.injEq, dots_infix_cons_iff, not_or, false_iff]
          rintro ⟨⟨rfl, ht⟩, hhead, _⟩
          have hdot := congrArg List.head? ht
          simp only [List.head?_cons, List.head?_append, true_and] at hdot hhead
          exact hhead hdot.symm
  | case2 c t hdots ih =>
      have hmiss : ¬(c = '.' ∧ t.head? = some '.') := by
        rintro ⟨rfl, hhead⟩
        obtain ⟨rest, rfl⟩ := List.head?_eq_some_iff.mp hhead
        exact hdots rest rfl rfl
      cases low with
      | nil =>
          simp only [Option.map_eq_some_iff, Prod.mk.injEq, reduceCtorEq, false_and, and_false,
            exists_false, List.nil_append, List.cons.injEq, false_iff]
          rintro ⟨⟨rfl, rfl⟩, _⟩
          exact hmiss ⟨rfl, rfl⟩
      | cons d low =>
          have hrest := @ih low
          simp only [Option.map_eq_some_iff, Prod.exists, Prod.mk.injEq, List.cons.injEq,
            List.cons_append, dots_infix_cons_iff, not_or]
          constructor
          · rintro ⟨low', high', hcut, ⟨rfl, rfl⟩, rfl⟩
            obtain ⟨rfl, hlow⟩ := hrest.mp hcut
            refine ⟨⟨rfl, rfl⟩, ?_, hlow⟩
            simpa only [List.head?_append, List.head?_cons] using hmiss
          · rintro ⟨⟨rfl, rfl⟩, _, hlow⟩
            exact ⟨low, high, hrest.mpr ⟨rfl, hlow⟩, ⟨rfl, rfl⟩, rfl⟩
  | case3 => simp

theorem range_eq_ok_iff {low high text : Text} {m : NumericMapping} :
    range decimal low high text = .ok m
      ↔ BoundForm decimal (.infinite true) low (m.min, m.minExcluded)
        ∧ BoundForm decimal (.infinite false) high (m.max, m.maxExcluded)
        ∧ m.min.le m.max = true ∧ m.text = text := by
  simp only [range, bind_eq_ok_iff, bound_eq_ok_iff, Prod.exists]
  constructor
  · rintro ⟨min, minExcluded, hmin, max, maxExcluded, hmax, hm⟩
    split at hm
    · exact absurd hm (by simp)
    · next hlt =>
        obtain rfl := Except.ok.inj hm
        rw [Bool.not_eq_true] at hlt
        have hle := (Binary64.le_iff_lt_eq_false (hmin.ne_nan (by simp)) (hmax.ne_nan (by simp))).mpr hlt
        exact ⟨hmin, hmax, hle, rfl⟩
  · rintro ⟨hmin, hmax, hle, rfl⟩
    refine ⟨m.min, m.minExcluded, hmin, m.max, m.maxExcluded, hmax, ?_⟩
    rw [Binary64.le_iff_lt_eq_false (hmin.ne_nan (by simp)) (hmax.ne_nan (by simp))] at hle
    rw [hle]
    rfl

theorem valueSpec_eq_ok_iff {spec text : Text} {m : NumericMapping} :
    valueSpec decimal spec text = .ok m ↔ ValueForm decimal spec text m := by
  rw [valueSpec]
  simp only [readNumber_trim]
  cases hcut : cutRange? spec.trim with
  | none =>
      have hdots := cutRange?_eq_none_iff.mp hcut
      simp only
      constructor
      · intro h
        split at h
        · next x hx =>
            obtain rfl := Except.ok.inj h
            exact .exact hdots hx
        · exact absurd h (by simp)
      · intro h
        cases h with
        | exact _ hx => rw [hx]
        | range hspec => exact absurd (hspec ▸ dots_infix _ _) hdots
  | some parts =>
      obtain ⟨low, high⟩ := parts
      obtain ⟨hspec, hlow⟩ := cutRange?_eq_some_iff.mp hcut
      have hhigh : ((cutRange? high).isSome || high.head? == some '.') = true
          ↔ ['.', '.'] <:+: '.' :: high := by
        rw [dots_infix_cons_iff, Bool.or_eq_true, Option.isSome_iff_ne_none, Ne,
          cutRange?_eq_none_iff, not_not, beq_iff_eq, or_comm]
        simp
      simp only
      split
      · next hmeet =>
          refine ⟨fun h => absurd h (by simp), fun h => ?_⟩
          cases h with
          | exact hdots => exact absurd (hspec ▸ dots_infix low high) hdots
          | range hspec' hlow' hhigh' =>
              have hsame := cutRange?_eq_some_iff.mpr ⟨hspec', hlow'⟩
              obtain ⟨rfl, rfl⟩ := Prod.mk.inj (Option.some.inj (hcut.symm.trans hsame))
              exact absurd (hhigh.mp hmeet) hhigh'
      · next hmeet =>
          rw [range_eq_ok_iff]
          constructor
          · rintro ⟨hmin, hmax, hle, htext⟩
            exact .range hspec hlow (fun h => hmeet (hhigh.mpr h)) hmin hmax hle htext
          · intro h
            cases h with
            | exact hdots => exact absurd (hspec ▸ dots_infix low high) hdots
            | range hspec' hlow' _ hmin hmax hle htext =>
                have hsame := cutRange?_eq_some_iff.mpr ⟨hspec', hlow'⟩
                obtain ⟨rfl, rfl⟩ := Prod.mk.inj (Option.some.inj (hcut.symm.trans hsame))
                exact ⟨hmin, hmax, hle, htext⟩

/-! ### Items around an equals sign -/

theorem split_of_assigns {item before after : Text} (h : Assigns item before after) :
    item.split '=' = (before, [after]) := by
  obtain ⟨rfl, hbefore, hafter⟩ := h
  rw [Text.split_append_cons hbefore, Text.split_of_not_mem hafter]

theorem split_cases (item : Text) :
    ('=' ∉ item ∧ item.split '=' = (item, []))
      ∨ (∃ before after, Assigns item before after ∧ item.split '=' = (before, [after]))
      ∨ ∃ first second third rest, item.split '=' = (first, second :: third :: rest) := by
  rcases hsplit : item.split '=' with ⟨head, pieces⟩
  obtain ⟨hitem, hfree⟩ := Text.split_eq_iff.mp hsplit
  match pieces with
  | [] =>
      obtain rfl : item = head := by simpa [Text.joined] using hitem
      exact .inl ⟨hfree item List.mem_cons_self, rfl⟩
  | [after] =>
      have hassigns : Assigns item head after := by
        refine ⟨by simpa [Text.joined] using hitem, hfree head (by simp), hfree after (by simp)⟩
      exact .inr (.inl ⟨head, after, hassigns, rfl⟩)
  | second :: third :: rest => exact .inr (.inr ⟨head, second, third, rest, rfl⟩)

theorem numericMapping_eq_ok_iff {allowImplicit : Bool} {decided : Option Flavour} {index : Nat}
    {item : Text} {flavour : Flavour} {m : NumericMapping} :
    numericMapping allowImplicit decimal decided index item = .ok (flavour, m)
      ↔ (flavour = .implicit ∧ allowImplicit = true ∧ decided ≠ some .explicit ∧ ImplicitForm item
          ∧ m = .exact (implicitNumber index) item)
        ∨ flavour = .explicit ∧ decided ≠ some .implicit ∧ ExplicitForm decimal item m := by
  rw [numericMapping]
  obtain ⟨hfree, hsplit⟩ | ⟨spec, text, hassigns, hsplit⟩ | ⟨_, _, _, _, hsplit⟩ := split_cases item
  · have hnot : ¬ExplicitForm decimal item m := by
      rintro ⟨spec, text, ⟨rfl, _⟩, _⟩
      simp at hfree
    simp only [hsplit]
    constructor
    · intro h
      split at h
      · exact absurd h (by simp)
      · next hrefused =>
          split at h
          · exact absurd h (by simp)
          · next hempty =>
              obtain ⟨rfl, rfl⟩ := Prod.mk.inj (Except.ok.inj h)
              simp only [Bool.or_eq_true, Bool.not_eq_true', beq_iff_eq, not_or, Bool.not_eq_false]
                at hrefused
              exact .inl ⟨rfl, hrefused.1, hrefused.2, ⟨by simpa using hempty, hfree⟩, rfl⟩
    · rintro (⟨rfl, rfl, hdecided, ⟨hne, _⟩, rfl⟩ | ⟨_, _, hexplicit⟩)
      · simp [hdecided, hne]
      · exact absurd hexplicit hnot
  · have hnot : ¬ImplicitForm item := by
      rintro ⟨_, hfree⟩
      simp [hassigns.1] at hfree
    simp only [hsplit]
    constructor
    · intro h
      split at h
      · exact absurd h (by simp)
      · next hdecided =>
          obtain ⟨m', hm, hpair⟩ := map_eq_ok_iff.mp h
          obtain ⟨rfl, rfl⟩ := Prod.mk.inj hpair
          exact .inr ⟨rfl, by simpa using hdecided, spec, text, hassigns, valueSpec_eq_ok_iff.mp hm⟩
    · rintro (⟨_, _, _, himplicit, _⟩ | ⟨rfl, hdecided, spec', text', hassigns', hm⟩)
      · exact absurd himplicit hnot
      · have hsame := hsplit.symm.trans (split_of_assigns hassigns')
        obtain ⟨rfl, hitems⟩ := Prod.mk.inj hsame
        obtain ⟨rfl, _⟩ := List.cons.inj hitems
        rw [if_neg (by simpa using hdecided), map_eq_ok_iff]
        exact ⟨m, valueSpec_eq_ok_iff.mpr hm, rfl⟩
  · simp only [hsplit]
    refine ⟨fun h => absurd h (by simp), ?_⟩
    rintro (⟨_, _, _, ⟨_, hfree⟩, _⟩ | ⟨_, _, spec, text, hassigns, _⟩)
    · rw [Text.split_of_not_mem hfree] at hsplit
      exact absurd hsplit (by simp)
    · rw [split_of_assigns hassigns] at hsplit
      exact absurd hsplit (by simp)

/-! ### Lists of mappings -/

theorem numericMappingsFrom_implicit {index : Nat} {items : List Text} {ms : List NumericMapping} :
    numericMappingsFrom true decimal (some .implicit) index items = .ok ms
      ↔ (∀ item ∈ items, ImplicitForm item) ∧ ms = numbered index items := by
  induction items generalizing index ms with
  | nil => simp [numericMappingsFrom, numbered, eq_comm]
  | cons item items ih =>
      simp only [numericMappingsFrom, bind_eq_ok_iff, numericMapping_eq_ok_iff, Prod.exists]
      rw [List.forall_mem_cons]
      constructor
      · rintro ⟨_, m, ⟨rfl, _, _, hitem, rfl⟩ | ⟨_, hdecided, _⟩, rest, hrest, hms⟩
        · obtain ⟨hitems, rfl⟩ := ih.mp hrest
          exact ⟨⟨hitem, hitems⟩, (Except.ok.inj hms).symm⟩
        · exact absurd rfl hdecided
      · rintro ⟨⟨hitem, hitems⟩, rfl⟩
        exact ⟨.implicit, _, .inl ⟨rfl, trivial, by simp, hitem, rfl⟩, _, ih.mpr ⟨hitems, rfl⟩, rfl⟩

theorem numericMappingsFrom_explicit {allowImplicit : Bool} {index : Nat} {items : List Text}
    {ms : List NumericMapping} :
    numericMappingsFrom allowImplicit decimal (some .explicit) index items = .ok ms
      ↔ List.Forall₂ (ExplicitForm decimal) items ms := by
  induction items generalizing index ms with
  | nil => simp [numericMappingsFrom, List.forall₂_nil_left_iff, eq_comm]
  | cons item items ih =>
      simp only [numericMappingsFrom, bind_eq_ok_iff, numericMapping_eq_ok_iff, Prod.exists]
      constructor
      · rintro ⟨_, m, ⟨_, _, hdecided, _⟩ | ⟨rfl, _, hm⟩, rest, hrest, hms⟩
        · exact absurd rfl hdecided
        · obtain rfl := Except.ok.inj hms
          exact .cons hm (ih.mp hrest)
      · intro h
        cases h with
        | cons hm hrest => exact ⟨.explicit, _, .inr ⟨rfl, by simp, hm⟩, _, ih.mpr hrest, rfl⟩

/-- The first item decides what the others have to be. -/
theorem numericMappingsFrom_eq_ok_iff {allowImplicit : Bool} {items : List Text}
    {ms : List NumericMapping} :
    numericMappingsFrom allowImplicit decimal none 0 items = .ok ms
      ↔ NumericForm allowImplicit decimal items ms := by
  cases items with
  | nil =>
      constructor
      · intro h
        obtain rfl := Except.ok.inj h
        exact .explicit .nil
      · intro h
        cases h with
        | implicit => rfl
        | explicit hitems =>
            cases hitems
            rfl
  | cons item items =>
      simp only [numericMappingsFrom, bind_eq_ok_iff, numericMapping_eq_ok_iff, Prod.exists]
      constructor
      · rintro ⟨_, m, ⟨rfl, rfl, _, hitem, rfl⟩ | ⟨rfl, _, hm⟩, rest, hrest, hms⟩
        · obtain rfl := Except.ok.inj hms
          obtain ⟨hitems, rfl⟩ := numericMappingsFrom_implicit.mp hrest
          exact .implicit rfl (List.forall_mem_cons.mpr ⟨hitem, hitems⟩)
        · obtain rfl := Except.ok.inj hms
          exact .explicit (.cons hm (numericMappingsFrom_explicit.mp hrest))
      · intro h
        cases h with
        | implicit hallowed hitems =>
            subst hallowed
            rw [List.forall_mem_cons] at hitems
            exact ⟨.implicit, _, .inl ⟨rfl, rfl, by simp, hitems.1, rfl⟩, _,
              numericMappingsFrom_implicit.mpr ⟨hitems.2, rfl⟩, rfl⟩
        | explicit hitems =>
            cases hitems with
            | cons hm hrest =>
                exact ⟨.explicit, _, .inr ⟨rfl, by simp, hm⟩, _,
                  numericMappingsFrom_explicit.mpr hrest, rfl⟩

theorem optional_eq_ok_iff {α : Type} {form : List Text → List α → Prop} {items : List Text}
    {read : Except ErrorCode (List α)} (hread : ∀ ms, read = .ok ms ↔ form items ms)
    {ms : Option (List α)} :
    (if items.isEmpty then .ok none else read.map some) = .ok ms ↔ OptionalForm form items ms := by
  cases items with
  | nil =>
      constructor
      · intro h
        obtain rfl := Except.ok.inj h
        exact .absent
      · intro h
        cases h with
        | absent => rfl
        | present hitems => exact absurd rfl hitems
  | cons item items =>
      show read.map some = .ok ms ↔ _
      rw [map_eq_ok_iff]
      constructor
      · rintro ⟨ms', hms, rfl⟩
        exact .present (by simp) ((hread ms').mp hms)
      · intro h
        cases h with
        | present _ h => exact ⟨_, (hread _).mpr h, rfl⟩

theorem numericMappings_eq_ok_iff {allowImplicit : Bool} {items : List Text}
    {ms : Option (List NumericMapping)} :
    numericMappings allowImplicit decimal items = .ok ms
      ↔ OptionalForm (NumericForm allowImplicit decimal) items ms :=
  optional_eq_ok_iff fun _ => numericMappingsFrom_eq_ok_iff

theorem textMapping_eq_ok_iff {item : Text} {m : TextMapping} :
    textMapping item = .ok m ↔ TextForm item m := by
  rw [textMapping]
  obtain ⟨hfree, hsplit⟩ | ⟨pattern, replacement, hassigns, hsplit⟩ | ⟨_, _, _, _, hsplit⟩ :=
    split_cases item
  · simp only [hsplit]
    refine ⟨fun h => absurd h (by simp), ?_⟩
    rintro ⟨⟨rfl, _⟩, _⟩
    simp at hfree
  · simp only [hsplit]
    constructor
    · intro h
      split at h
      · exact absurd h (by simp)
      · next hempty =>
          obtain rfl := Except.ok.inj h
          exact ⟨hassigns, by simpa using hempty⟩
    · rintro ⟨hassigns', hne⟩
      have hsame := hsplit.symm.trans (split_of_assigns hassigns')
      obtain ⟨rfl, hitems⟩ := Prod.mk.inj hsame
      obtain ⟨rfl, _⟩ := List.cons.inj hitems
      rw [if_neg (by simpa using hne)]
  · simp only [hsplit]
    refine ⟨fun h => absurd h (by simp), ?_⟩
    rintro ⟨hassigns, _⟩
    rw [split_of_assigns hassigns] at hsplit
    exact absurd hsplit (by simp)

theorem textMappings_eq_ok_iff {items : List Text} {ms : Option (List TextMapping)} :
    textMappings items = .ok ms ↔ OptionalForm (List.Forall₂ TextForm) items ms := by
  refine optional_eq_ok_iff fun ms => ?_
  simp only [mapM_eq_ok_iff, textMapping_eq_ok_iff]

/-! ### Presentations -/

theorem boolTexts_eq_ok_iff {off on : Text} {p : Presentation} :
    boolTexts off on = .ok p ↔ FlagForm off on p := by
  rw [boolTexts]
  constructor
  · intro h
    split at h
    · exact absurd h (by simp)
    · next hassign =>
        split at h
        · exact absurd h (by simp)
        · next hne =>
            obtain rfl := Except.ok.inj h
            rw [not_or] at hassign
            exact .texts hassign.1 hassign.2 hne
  · intro h
    cases h with
    | texts hoff hon hne => rw [if_neg (not_or.mpr ⟨hoff, hon⟩), if_neg hne]

theorem boolPresentation_eq_ok_iff {head : Text} {items : List Text} {p : Presentation} :
    boolPresentation head items = .ok p ↔ Form decimal .bool head items p := by
  constructor
  · intro h
    unfold boolPresentation at h
    split at h
    · obtain rfl := Except.ok.inj h
      exact .flag _
    · exact .glyphs _ (boolTexts_eq_ok_iff.mp h)
    · exact .flagTexts _ (boolTexts_eq_ok_iff.mp h)
    · exact absurd h (by simp)
  · intro h
    cases h with
    | flag => rfl
    | glyphs _ h => exact boolTexts_eq_ok_iff.mpr h
    | flagTexts _ h => exact boolTexts_eq_ok_iff.mpr h

theorem integerPresentation_eq_ok_iff {head : Text} {items : List Text} {p : Presentation} :
    integerPresentation decimal head items = .ok p ↔ Form decimal .integer head items p := by
  constructor
  · intro h
    rw [integerPresentation] at h
    split at h
    · exact absurd h (by simp)
    · next hlength =>
        obtain ⟨letter, rfl⟩ := List.length_eq_one_iff.mp (not_not.mp hlength)
        obtain ⟨ms, hms, rfl⟩ := map_eq_ok_iff.mp h
        exact .integer letter (numericMappings_eq_ok_iff.mp hms)
  · intro h
    cases h with
    | integer _ h => exact map_eq_ok_iff.mpr ⟨_, numericMappings_eq_ok_iff.mpr h, rfl⟩

theorem isNumberHead_iff {head : Text} :
    isNumberHead head = true
      ↔ ∃ (letter : Char) (digit : Option Char), head = letter :: digit.toList
        ∧ ∀ c ∈ digit, c.isDigit = true := by
  constructor
  · intro h
    unfold isNumberHead at h
    split at h
    · next letter => exact ⟨letter, none, rfl, by simp⟩
    · next letter digit => exact ⟨letter, some digit, rfl, by simpa using h⟩
    · exact absurd h (by simp)
  · rintro ⟨letter, digit, rfl, hdigit⟩
    cases digit with
    | none => rfl
    | some digit => exact hdigit digit rfl

theorem numberPresentation_eq_ok_iff {head : Text} {items : List Text} {p : Presentation} :
    numberPresentation decimal head items = .ok p ↔ Form decimal .number head items p := by
  rw [numberPresentation]
  constructor
  · intro h
    split at h
    · exact absurd h (by simp)
    · next hhead =>
        rw [Bool.not_eq_true', Bool.not_eq_false, isNumberHead_iff] at hhead
        obtain ⟨letter, digit, rfl, hdigit⟩ := hhead
        obtain ⟨ms, hms, rfl⟩ := map_eq_ok_iff.mp h
        exact .number letter hdigit (numericMappings_eq_ok_iff.mp hms)
  · intro h
    cases h with
    | number letter hdigit h =>
        rw [if_neg]
        · exact map_eq_ok_iff.mpr ⟨_, numericMappings_eq_ok_iff.mpr h, rfl⟩
        · rw [isNumberHead_iff.mpr ⟨letter, _, rfl, hdigit⟩]
          decide

theorem textPresentation_eq_ok_iff {letter : Char} {rest : Text} {items : List Text}
    {p : Presentation} :
    textPresentation (letter :: rest) items = .ok p ↔ Form decimal .text (letter :: rest) items p := by
  constructor
  · intro h
    rw [textPresentation] at h
    split at h
    · exact absurd h (by simp)
    · next hlength =>
        obtain rfl : rest = [] := by simpa using hlength
        obtain ⟨ms, hms, rfl⟩ := map_eq_ok_iff.mp h
        exact .text letter (textMappings_eq_ok_iff.mp hms)
  · intro h
    cases h with
    | text _ h => exact map_eq_ok_iff.mpr ⟨_, textMappings_eq_ok_iff.mpr h, rfl⟩

end PresentationGrammar

open PresentationGrammar in
/-- Behind a letter a presentation can be read exactly when it has a form, and the form says what it
is. -/
theorem Presentation.read_eq_ok_iff {kind : Kind} {decimal letter : Char} {rest : Text}
    {items : List Text} {p : Presentation} :
    Presentation.read kind decimal (letter :: rest) items = .ok p
      ↔ Form decimal kind (letter :: rest) items p := by
  cases kind with
  | bool => exact boolPresentation_eq_ok_iff
  | integer => exact integerPresentation_eq_ok_iff
  | number => exact numberPresentation_eq_ok_iff
  | text => exact textPresentation_eq_ok_iff

end TypedTemplate
