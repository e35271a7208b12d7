import TypedTemplate.Proofs.Number.ReadBack
import TypedTemplate.Proofs.Template.BracePairs
import TypedTemplate.Proofs.Template.IntegerMappings
/-!
# Texts numbered from zero

A placeholder for an integer can list texts without saying which integers they are for: the first is for zero, and
so on. The place of a text becomes a number when it is kept, and so does the integer that is shown, but places are
counted with 32 bits and are far too small to be rounded. So an integer finds the text at its place, and none
if there is no such place. The placeholder declares its variable, or shows one that was declared before it, and a
placeholder with the bare name behind a declaration lists the same texts.
-/

namespace TypedTemplate

/-- Texts that a placeholder can list: no text is empty or has a character in it that would end it, and their
places can be counted. -/
structure Listable (texts : List Text) : Prop where
  ne_nil : texts ≠ []
  length_lt : texts.length < 2 ^ (32 : Nat)
  text_ne_nil : ∀ t ∈ texts, t ≠ []
  free : ∀ t ∈ texts, ∀ c ∈ ['=', '|', ':', '{', '}'], c ∉ t

/-- What is shown for an integer: the text at its place or else its digits. -/
def listed (texts : List Text) (n : Int64) : Text :=
  match n.toInt with
  | .ofNat i => texts[i]?.getD (Nat.toDigits 10 i)
  | .negSucc i => '-' :: Nat.toDigits 10 (i + 1)

/-- The body of a placeholder that lists texts. -/
def listingBody (raw : Text) (texts : List Text) : Text :=
  raw ++ ':' :: Text.joined '|' ['I'] texts

/-- A template that is a single placeholder and lists texts. -/
def listing (raw : Text) (texts : List Text) : Text :=
  '{' :: listingBody raw texts ++ ['}']

/-! ### The text at a place -/

theorem formatInteger_eq (n : Int64) :
    formatInteger n = (if n.toInt < 0 then ['-'] else []) ++ Nat.toDigits 10 n.toInt.natAbs := by
  rw [formatInteger, Numeral.plain, Numeral.write_nil_of_fraction_eq_nil rfl]
  simp [Numeral.ofInt, Numeral.sign]

namespace IntegerMapping

/-- Texts for the integers from a first one on. -/
def countedFrom (first : Nat) (texts : List Text) : List IntegerMapping :=
  (texts.zipIdx first).map fun p => exact p.2 p.1

theorem mem_countedFrom {first : Nat} {texts : List Text} {m : IntegerMapping}
    (h : m ∈ countedFrom first texts) : ∃ i t, i < first + texts.length ∧ m = exact i t := by
  obtain ⟨⟨t, i⟩, hp, rfl⟩ := List.mem_map.mp h
  exact ⟨i, t, by have := List.mem_zipIdx hp; omega, rfl⟩

theorem find?_countedFrom (first : Nat) (texts : List Text) (i : Nat) :
    ((countedFrom first texts).find? fun m => m.Selects id (first + i : Nat)).map text = texts[i]? := by
  induction texts generalizing first i with
  | nil => rfl
  | cons t texts ih =>
      rw [countedFrom, List.zipIdx_cons, List.map_cons, List.find?_cons]
      cases i with
      | zero =>
          have hfirst : (exact first t).Selects id (first + 0 : Nat) := selects_exact_iff.mpr rfl
          rw [decide_eq_true hfirst]
          rfl
      | succ i =>
          have hother : ¬(exact first t).Selects id (first + (i + 1) : Nat) := by
            rw [selects_exact_iff, id, id]
            omega
          have hrest := ih (first + 1) i
          rw [Nat.add_assoc, Nat.add_comm 1] at hrest
          rw [decide_eq_false hother]
          exact hrest

theorem find?_countedFrom_of_neg {texts : List Text} {n : Int} (hn : n < 0) :
    ((countedFrom 0 texts).find? fun m => m.Selects id n) = none := by
  rw [List.find?_eq_none]
  intro m hm
  obtain ⟨i, t, _, rfl⟩ := mem_countedFrom hm
  rw [decide_eq_true_iff, selects_exact_iff, id, id]
  omega

theorem shown_countedFrom {texts : List Text} (hlength : texts.length < 2 ^ (32 : Nat)) (n : Int64) :
    shown Binary64.nearestInt (countedFrom 0 texts) n = listed texts n := by
  have hexact : shown Binary64.nearestInt (countedFrom 0 texts) n = shown id (countedFrom 0 texts) n := by
    apply shown_eq_of_selects
    intro m hm
    apply selects_nearestInt_iff
    intro a ha
    obtain ⟨i, t, hi, rfl⟩ := mem_countedFrom hm
    have hplace : a = i := by simpa [exact, eq_comm] using ha
    have hbits : 2 ^ (32 : Nat) ≤ 2 ^ Binary64.significantBits := Nat.pow_le_pow_right (by decide) (by decide)
    omega
  rw [hexact, shown, formatInteger_eq, listed]
  cases n.toInt with
  | ofNat i =>
      have hfind := find?_countedFrom 0 texts i
      rw [Nat.zero_add] at hfind
      have hnonneg : ¬Int.ofNat i < 0 := Int.not_lt.mpr (Int.natCast_nonneg i)
      rw [if_neg hnonneg]
      simp [hfind]
  | negSucc i =>
      have hneg : Int.negSucc i < 0 := Int.negSucc_lt_zero i
      simp [find?_countedFrom_of_neg hneg, hneg]

end IntegerMapping

namespace PresentationGrammar

theorem standsFor_implicitNumber {i : Nat} (h : i < 2 ^ (32 : Nat)) : (implicitNumber i).StandsFor i := by
  have hstands := Binary64.standsFor_nearest false (Nat.le_of_lt (Nat.lt_trans h (by decide : 2 ^ 32 < 2 ^ 63)))
  rw [Binary64.signed, if_neg (by decide), ← Binary64.ofNat] at hstands
  rwa [implicitNumber, Nat.mod_eq_of_lt h]

/-- Texts that are numbered are kept for the integers from zero on. -/
theorem forall₂_keeps_numbered {texts : List Text} (hlength : texts.length < 2 ^ (32 : Nat)) :
    List.Forall₂ Keeps (numbered 0 texts) (IntegerMapping.countedFrom 0 texts) := by
  rw [numbered, IntegerMapping.countedFrom, List.forall₂_map_left_iff, List.forall₂_map_right_iff,
    List.forall₂_same]
  intro p hp
  have hlt : p.2 < 2 ^ (32 : Nat) := by
    have := List.mem_zipIdx hp
    omega
  exact keeps_exact (standsFor_implicitNumber hlt) p.1

end PresentationGrammar

open PresentationGrammar

/-- A presentation with numbered texts shows an integer by the text at its place. -/
theorem renderValue_of_numbered {p : Presentation} {texts : List Text} (hlength : texts.length < 2 ^ (32 : Nat))
    (hp : p.numericMappings = some (numbered 0 texts)) (separators : Separators) (n : Int64) :
    renderValue p separators (some (.integer n)) = listed texts n := by
  rw [renderValue_of_keeps hp (forall₂_keeps_numbered hlength), IntegerMapping.shown_countedFrom hlength]

/-! ### The placeholder -/

namespace Listable

variable {texts : List Text}

theorem not_mem_joined (h : Listable texts) {c : Char} (hc : c ∈ [':', '{', '}']) :
    c ∉ Text.joined '|' ['I'] texts := by
  have htexts : ∀ t ∈ texts, c ∉ t := fun t ht =>
    h.free t ht c (List.mem_cons_of_mem _ (List.mem_cons_of_mem _ hc))
  have hne : c ≠ 'I' ∧ c ≠ '|' := by
    rw [List.mem_cons, List.mem_cons, List.mem_singleton] at hc
    rcases hc with rfl | rfl | rfl <;> decide
  rw [Text.joined, List.mem_append, List.mem_singleton, List.mem_flatMap]
  rintro (hletter | ⟨t, ht, hmem⟩)
  · exact hne.1 hletter
  · obtain hbar | hmem := List.mem_cons.mp hmem
    · exact hne.2 hbar
    · exact htexts t ht hmem

theorem not_mem_bar (h : Listable texts) : ∀ t ∈ texts, '|' ∉ t :=
  fun t ht => h.free t ht '|' (by decide)

theorem formatPart (h : Listable texts) (decimal : Char) :
    FormatPart decimal .integer (Text.joined '|' ['I'] texts)
      { format := ['D'], numericMappings := some (numbered 0 texts) } := by
  have himplicit : ∀ t ∈ texts, ImplicitForm t := fun t ht =>
    ⟨h.text_ne_nil t ht, h.free t ht '=' (by decide)⟩
  have hpieces : ∀ piece ∈ ['I'] :: texts, '|' ∉ piece :=
    List.forall_mem_cons.mpr ⟨by decide, h.not_mem_bar⟩
  exact ⟨h.not_mem_joined (by decide), 'I', [], texts, rfl, hpieces, by decide,
    .integer 'I' (.present h.ne_nil (.implicit rfl himplicit))⟩

theorem eq_of_formatPart (h : Listable texts) {decimal : Char} {kind : Kind} {p : Presentation}
    (hformat : FormatPart decimal kind (Text.joined '|' ['I'] texts) p) :
    kind = .integer ∧ p.numericMappings = some (numbered 0 texts) := by
  obtain ⟨hletter, hform⟩ := Session.form_of_formatPart (by decide) h.not_mem_bar hformat
  obtain rfl := Kind.eq_of_mem_letters hletter (by decide : 'I' ∈ Kind.integer.letters)
  refine ⟨rfl, ?_⟩
  cases hform with
  | integer _ hmappings =>
      cases hmappings with
      | absent => exact absurd rfl h.ne_nil
      | present _ hnumeric =>
          cases hnumeric with
          | implicit => rfl
          | explicit hexplicit =>
              obtain ⟨t, ht⟩ := List.exists_mem_of_ne_nil texts h.ne_nil
              obtain ⟨i, hi⟩ := List.mem_iff_getElem?.mp ht
              obtain ⟨m, _, spec, text, hassigns, _⟩ := exists_getElem?_of_forall₂ hexplicit.flip hi
              exact absurd (mem_of_assigns hassigns) (h.free t ht '=' (by decide))

end Listable

theorem Text.Blanks.not_mem {blanks : Text} (h : blanks.Blanks) {c : Char} (hc : isBlank c = false) :
    c ∉ blanks := fun hmem => absurd (h c hmem) (by simp [hc])

theorem NamePart.bare {raw : Text} (h : NamePart raw) : raw.Bare := by
  obtain ⟨front, back, hfront, hback, hraw⟩ := Text.exists_eq_append_trim raw
  have hname : ∀ c, c = '{' ∨ c = '}' → c ∉ raw.trim := by
    intro c hc hmem
    rcases h.2 with hempty | ⟨first, rest, hform, halpha, hrest⟩
    · rw [hempty] at hmem
      exact absurd hmem List.not_mem_nil
    · rw [hform] at hmem
      obtain rfl | hmem := List.mem_cons.mp hmem
      · have hbraces : isAlphabetic '{' = false ∧ isAlphabetic '}' = false := by decide +kernel
        rcases hc with rfl | rfl
        · exact absurd halpha (by simp [hbraces])
        · exact absurd halpha (by simp [hbraces])
      · have hother := (hrest c hmem).2.2
        exact hc.elim hother.1 hother.2
  rw [hraw]
  constructor
  · simp [hfront.not_mem (c := '{') rfl, hback.not_mem (c := '{') rfl, hname '{' (.inl rfl)]
  · simp [hfront.not_mem (c := '}') rfl, hback.not_mem (c := '}') rfl, hname '}' (.inr rfl)]

theorem bare_listingBody {raw : Text} {texts : List Text} (hraw : NamePart raw) (htexts : Listable texts) :
    (listingBody raw texts).Bare := by
  have hopen := htexts.not_mem_joined (c := '{') (by decide)
  have hclose := htexts.not_mem_joined (c := '}') (by decide)
  constructor
  · simp [listingBody, hraw.bare.1, hopen]
  · simp [listingBody, hraw.bare.2, hclose]

/-- A token that shows an integer under a name through numbered texts. -/
structure Token.Lists (token : Token) (name : Text) (texts : List Text) : Prop where
  name_eq : token.name? = some name
  kind_eq : token.kind? = some .integer
  presentation : ∃ p, token.presentation? = some p ∧ p.numericMappings = some (numbered 0 texts)

theorem Token.Lists.bind {token : Token} {name : Text} {texts : List Text} (h : token.Lists name texts)
    (binding : Variable → Option Handle) : (token.bind binding).Lists name texts where
  name_eq := by rw [name?_bind, h.name_eq]
  kind_eq := by
    rw [← h.kind_eq, kind?, kind?, shown?_bind, Option.map_map]
    rfl
  presentation := by
    rw [presentation?_bind]
    exact h.presentation

namespace Session

variable {s : Session} {raw : Text} {texts : List Text}

/-- Whether it declares its variable or not, the placeholder lists its texts if it can be parsed. -/
theorem lists_place (hs : s.Sound) (hraw : NamePart raw) (hne : raw.trim ≠ []) (htexts : Listable texts)
    (span : Span) (hplace : (s.place (listingBody raw texts) span).1.error? = none) :
    (s.place (listingBody raw texts) span).1.Lists raw.trim texts := by
  obtain ⟨r, hread⟩ := (error?_place_eq_none_iff_read span).mp hplace
  obtain ⟨kind, p, hformat, hr⟩ :=
    (read_append_cons_eq_ok_iff hs hraw (htexts.formatPart s.decimal)).mp hread
  obtain ⟨rfl, hp⟩ := htexts.eq_of_formatPart hformat
  rw [place, hread]
  cases hlookup : s.lookup raw.trim with
  | some v =>
      rw [hlookup] at hr
      obtain ⟨hkind, rfl⟩ := hr
      exact ⟨rfl, congrArg some hkind, p, rfl, hp⟩
  | none =>
      rw [hlookup] at hr
      obtain rfl := hr
      rw [if_neg (by simpa using hne)]
      exact ⟨rfl, rfl, p, rfl, hp⟩

theorem exists_place_listing (hs : s.Sound) (hraw : NamePart raw) (hne : raw.trim ≠ []) (htexts : Listable texts)
    (hfree : ∀ v ∈ s.declared, v.name ≠ raw.trim) (span : Span) :
    ∃ v, s.place (listingBody raw texts) span = (.declared v, s.register v) ∧ v.name = raw.trim := by
  have hread := read_of_bodyForm hs (.declaration rfl hraw hfree (htexts.formatPart s.decimal))
  rw [if_neg hne] at hread
  rw [place, listingBody, hread]
  exact ⟨_, rfl, rfl⟩

theorem place_of_name (hs : s.Sound) {body : Text} {v : Variable} (hbody : NamePart body) (hv : v ∈ s.declared)
    (hname : v.name = body.trim) (span : Span) :
    s.place body span = (.reference ⟨v.name, v.presentation, v⟩, s) := by
  have hread := read_of_bodyForm hs (.inherited (.inl rfl) hbody hv hname)
  rw [place, hread, hname]

end Session

end TypedTemplate
