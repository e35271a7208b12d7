import TypedTemplate.Proofs.Template.PresentationForm
import TypedTemplate.Proofs.Template.Transcript
/-!
# The written form of a placeholder

What may stand between the braces of a placeholder, said by rules over the parts it is made of: a name or
blanks, and behind a colon a letter that stands for a kind and the form of a presentation of that kind.
What may be left out, and which kind is allowed, depends on the variables that are declared. A session
reads exactly the bodies that have a form, and what it reads is what the form says,
`Session.read_eq_ok_iff`.
-/

namespace TypedTemplate

/-! ### Letters -/

theorem eq_asciiUpper_or_eq_asciiLower (c : Char) :
    c = asciiUpper c ∨ c = asciiLower (asciiUpper c) := by
  by_cases hc : 'a' ≤ c ∧ c ≤ 'z'
  · right
    have hlow : 97 ≤ c.toNat := UInt32.le_iff_toNat_le.mp hc.1
    have hhigh : c.toNat ≤ 122 := UInt32.le_iff_toNat_le.mp hc.2
    have hupper : (asciiUpper c).toNat = c.toNat - 32 := by
      have hvalid : (c.toNat - 32).isValidChar := .inl (show c.toNat - 32 < 0xd800 by omega)
      rw [asciiUpper, if_pos hc, Char.ofNat, dif_pos hvalid]
      rfl
    have hcapital : 'A' ≤ asciiUpper c ∧ asciiUpper c ≤ 'Z' := by
      constructor
      · exact UInt32.le_iff_toNat_le.mpr (show 65 ≤ (asciiUpper c).toNat by omega)
      · exact UInt32.le_iff_toNat_le.mpr (show (asciiUpper c).toNat ≤ 90 by omega)
    rw [asciiLower, if_pos hcapital, hupper, Nat.sub_add_cancel (by omega), Char.ofNat_toNat]
  · left
    rw [asciiUpper, if_neg hc]

/-- The letters that stand for a kind. -/
def Kind.letters : Kind → List Char
  | bool => ['B', 'b']
  | integer => ['I', 'i']
  | number => ['F', 'f', 'G', 'g', 'N', 'n', 'P', 'p']
  | text => ['S', 's']

theorem Kind.ofLetter?_eq_some_iff {letter : Char} {kind : Kind} :
    ofLetter? letter = some kind ↔ letter ∈ kind.letters := by
  constructor
  · intro h
    have hletter := eq_asciiUpper_or_eq_asciiLower letter
    rw [ofLetter?] at h
    split at h
    case h_8 => exact absurd h (by simp)
    all_goals
      next hupper =>
        rw [hupper] at hletter
        obtain rfl := Option.some.inj h
        rcases hletter with rfl | rfl
        · decide
        · decide
  · intro h
    have hall : kind.letters.all (fun c => ofLetter? c = some kind) = true := by
      cases kind <;> decide
    simpa using List.all_eq_true.mp hall letter h

/-! ### The forms -/

/-- A name: a letter, and then letters, numerals, punctuation and spaces, but no colons and no braces. -/
def NameForm (t : Text) : Prop :=
  ∃ first rest, t = first :: rest ∧ isAlphabetic first = true
    ∧ ∀ c ∈ rest, (isAlphanumeric c = true ∨ isAsciiPunctuation c = true ∨ c = ' ')
        ∧ c ≠ ':' ∧ c ≠ '{' ∧ c ≠ '}'

/-- What stands before the colon: a name with blanks around it, or blanks only. -/
def NamePart (t : Text) : Prop :=
  ':' ∉ t ∧ (t.trim = [] ∨ NameForm t.trim)

/-- What stands behind the colon: pieces between bars, the first of them with a letter of the kind in
front. -/
def FormatPart (decimal : Char) (kind : Kind) (t : Text) (p : Presentation) : Prop :=
  ':' ∉ t ∧ ∃ letter rest items, t = Text.joined '|' (letter :: rest) items
    ∧ (∀ piece ∈ (letter :: rest) :: items, '|' ∉ piece)
    ∧ letter ∈ kind.letters ∧ PresentationGrammar.Form decimal kind (letter :: rest) items p

namespace Session

/-- The body of a placeholder, and what it says in a session: a variable shown as it was declared, a
variable shown in another way, or a declaration, for which a blank name is left to be generated. -/
inductive BodyForm (s : Session) (body : Text) : Reading → Prop
  | inherited {raw : Text} {v : Variable} (hbody : body = raw ∨ body = raw ++ [':'])
      (hraw : NamePart raw) (hv : v ∈ s.declared) (hname : v.name = raw.trim) :
      BodyForm s body (.reuse ⟨raw.trim, v.presentation, v⟩)
  | restyled {raw format : Text} {v : Variable} {p : Presentation}
      (hbody : body = raw ++ ':' :: format) (hraw : NamePart raw) (hv : v ∈ s.declared)
      (hname : v.name = raw.trim) (hformat : FormatPart s.decimal v.kind format p) :
      BodyForm s body (.reuse ⟨raw.trim, p, v⟩)
  | declaration {raw format : Text} {kind : Kind} {p : Presentation}
      (hbody : body = raw ++ ':' :: format) (hraw : NamePart raw)
      (hfree : ∀ v ∈ s.declared, v.name ≠ raw.trim) (hformat : FormatPart s.decimal kind format p) :
      BodyForm s body (.declaration kind (if raw.trim = [] then none else some raw.trim) p)

end Session

/-! ### Names -/

theorem isNameChar_iff {c : Char} :
    isNameChar c = true ↔ (isAlphanumeric c = true ∨ isAsciiPunctuation c = true ∨ c = ' ')
      ∧ c ≠ ':' ∧ c ≠ '{' ∧ c ≠ '}' := by
  simp only [isNameChar, Bool.and_eq_true, Bool.or_eq_true, bne_iff_ne, beq_iff_eq, or_assoc]
  tauto

theorem isName_iff {t : Text} : isName t = true ↔ NameForm t := by
  cases t with
  | nil => simp [isName, NameForm]
  | cons c t =>
      rw [isName, Bool.and_eq_true, List.all_eq_true]
      simp only [isNameChar_iff]
      constructor
      · intro h
        exact ⟨c, t, rfl, h⟩
      · rintro ⟨_, _, ht, h⟩
        obtain ⟨rfl, rfl⟩ := List.cons.inj ht
        exact h

/-! ### Bodies -/

theorem FormatPart.exists_cons {decimal : Char} {kind : Kind} {t : Text} {p : Presentation}
    (h : FormatPart decimal kind t p) : ∃ c rest, t = c :: rest := by
  obtain ⟨_, letter, rest, items, rfl, _⟩ := h
  exact ⟨letter, rest ++ items.flatMap ('|' :: ·), rfl⟩

namespace Session

variable {s : Session} {r : Reading}

theorem readFormat_eq_ok_iff_formatPart {name format : Text} {target : Option Variable}
    (hcolon : ':' ∉ format) :
    s.readFormat name target format = .ok r
      ↔ ∃ kind p, FormatPart s.decimal kind format p
        ∧ match target with
          | some v => v.kind = kind ∧ r = .reuse ⟨name, p, v⟩
          | none => r = .declaration kind (if name.isEmpty then none else some name) p := by
  rw [readFormat_eq_ok_iff]
  constructor
  · rintro ⟨kind, head, items, p, hsplit, hkind, hp, hr⟩
    obtain ⟨letter, hhead, hletter⟩ := Option.bind_eq_some_iff.mp hkind
    obtain ⟨rest, rfl⟩ := List.head?_eq_some_iff.mp hhead
    obtain ⟨hjoined, hfree⟩ := Text.split_eq_iff.mp hsplit
    have hform := Presentation.read_eq_ok_iff.mp hp
    exact ⟨kind, p, ⟨hcolon, letter, rest, items, hjoined, hfree,
      Kind.ofLetter?_eq_some_iff.mp hletter, hform⟩, hr⟩
  · rintro ⟨kind, p, ⟨_, letter, rest, items, hjoined, hfree, hletter, hform⟩, hr⟩
    exact ⟨kind, letter :: rest, items, p, Text.split_eq_iff.mpr ⟨hjoined, hfree⟩,
      Kind.ofLetter?_eq_some_iff.mpr hletter, Presentation.read_eq_ok_iff.mpr hform, hr⟩

theorem Sound.read_eq_ok_iff_of_cut (hs : s.Sound) {body raw : Text} {format : Option Text}
    (hcut : body.cut ':' = (raw, format)) :
    s.read body = .ok r
      ↔ body ≠ [] ∧ ':' ∉ format.getD [] ∧ (raw.trim = [] ∨ NameForm raw.trim)
        ∧ if format.getD [] = [] then
            ∃ v, s.lookup raw.trim = some v ∧ r = .reuse ⟨raw.trim, v.presentation, v⟩
          else s.readFormat raw.trim (s.lookup raw.trim) (format.getD []) = .ok r := by
  rw [← isName_iff]
  apply Session.read_eq_ok_iff_of_cut hcut
  -- no variable has an empty name, so looking one up finds nothing either
  split
  · next hempty =>
      rw [List.isEmpty_iff.mp hempty]
      exact (hs.lookup_eq_none_iff.mpr hs.named).symm
  · rfl

theorem bodyForm_of_read (hs : s.Sound) {body : Text} (hread : s.read body = .ok r) :
    s.BodyForm body r := by
  obtain ⟨hcolon, hcut⟩ | ⟨raw, format, rfl, hraw, hcut⟩ := Text.cut_cases ':' body
  · obtain ⟨_, _, hname, v, hlookup, rfl⟩ := (hs.read_eq_ok_iff_of_cut hcut).mp hread
    obtain ⟨hv, hvname⟩ := hs.mem_of_lookup hlookup
    exact .inherited (.inl rfl) ⟨hcolon, hname⟩ hv hvname
  · obtain ⟨_, hcolon, hname, h⟩ := (hs.read_eq_ok_iff_of_cut hcut).mp hread
    rw [Option.getD_some] at hcolon h
    split at h
    · next hempty =>
        subst hempty
        obtain ⟨v, hlookup, rfl⟩ := h
        obtain ⟨hv, hvname⟩ := hs.mem_of_lookup hlookup
        exact .inherited (.inr rfl) ⟨hraw, hname⟩ hv hvname
    · obtain ⟨kind, p, hformat, hr⟩ := (readFormat_eq_ok_iff_formatPart hcolon).mp h
      cases hlookup : s.lookup raw.trim with
      | some v =>
          rw [hlookup] at hr
          obtain ⟨rfl, rfl⟩ := hr
          obtain ⟨hv, hvname⟩ := hs.mem_of_lookup hlookup
          exact .restyled rfl ⟨hraw, hname⟩ hv hvname hformat
      | none =>
          rw [hlookup] at hr
          obtain rfl := hr
          simp only [List.isEmpty_iff]
          exact .declaration rfl ⟨hraw, hname⟩ (hs.lookup_eq_none_iff.mp hlookup) hformat

theorem read_append_cons_eq_ok_iff (hs : s.Sound) {raw format : Text} {kind : Kind} {p : Presentation}
    (hraw : NamePart raw) (hformat : FormatPart s.decimal kind format p) :
    s.read (raw ++ ':' :: format) = .ok r
      ↔ ∃ kind p, FormatPart s.decimal kind format p
        ∧ match s.lookup raw.trim with
          | some v => v.kind = kind ∧ r = .reuse ⟨raw.trim, p, v⟩
          | none => r = .declaration kind (if raw.trim.isEmpty then none else some raw.trim) p := by
  obtain ⟨c, rest, rfl⟩ := hformat.exists_cons
  rw [hs.read_eq_ok_iff_of_cut (Text.cut_append_cons hraw.1 _)]
  rw [Option.getD_some, if_neg (by simp), readFormat_eq_ok_iff_formatPart hformat.1]
  simp [hformat.1, hraw.2]

theorem read_of_bodyForm (hs : s.Sound) {body : Text} (h : s.BodyForm body r) :
    s.read body = .ok r := by
  cases h with
  | @inherited raw v hbody hraw hv hname =>
      have hlookup := hs.lookup_eq_some_iff.mpr ⟨hv, hname⟩
      rcases hbody with rfl | rfl
      · have hne : body ≠ [] := by
          rintro rfl
          exact hs.named v hv hname
        rw [hs.read_eq_ok_iff_of_cut (Text.cut_of_not_mem hraw.1)]
        exact ⟨hne, by simp, hraw.2, v, hlookup, rfl⟩
      · rw [hs.read_eq_ok_iff_of_cut (Text.cut_append_cons hraw.1 [])]
        exact ⟨by simp, by simp, hraw.2, v, hlookup, rfl⟩
  | @restyled raw format v p hbody hraw hv hname hformat =>
      subst hbody
      rw [read_append_cons_eq_ok_iff hs hraw hformat, hs.lookup_eq_some_iff.mpr ⟨hv, hname⟩]
      exact ⟨v.kind, p, hformat, rfl, rfl⟩
  | @declaration raw format kind p hbody hraw hfree hformat =>
      subst hbody
      rw [read_append_cons_eq_ok_iff hs hraw hformat, hs.lookup_eq_none_iff.mpr hfree]
      exact ⟨kind, p, hformat, by simp⟩

/-- A session reads the bodies that have a form, and reads them as the form says. -/
theorem read_eq_ok_iff (hs : s.Sound) {body : Text} : s.read body = .ok r ↔ s.BodyForm body r :=
  ⟨bodyForm_of_read hs, read_of_bodyForm hs⟩

theorem error?_place_eq_none_iff_read {body : Text} (span : Span) :
    (s.place body span).1.error? = none ↔ ∃ r, s.read body = .ok r := by
  rw [place]
  cases s.read body with
  | error code => simp [Token.error?]
  | ok r => cases r <;> simp [Token.error?]

end Session

/-- Whatever was asked of a session before, it accepts a placeholder exactly when the body has a form. -/
theorem Transcript.accepts_iff_bodyForm (decimal : Char) (requests : List Session.Request)
    (body : Text) (span : Span) :
    let s := ((opened decimal).answerAll requests).session
    (s.place body span).1.error? = none ↔ body ≠ [] ∧ ∃ r, s.BodyForm body r := by
  intro s
  have hs : s.Sound := (faithful_answerAll decimal requests).sound
  rw [Session.error?_place_eq_none_iff_read]
  constructor
  · rintro ⟨r, hread⟩
    refine ⟨?_, r, (Session.read_eq_ok_iff hs).mp hread⟩
    rintro rfl
    exact absurd hread (by simp [Session.read])
  · rintro ⟨_, r, hform⟩
    exact ⟨r, (Session.read_eq_ok_iff hs).mpr hform⟩

end TypedTemplate
