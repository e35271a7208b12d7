import TypedTemplate.Proofs.Template.IntegerMappings
import TypedTemplate.Proofs.Template.Styling
import TypedTemplate.Proofs.Text.Replacement
/-!
# Mappings of texts

A placeholder for a text shows it after all of its replacements were made, one after the other in the order in
which they are written. Which replacements these are is read off the body: they stand behind its bars, and a
placeholder without a format has those of the variable it refers to. None of their patterns is empty, though a
mapping that is made by hand may have an empty one, and is then carried out as well.
-/

namespace TypedTemplate

open PresentationGrammar

/-- The kind of the variable that a placeholder shows. -/
def Reading.kind : Reading → Kind
  | .declaration kind _ _ => kind
  | .reuse r => r.target.kind

/-- The replacements of a placeholder: those behind its bars or, when it has no format, those of its variable. -/
inductive Session.Replacements (s : Session) (body : Text) : List TextMapping → Prop
  | written {raw : Text} {letter : Char} {items : List Text} {ms : List TextMapping}
      (hbody : body = raw ++ ':' :: Text.joined '|' [letter] items) (hraw : ':' ∉ raw)
      (hletter : letter ∈ Kind.text.letters) (hbars : ∀ item ∈ items, '|' ∉ item)
      (hitems : List.Forall₂ TextForm items ms) : Replacements s body ms
  | inherited {raw : Text} {v : Variable} (hbody : body = raw ∨ body = raw ++ [':']) (hraw : ':' ∉ raw)
      (hv : v ∈ s.declared) (hname : v.name = raw.trim) :
      Replacements s body (v.presentation.textMappings.getD [])

/-- A placeholder that shows a text after replacements made in turn. -/
structure Token.ReplacesInTurn (token : Token) (ms : List TextMapping) : Prop where
  /-- Whatever input the placeholder is bound to, its text goes through a pass for each mapping. -/
  rendered_iff : ∀ binding inputs separators t u,
    (∀ v ∈ (token.bind binding).shown?, v.binding.bind inputs.value = some (.text t)) →
      (renderToken inputs separators (token.bind binding) = .ok u ↔ TextMapping.Passes ms t u)
  unchanged : ∀ binding inputs separators t,
    (∀ v ∈ (token.bind binding).shown?, v.binding.bind inputs.value = some (.text t)) →
      (∀ m ∈ ms, ¬m.pattern <:+: t) → renderToken inputs separators (token.bind binding) = .ok t

/-! ### Reading -/

theorem PresentationGrammar.OptionalForm.forall₂_getD {α : Type} {form : Text → α → Prop} {items : List Text} {ms : Option (List α)}
    (h : OptionalForm (List.Forall₂ form) items ms) : List.Forall₂ form items (ms.getD []) := by
  cases h with
  | absent => exact .nil
  | present _ h => exact h

theorem FormatPart.exists_textForm {decimal : Char} {format : Text} {p : Presentation}
    (h : FormatPart decimal .text format p) :
    ∃ letter items, format = Text.joined '|' [letter] items ∧ letter ∈ Kind.text.letters
      ∧ (∀ item ∈ items, '|' ∉ item) ∧ List.Forall₂ TextForm items (p.textMappings.getD []) := by
  obtain ⟨_, letter, rest, items, rfl, hbars, hletter, hform⟩ := h
  cases hform with
  | text _ hmappings =>
      exact ⟨letter, items, rfl, hletter, (List.forall_mem_cons.mp hbars).2, hmappings.forall₂_getD⟩

theorem Presentation.WrittenFor.pattern_ne_nil {decimal : Char} {p : Presentation} (h : p.WrittenFor decimal .text) :
    ∀ m ∈ p.textMappings.getD [], m.pattern ≠ [] := by
  obtain ⟨_, hformat⟩ := h
  obtain ⟨_, items, _, _, _, hitems⟩ := FormatPart.exists_textForm hformat
  intro m hm
  obtain ⟨i, hi⟩ := List.mem_iff_getElem?.mp hm
  obtain ⟨_, _, hform⟩ := exists_getElem?_of_forall₂ hitems hi
  exact hform.2

namespace Session

variable {s : Session} {body : Text} {r : Reading}

theorem kind?_place (hread : s.read body = .ok r) (span : Span) : (s.place body span).1.kind? = some r.kind := by
  rw [place, hread]
  cases r with
  | reuse r => rfl
  | declaration kind name p => cases name <;> rfl

theorem exists_read_of_kind? {span : Span} {kind : Kind} (h : (s.place body span).1.kind? = some kind) :
    ∃ r, s.read body = .ok r ∧ r.kind = kind := by
  cases hread : s.read body with
  | error code =>
      rw [place, hread] at h
      exact absurd h (by simp [Token.kind?, Token.shown?])
  | ok r => exact ⟨r, rfl, Option.some.inj ((kind?_place hread span).symm.trans h)⟩

theorem replacements_of_read (hs : s.Sound) (hread : s.read body = .ok r) (hkind : r.kind = .text) :
    s.Replacements body (r.presentation.textMappings.getD []) := by
  cases bodyForm_of_read hs hread with
  | inherited hbody hraw hv hname => exact .inherited hbody hraw.1 hv hname
  | @restyled raw format v p hbody hraw _ _ hformat =>
      rw [show v.kind = .text from hkind] at hformat
      obtain ⟨letter, items, rfl, hletter, hbars, hitems⟩ := FormatPart.exists_textForm hformat
      exact .written hbody hraw.1 hletter hbars hitems
  | @declaration raw format kind p hbody hraw _ hformat =>
      obtain rfl : kind = .text := hkind
      obtain ⟨letter, items, rfl, hletter, hbars, hitems⟩ := FormatPart.exists_textForm hformat
      exact .written hbody hraw.1 hletter hbars hitems

theorem writtenFor_of_read (hs : s.Sound) (hstyled : s.Styled) (hread : s.read body = .ok r) :
    r.presentation.WrittenFor s.decimal r.kind := by
  have hwritten := styled_read hs hstyled hread
  cases r with
  | reuse r => exact hwritten
  | declaration kind name p => exact hwritten

end Session

/-! ### Showing -/

theorem Token.replacesInTurn_of_presentation? {token : Token} {p : Presentation} (hp : token.presentation? = some p) :
    token.ReplacesInTurn (p.textMappings.getD []) := by
  have hshown : ∀ binding inputs separators t,
      (∀ v ∈ (token.bind binding).shown?, v.binding.bind inputs.value = some (.text t)) →
        renderToken inputs separators (token.bind binding) = .ok (p.mapText t) := by
    intro binding inputs separators t hvalue
    rw [← presentation?_bind binding] at hp
    obtain ⟨v, hv⟩ : ∃ v, (token.bind binding).shown? = some v := by
      generalize token.bind binding = bound at hp
      cases bound with
      | text | error => exact absurd hp (by simp [presentation?])
      | declared v => exact ⟨v, rfl⟩
      | reference r => exact ⟨r.target, rfl⟩
    rw [renderToken_of_shown? hv hp, hvalue v hv]
    rfl
  constructor
  case rendered_iff =>
    intro binding inputs separators t u hvalue
    rw [hshown binding inputs separators t hvalue, Except.ok.injEq]
    exact p.passes_mapText.symm
  case unchanged =>
    intro binding inputs separators t hvalue hnone
    rw [hshown binding inputs separators t hvalue]
    exact congrArg _ (p.passes_mapText.mp (TextMapping.Passes.of_absent hnone))

/-- A mapping of texts replaces the occurrences of its pattern, and a placeholder for a text makes its replacements
one after the other. -/
theorem replacesInTurn_place :
    (∀ (m : TextMapping) (t : Text), (∃! ps, Text.Parts m.pattern t ps) ∧ ∀ u, m.apply t = u ↔ m.Pass t u)
      ∧ ∀ (decimal : Char) (requests : List Session.Request) (body : Text) (span : Span),
        let s := ((Transcript.opened decimal).answerAll requests).session
        let token := (s.place body span).1
        token.kind? = some .text →
          ∃ ms, s.Replacements body ms ∧ (∀ m ∈ ms, m.pattern ≠ []) ∧ token.ReplacesInTurn ms := by
  refine ⟨fun m t => ⟨Text.existsUnique_parts m.pattern t, fun u => TextMapping.pass_iff.symm⟩, ?_⟩
  intro decimal requests body span s token hkind
  have hs : s.Sound := (Transcript.faithful_answerAll decimal requests).sound
  have hstyled : s.Styled := Transcript.styled_answerAll decimal requests
  obtain ⟨r, hread, hr⟩ := Session.exists_read_of_kind? hkind
  have hwritten := Session.writtenFor_of_read hs hstyled hread
  rw [hr] at hwritten
  exact ⟨_, Session.replacements_of_read hs hread hr, hwritten.pattern_ne_nil,
    Token.replacesInTurn_of_presentation? (Session.presentation?_place hread span)⟩

/-- A pattern that overlaps itself, and a replacement that holds its pattern, in a reference without a format. -/
theorem replacesInTurn_place_of_overlaps :
    let s := ((Transcript.opened ',').answerAll [.template "{t:S|aa=a|é=aé}".toList]).session
    let token := (s.place " t ".toList ⟨0, 5⟩).1
    let binding : Variable → Option Handle := fun _ => some ⟨.text, 0⟩
    let inputs := ((InputBank.empty.resize (Tally.zero.bump .text)).put? ⟨.text, 0⟩ (.text "aaaaaé".toList)).getD .empty
    token.kind? = some .text
      ∧ (∃ ms, s.Replacements " t ".toList ms ∧ (∀ m ∈ ms, m.pattern ≠ []) ∧ token.ReplacesInTurn ms)
      ∧ (∀ v ∈ (token.bind binding).shown?, v.binding.bind inputs.value = some (.text "aaaaaé".toList))
      ∧ renderToken inputs {} (token.bind binding) = .ok "aaaaé".toList
      ∧ TextMapping.apply ⟨[], ['-']⟩ "aé".toList = "-a-é-".toList := by
  intro s token binding inputs
  have hkind : token.kind? = some .text := by decide +kernel
  refine ⟨hkind, replacesInTurn_place.2 ',' _ _ _ hkind, ?_, by decide +kernel, by decide +kernel⟩
  decide +kernel

end TypedTemplate
