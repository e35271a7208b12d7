import TypedTemplate.Proofs.Template.PlaceholderForm
/-!
# Presentations and the kinds they are written for

A placeholder shows its variable in a presentation that was written for the kind of that variable: its own
when it has one, and otherwise the one the variable was declared with, which is of the same kind. A session
keeps this for the variables it remembers, so it holds of every token of every template, whichever template
the variable was declared in.
-/

namespace TypedTemplate

/-- A presentation that was written behind the colon of a placeholder of a kind. -/
def Presentation.WrittenFor (p : Presentation) (decimal : Char) (kind : Kind) : Prop :=
  ∃ format, FormatPart decimal kind format p

/-- A token that shows its variable, if it shows one, in a presentation written for its kind. -/
def Token.Styled (decimal : Char) (token : Token) : Prop :=
  ∀ v p, token.shown? = some v → token.presentation? = some p → p.WrittenFor decimal v.kind

/-- A session whose variables were declared in presentations written for their kinds. -/
def Session.Styled (s : Session) : Prop :=
  ∀ v ∈ s.declared, v.presentation.WrittenFor s.decimal v.kind

theorem Presentation.WrittenFor.format_ne_integerFormat {p : Presentation} {decimal : Char}
    (h : p.WrittenFor decimal .number) : p.format ≠ PresentationGrammar.integerFormat := by
  obtain ⟨_, _, letter, rest, items, _, _, hletter, hform⟩ := h
  intro hformat
  cases hform with
  | number =>
      have hhead : letter = 'D' := (List.cons.inj hformat).1
      rw [hhead] at hletter
      exact absurd hletter (by decide)

namespace Token

theorem styled_of_shown?_eq_none {token : Token} (h : token.shown? = none) (decimal : Char) :
    token.Styled decimal := by
  intro v p hv
  rw [h] at hv
  exact absurd hv (by simp)

theorem styled_of_writtenFor {token : Token} {v : Variable} {p : Presentation} {decimal : Char}
    (hv : token.shown? = some v) (hp : token.presentation? = some p) (h : p.WrittenFor decimal v.kind) :
    token.Styled decimal := by
  intro w q hw hq
  obtain rfl := Option.some.inj (hv.symm.trans hw)
  obtain rfl := Option.some.inj (hp.symm.trans hq)
  exact h

end Token

namespace Session

variable {s : Session}

theorem styled_read (hs : s.Sound) (hstyled : s.Styled) {body : Text} {r : Reading}
    (h : s.read body = .ok r) :
    match r with
    | .reuse r => r.presentation.WrittenFor s.decimal r.target.kind
    | .declaration kind _ p => p.WrittenFor s.decimal kind := by
  have hform := bodyForm_of_read hs h
  cases hform with
  | @inherited _ v _ _ hv => exact hstyled v hv
  | restyled _ _ _ _ hformat => exact ⟨_, hformat⟩
  | declaration _ _ _ hformat => exact ⟨_, hformat⟩

theorem styled_register {v : Variable} (hstyled : s.Styled)
    (hv : v.presentation.WrittenFor s.decimal v.kind) : (s.register v).Styled := by
  intro w hw
  obtain hw | hw := List.mem_append.mp hw
  · exact hstyled w hw
  · obtain rfl := List.mem_singleton.mp hw
    exact hv

theorem styled_declare (hstyled : s.Styled) {kind : Kind} {p : Presentation}
    (hp : p.WrittenFor s.decimal kind) (name : Option Text) :
    (s.declare kind name p).2.Styled ∧ (s.declare kind name p).2.decimal = s.decimal
      ∧ (Token.declared (s.declare kind name p).1).Styled s.decimal := by
  cases name with
  | some name => exact ⟨styled_register hstyled hp, rfl, Token.styled_of_writtenFor rfl rfl hp⟩
  | none => exact ⟨styled_register hstyled hp, rfl, Token.styled_of_writtenFor rfl rfl hp⟩

theorem styled_placeSegment (hs : s.Sound) (hstyled : s.Styled) (segment : Segment) :
    (s.placeSegment segment).2.Styled ∧ (s.placeSegment segment).2.decimal = s.decimal
      ∧ (s.placeSegment segment).1.Styled s.decimal := by
  cases segment with
  | text t => exact ⟨hstyled, rfl, Token.styled_of_shown?_eq_none rfl _⟩
  | placeholder body span =>
      rw [placeSegment, place]
      cases hread : s.read body with
      | error code => exact ⟨hstyled, rfl, Token.styled_of_shown?_eq_none rfl _⟩
      | ok r =>
          have hpresentation := styled_read hs hstyled hread
          cases r with
          | reuse r => exact ⟨hstyled, rfl, Token.styled_of_writtenFor rfl rfl hpresentation⟩
          | declaration kind name p => exact styled_declare hstyled hpresentation name

theorem styled_placeAll (hs : s.Sound) (hstyled : s.Styled) (segments : List Segment) :
    (s.placeAll segments).2.Styled ∧ (s.placeAll segments).2.decimal = s.decimal
      ∧ ∀ token ∈ (s.placeAll segments).1, token.Styled s.decimal := by
  induction segments generalizing s with
  | nil => exact ⟨hstyled, rfl, by simp [placeAll]⟩
  | cons segment segments ih =>
      obtain ⟨hnext, hdecimal, htoken⟩ := styled_placeSegment hs hstyled segment
      obtain ⟨hlast, hdecimal', htokens⟩ := ih (placeSegment_spec hs segment).1 hnext
      rw [hdecimal] at hdecimal' htokens
      exact ⟨hlast, hdecimal', List.forall_mem_cons.mpr ⟨htoken, htokens⟩⟩

end Session

/-- Whatever a session was asked for, it remembers its variables in presentations for their kinds. -/
theorem Transcript.styled_answerAll (decimal : Char) (requests : List Session.Request) :
    ((opened decimal).answerAll requests).session.Styled := by
  have hkept : ∀ t : Transcript, ∀ segment, t.session.Sound ∧ t.session.Styled →
      (t.place segment).session.Sound ∧ (t.place segment).session.Styled := by
    rintro t segment ⟨hs, hstyled⟩
    exact ⟨(Session.placeSegment_spec hs segment).1, (Session.styled_placeSegment hs hstyled segment).1⟩
  have hopened : ∀ c : Char, (opened c).session.Sound ∧ (opened c).session.Styled := fun c =>
    ⟨Session.sound_opened c, fun _ hv => absurd hv List.not_mem_nil⟩
  exact (answerAll_induction (p := fun t => t.session.Sound ∧ t.session.Styled) hkept
    (fun _ t _ => hopened t.session.decimal) (hopened decimal)).2

end TypedTemplate
