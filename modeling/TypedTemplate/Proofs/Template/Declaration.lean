import TypedTemplate.Proofs.Template.PlaceholderForm
/-!
# What a placeholder changes

A placeholder changes its session only by declaring a variable, and then by that variable alone. `Adds` says
what is new: one name is registered, one kind has one variable more, and a number is used up only where the
name was left out. A placeholder that is rejected or that shows a variable again leaves no trace, neither in
the session nor in anything the session answers later.
-/

namespace TypedTemplate

/-- What the body of a placeholder gives for a name: the part before its first colon, without blanks
around it. -/
def namePart (body : Text) : Text :=
  Text.trim (body.takeWhile fun c => c ≠ ':')

namespace Session

/-- A session with one more variable, declared by a placeholder. -/
structure Adds (s : Session) (body : Text) (v : Variable) (s' : Session) : Prop where
  declared_eq : s'.declared = s.declared ++ [v]
  free : s.lookup v.name = none
  lookup_eq : ∀ x, s'.lookup x = if x = v.name then some v else s.lookup x
  counts_eq : s'.counts = s.counts.bump v.kind
  /-- A name that is given uses up no number. -/
  named : namePart body ≠ [] → v.name = namePart body ∧ s'.generated = s.generated
  /-- A name that is left out uses up numbers of its kind. -/
  unnamed : namePart body = [] →
    v.name = generatedName v.kind (s'.generated.get v.kind)
      ∧ s.generated.get v.kind < s'.generated.get v.kind
      ∧ ∀ kind, kind ≠ v.kind → s'.generated.get kind = s.generated.get kind
  decimal_eq : s'.decimal = s.decimal

variable {s : Session}

theorem le_freeNumber (s : Session) (kind : Kind) (fuel number : Nat) :
    number ≤ s.freeNumber kind fuel number := by
  induction fuel generalizing number with
  | zero => exact Nat.le_refl number
  | succ fuel ih =>
      rw [freeNumber]
      split
      · have hnext := ih (number + 1)
        omega
      · exact Nat.le_refl number

theorem lt_nextNumber (s : Session) (kind : Kind) : s.generated.get kind < s.nextNumber kind := by
  have hle := s.le_freeNumber kind s.registry.length (s.generated.get kind + 1)
  exact hle

theorem namePart_append_cons {raw : Text} (hraw : ':' ∉ raw) (format : Text) :
    namePart (raw ++ ':' :: format) = raw.trim := by
  have hall : ∀ c ∈ raw, decide (c ≠ ':') = true := by
    intro c hc
    have hne : c ≠ ':' := by
      rintro rfl
      exact hraw hc
    simpa using hne
  rw [namePart, List.takeWhile_append_of_pos hall]
  simp

/-- How a declaration is recorded: under the name that is given, which is free, or under the next generated
one. -/
inductive Records (s : Session) (body : Text) (v : Variable) : Session → Prop
  | given (hgiven : namePart body ≠ []) (hname : v.name = namePart body)
      (hfree : s.lookup v.name = none) (hauthor : v.isGenerated = false) :
      Records s body v (s.register v)
  | generated (hblank : namePart body = []) (hname : v.name = generatedName v.kind (s.nextNumber v.kind))
      (hgenerated : v.isGenerated = true) :
      Records s body v
        ({ s with generated := s.generated.set v.kind (s.nextNumber v.kind) }.register v)

theorem records_of_place (hs : s.Sound) {body : Text} {span : Span} {v : Variable} {s' : Session}
    (h : s.place body span = (.declared v, s')) : s.Records body v s' := by
  rw [place] at h
  cases hread : s.read body with
  | error code => simp [hread] at h
  | ok r =>
      have hform := bodyForm_of_read hs hread
      cases hform with
      | inherited => simp [hread] at h
      | restyled => simp [hread] at h
      | @declaration raw format kind p hbody hraw hfree hformat =>
          have hpart : namePart body = raw.trim := by
            rw [hbody, namePart_append_cons hraw.1]
          rw [hread] at h
          by_cases hblank : raw.trim = []
          · simp only [hblank, if_pos, declare] at h
            obtain ⟨hv, rfl⟩ := Prod.mk.inj h
            obtain rfl := Token.declared.inj hv
            exact .generated (hpart.trans hblank) rfl rfl
          · simp only [hblank, if_false, declare] at h
            obtain ⟨hv, rfl⟩ := Prod.mk.inj h
            obtain rfl := Token.declared.inj hv
            exact .given (hpart ▸ hblank) hpart.symm (hs.lookup_eq_none_iff.mpr hfree) rfl

theorem Records.adds {body : Text} {v : Variable} {s' : Session} (h : s.Records body v s') :
    s.Adds body v s' := by
  cases h with
  | given hgiven hname hfree _ =>
      exact
        { declared_eq := rfl
          free := hfree
          lookup_eq := s.lookup_register v
          counts_eq := rfl
          named := fun _ => ⟨hname, rfl⟩
          unnamed := fun hblank => absurd hblank hgiven
          decimal_eq := rfl }
  | generated hblank hname _ =>
      have hnumber : (s.generated.set v.kind (s.nextNumber v.kind)).get v.kind = s.nextNumber v.kind :=
        PerKind.get_set_self _ _ _
      constructor
      case declared_eq => rfl
      case free =>
        rw [hname]
        exact s.lookup_nextNumber v.kind
      case lookup_eq => exact lookup_register _ v
      case counts_eq => rfl
      case named => exact fun hgiven => absurd hblank hgiven
      case unnamed =>
        refine fun _ => ⟨?_, ?_, fun kind hne => PerKind.get_set_of_ne _ _ hne⟩
        · show v.name = generatedName v.kind ((s.generated.set v.kind (s.nextNumber v.kind)).get v.kind)
          rw [hnumber, hname]
        · show s.generated.get v.kind < (s.generated.set v.kind (s.nextNumber v.kind)).get v.kind
          rw [hnumber]
          exact s.lt_nextNumber v.kind
      case decimal_eq => rfl

end Session

namespace Transcript

variable {t : Transcript}

/-- What a session answers depends on the session only: whatever was answered before, the same requests
are answered alike. -/
theorem answerAll_of_session_eq {u : Transcript} (h : u.session = t.session)
    (more : List Session.Request) :
    (u.answerAll more).session = (t.answerAll more).session
      ∧ (.restart ∉ more → ∃ answers, (t.answerAll more).tokens = t.tokens ++ answers
          ∧ (u.answerAll more).tokens = u.tokens ++ answers) := by
  induction more generalizing t u with
  | nil => exact ⟨h, fun _ => ⟨[], (List.append_nil _).symm, (List.append_nil _).symm⟩⟩
  | cons request more ih =>
      have hsession : (u.answer request).session = (t.answer request).session := by
        cases request <;> simp only [answer, h]
      obtain ⟨hfinal, hanswers⟩ := ih hsession
      refine ⟨hfinal, fun hmore => ?_⟩
      rw [List.mem_cons, not_or] at hmore
      have hfirst : ∃ first, (t.answer request).tokens = t.tokens ++ first
          ∧ (u.answer request).tokens = u.tokens ++ first := by
        cases request with
        | placeholder body span => exact ⟨_, rfl, by simp only [answer, h]⟩
        | template text => exact ⟨_, rfl, by simp only [answer, h]⟩
        | restart => exact absurd rfl hmore.1
      obtain ⟨first, hfirst, hfirst'⟩ := hfirst
      obtain ⟨answers, htokens, htokens'⟩ := hanswers hmore.2
      refine ⟨first ++ answers, ?_, ?_⟩
      · show ((t.answer request).answerAll more).tokens = _
        rw [htokens, hfirst, List.append_assoc]
      · show ((u.answer request).answerAll more).tokens = _
        rw [htokens', hfirst', List.append_assoc]

/-- What comes of placing a placeholder. -/
structure Places (t : Transcript) (body : Text) (span : Span) : Prop where
  isPlaceholder : (t.session.place body span).1.isPlaceholder = true
  error : ∀ e s', t.session.place body span = (.error e, s') →
    s' = t.session ∧ e.body = body ∧ e.span = span
  reference : ∀ r s', t.session.place body span = (.reference r, s') → s' = t.session
  declared : ∀ v s', t.session.place body span = (.declared v, s') → t.session.Adds body v s'
  /-- Without a declaration, whatever is asked afterwards is answered as if the placeholder had not been
  there. -/
  untouched : (t.session.place body span).1.declared? = none → ∀ more : List Session.Request,
    ((t.answer (.placeholder body span)).answerAll more).session = (t.answerAll more).session
      ∧ (.restart ∉ more → ∃ answers, (t.answerAll more).tokens = t.tokens ++ answers
          ∧ ((t.answer (.placeholder body span)).answerAll more).tokens
            = t.tokens ++ (t.session.place body span).1 :: answers)

theorem places_of_untouched {body : Text} {span : Span} {token : Token}
    (hplace : t.session.place body span = (token, t.session)) (hplaceholder : token.isPlaceholder = true)
    (hdeclared : ∀ v, token ≠ .declared v)
    (herror : ∀ e, token = .error e → e.body = body ∧ e.span = span) : t.Places body span where
  isPlaceholder := by rw [hplace, hplaceholder]
  error e s' he := by
    obtain ⟨htoken, hsession⟩ := Prod.mk.inj (hplace.symm.trans he)
    exact ⟨hsession.symm, herror e htoken⟩
  reference r s' hr := (Prod.mk.inj (hplace.symm.trans hr)).2.symm
  declared v s' hv := absurd (Prod.mk.inj (hplace.symm.trans hv)).1 (hdeclared v)
  untouched _ more := by
    have hanswer : t.answer (.placeholder body span) = ⟨t.session, t.tokens ++ [token]⟩ := by
      rw [answer, hplace]
    have hsame : (t.answer (.placeholder body span)).session = t.session := by rw [hanswer]
    obtain ⟨hsession, htokens⟩ := answerAll_of_session_eq hsame more
    refine ⟨hsession, fun hmore => ?_⟩
    obtain ⟨answers, hanswers, hanswers'⟩ := htokens hmore
    refine ⟨answers, hanswers, ?_⟩
    rw [hanswers', hanswer, hplace, List.append_assoc, List.singleton_append]

theorem Faithful.places (h : t.Faithful) (body : Text) (span : Span) : t.Places body span := by
  obtain ⟨code, hplace⟩ | ⟨r, hplace, _⟩ | ⟨v, s', hplace, _⟩ := t.session.place_cases body span
  · apply places_of_untouched hplace rfl (by simp)
    rintro _ ⟨⟩
    exact ⟨rfl, rfl⟩
  · exact places_of_untouched hplace rfl (by simp) (by simp)
  · constructor
    case isPlaceholder =>
      rw [hplace]
      rfl
    case error => simp [hplace]
    case reference => simp [hplace]
    case declared => exact fun _ _ hv => (Session.records_of_place h.sound hv).adds
    case untouched =>
      intro hnone
      rw [hplace] at hnone
      exact absurd hnone (by simp [Token.declared?])

/-- Whatever was asked of a session before, a placeholder changes it by the variable it declares or not at
all. -/
theorem places_answerAll (decimal : Char) (requests : List Session.Request) (body : Text)
    (span : Span) : ((opened decimal).answerAll requests).Places body span :=
  (faithful_answerAll decimal requests).places body span

/-- Placeholders that fail in their last mapping use up no number, and no name is registered for them. -/
example :
    let t := (opened ',').answerAll [.template "{:I}{:I|a|1=b}{x:N|1=a|2}{:I}{x}".toList]
    t.tokens.filterMap Token.name? = ["Integer 1".toList, "Integer 2".toList]
      ∧ (t.tokens.filterMap Token.error?).map PlaceholderError.code
        = [.mappingNoExplicitValues, .mappingNoImplicitValues, .placeholderNameNotFound] := by
  decide +kernel

end Transcript

end TypedTemplate
