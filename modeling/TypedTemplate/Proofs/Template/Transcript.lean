import TypedTemplate.Proofs.Template.Session
/-!
# The transcript of a session

A session is asked for placeholders and whole templates in any order, and may be restarted in between.
Its transcript keeps the tokens it has returned since the last restart, and these account for everything
the session remembers: the declarations among them are its variables, in order, and a reference shows a
variable that was declared before it. Whatever is asked, the transcript grows by one segment at a time, so
`Faithful.place` is the only step that has to be looked at.
-/

namespace TypedTemplate

/-- What a session can be asked for. -/
inductive Session.Request where
  | placeholder (body : Text) (span : Span)
  | template (text : Text)
  | restart
deriving DecidableEq

/-- A session with the tokens it has returned since it was last restarted. -/
structure Transcript where
  session : Session
  tokens : List Token := []

/-- The variable that a token declares. -/
def Token.declared? : Token → Option Variable
  | declared v => some v
  | _ => none

namespace Transcript

/-- The transcript of a session that was not asked for anything yet. -/
def opened (decimal : Char) : Transcript :=
  { session := { decimal } }

def place (t : Transcript) (segment : Segment) : Transcript :=
  let placed := t.session.placeSegment segment
  ⟨placed.2, t.tokens ++ [placed.1]⟩

def answer (t : Transcript) : Session.Request → Transcript
  | .placeholder body span =>
    let placed := t.session.place body span
    ⟨placed.2, t.tokens ++ [placed.1]⟩
  | .template text =>
    let tokenized := t.session.tokenize text
    ⟨tokenized.2, t.tokens ++ tokenized.1⟩
  | .restart => ⟨t.session.restart, []⟩

def answerAll (t : Transcript) (requests : List Session.Request) : Transcript :=
  requests.foldl answer t

/-- Where a reference comes from: its variable was declared before it and under its name, and it shows
that variable as it was declared or in a way that was read for the same kind. -/
structure Resolves (t : Transcript) (before : List Token) (r : Reference) : Prop where
  name_eq : r.name = r.target.name
  declared : .declared r.target ∈ before
  presentation : r.presentation = r.target.presentation
    ∨ t.session.Presents r.target.kind r.presentation

/-- A transcript whose tokens account for the variables and the references. -/
structure Faithful (t : Transcript) : Prop where
  sound : t.session.Sound
  declared_eq : t.tokens.filterMap Token.declared? = t.session.declared
  resolves : ∀ before r after, t.tokens = before ++ .reference r :: after → t.Resolves before r

variable {t : Transcript}

/-! ### One segment at a time -/

theorem foldl_place (t : Transcript) (segments : List Segment) :
    segments.foldl place t
      = ⟨(t.session.placeAll segments).2, t.tokens ++ (t.session.placeAll segments).1⟩ := by
  induction segments generalizing t with
  | nil => simp [Session.placeAll]
  | cons segment segments ih =>
      rw [List.foldl_cons, ih, place, Session.placeAll]
      simp

theorem answer_template (t : Transcript) (text : Text) :
    t.answer (.template text) = (Template.scan text).foldl place t := by
  rw [foldl_place]
  rfl

/-- What every segment keeps, and every restart if there is one, holds after any requests. -/
theorem answerAll_induction {p : Transcript → Prop} {requests : List Session.Request}
    (hplace : ∀ t segment, p t → p (t.place segment))
    (hrestart : .restart ∈ requests → ∀ t, p t → p (t.answer .restart)) (ht : p t) :
    p (t.answerAll requests) := by
  have hsegments : ∀ (segments : List Segment) (t : Transcript), p t → p (segments.foldl place t) := by
    intro segments
    induction segments with
    | nil => exact fun _ h => h
    | cons segment segments ih => exact fun t h => ih _ (hplace t segment h)
  induction requests generalizing t with
  | nil => exact ht
  | cons request requests ih =>
      apply ih
      · exact fun h => hrestart (List.mem_cons_of_mem _ h)
      · cases request with
        | placeholder body span => exact hplace t (.placeholder body span) ht
        | template text =>
            rw [answer_template]
            exact hsegments _ t ht
        | restart => exact hrestart List.mem_cons_self t ht

/-! ### What the tokens account for -/

theorem mem_tokens_of_lookup (h : t.Faithful) {x : Text} {v : Variable}
    (hlookup : t.session.lookup x = some v) : .declared v ∈ t.tokens := by
  have hmem := (h.sound.mem_of_lookup hlookup).1
  rw [← h.declared_eq, List.mem_filterMap] at hmem
  obtain ⟨token, htoken, hdeclared⟩ := hmem
  cases token with
  | declared w =>
      obtain rfl := Option.some.inj hdeclared
      exact htoken
  | text | error | reference => exact absurd hdeclared (by simp [Token.declared?])

theorem Faithful.resolves_concat (h : t.Faithful) {t' : Transcript} {token : Token}
    (hdecimal : t'.session.decimal = t.session.decimal) (htokens : t'.tokens = t.tokens ++ [token])
    (hlast : ∀ r, token = .reference r → t.session.Refers r) (before : List Token) (r : Reference)
    (after : List Token) (hsplit : t'.tokens = before ++ .reference r :: after) :
    t'.Resolves before r := by
  have hpresents : ∀ kind p, t.session.Presents kind p → t'.session.Presents kind p := by
    rintro kind p ⟨head, items, hp⟩
    exact ⟨head, items, hdecimal ▸ hp⟩
  rw [htokens] at hsplit
  -- the reference is the token that was added, or it stood before that one
  rcases List.eq_nil_or_concat after with rfl | ⟨rest, last, rfl⟩
  · obtain ⟨rfl, htoken⟩ := List.append_inj' hsplit rfl
    have hrefers := hlast r (List.singleton_inj.mp htoken)
    exact ⟨(h.sound.mem_of_lookup hrefers.lookup_eq).2.symm, mem_tokens_of_lookup h hrefers.lookup_eq,
      hrefers.presentation.imp_right (hpresents _ _)⟩
  · rw [List.concat_eq_append, ← List.cons_append, ← List.append_assoc] at hsplit
    obtain ⟨hbefore, _⟩ := List.append_inj' hsplit rfl
    obtain ⟨hname, hdeclared, hpresentation⟩ := h.resolves before r rest hbefore
    exact ⟨hname, hdeclared, hpresentation.imp_right (hpresents _ _)⟩

theorem placeSegment_cases (s : Session) (segment : Segment) :
    (∃ token, s.placeSegment segment = (token, s) ∧ token.declared? = none
        ∧ ∀ r, token = .reference r → s.Refers r)
      ∨ ∃ v s', s.placeSegment segment = (.declared v, s') ∧ s.Declares v s' := by
  cases segment with
  | text text => exact .inl ⟨.text text, rfl, rfl, by simp⟩
  | placeholder body span =>
      obtain ⟨code, hplace⟩ | ⟨r, hplace, hrefers⟩ | hdeclares := s.place_cases body span
      · exact .inl ⟨_, hplace, rfl, by simp⟩
      · refine .inl ⟨_, hplace, rfl, ?_⟩
        rintro _ ⟨⟩
        exact hrefers
      · exact .inr hdeclares

theorem Faithful.place (h : t.Faithful) (segment : Segment) : (t.place segment).Faithful := by
  obtain ⟨token, hplace, hdeclared, hrefers⟩ | ⟨v, s', hplace, hdeclares⟩ :=
    placeSegment_cases t.session segment
  · rw [Transcript.place, hplace]
    exact
      { sound := h.sound
        declared_eq := by simp [List.filterMap_append, hdeclared, h.declared_eq]
        resolves := h.resolves_concat rfl rfl hrefers }
  · have hdecimal : s'.decimal = t.session.decimal := by
      obtain ⟨generated, rfl⟩ := hdeclares.registered
      rfl
    rw [Transcript.place, hplace]
    exact
      { sound := hdeclares.sound h.sound
        declared_eq := by
          simp [List.filterMap_append, Token.declared?, h.declared_eq, hdeclares.declared_eq]
        resolves := h.resolves_concat hdecimal rfl (by simp) }

theorem faithful_opened (decimal : Char) : (opened decimal).Faithful where
  sound := Session.sound_opened decimal
  declared_eq := rfl
  resolves before r after h := by simp [opened] at h

theorem faithful_answerAll (decimal : Char) (requests : List Session.Request) :
    ((opened decimal).answerAll requests).Faithful := by
  apply answerAll_induction
  · exact fun t segment h => h.place segment
  · exact fun _ t _ => faithful_opened t.session.decimal
  · exact faithful_opened decimal

/-! ### The registry -/

theorem lookup_place {x : Text} {v : Variable} (h : t.session.lookup x = some v) (segment : Segment) :
    (t.place segment).session.lookup x = some v := by
  obtain ⟨token, hplace, _⟩ | ⟨w, s', hplace, hdeclares⟩ := placeSegment_cases t.session segment
  · rw [Transcript.place, hplace]
    exact h
  · have hne : x ≠ w.name := by
      intro hx
      rw [hx, hdeclares.lookup_eq_none] at h
      exact absurd h (by simp)
    obtain ⟨generated, rfl⟩ := hdeclares.registered
    rw [Transcript.place, hplace]
    show Session.lookup _ x = some v
    rw [Session.lookup_register, if_neg hne]
    exact h

theorem decimal_answerAll (decimal : Char) (requests : List Session.Request) :
    ((opened decimal).answerAll requests).session.decimal = decimal := by
  apply answerAll_induction (p := fun t => t.session.decimal = decimal)
  · intro t segment hdecimal
    obtain ⟨token, hplace, _⟩ | ⟨w, s', hplace, hdeclares⟩ := placeSegment_cases t.session segment
    · rw [Transcript.place, hplace]
      exact hdecimal
    · obtain ⟨generated, rfl⟩ := hdeclares.registered
      rw [Transcript.place, hplace]
      exact hdecimal
  · exact fun _ _ hdecimal => hdecimal
  · rfl

/-- What a session remembers, as the tokens it has returned since the last restart tell it. -/
structure Registers (t : Transcript) : Prop where
  nodup : (t.session.declared.map Variable.name).Nodup
  lookup_eq_some_iff : ∀ x v, t.session.lookup x = some v ↔ v ∈ t.session.declared ∧ v.name = x
  lookup_eq_none_iff : ∀ x, t.session.lookup x = none ↔ ∀ v ∈ t.session.declared, v.name ≠ x
  declared_eq : t.tokens.filterMap Token.declared? = t.session.declared
  declared_once : ∀ v ∈ t.session.declared,
    ((t.tokens.filterMap Token.declared?).map Variable.name).count v.name = 1
  counts_eq : t.session.counts = Tally.ofKinds (t.session.declared.map Variable.kind)
  resolves : ∀ before r after, t.tokens = before ++ .reference r :: after → t.Resolves before r

theorem Faithful.registers (h : t.Faithful) : t.Registers where
  nodup := h.sound.nodup
  lookup_eq_some_iff x v := h.sound.lookup_eq_some_iff
  lookup_eq_none_iff x := h.sound.lookup_eq_none_iff
  declared_eq := h.declared_eq
  declared_once v hv := by
    rw [h.declared_eq]
    exact List.count_eq_one_of_mem h.sound.nodup (List.mem_map_of_mem hv)
  counts_eq := h.sound.counts_eq
  resolves := h.resolves

/-- After any requests the tokens tell what the session remembers, and a name that stands for a variable
stands for it until the next restart. -/
theorem registers_answerAll (decimal : Char) (requests : List Session.Request) :
    let t := (opened decimal).answerAll requests
    t.Registers
      ∧ ∀ more : List Session.Request, .restart ∉ more → ∀ x v, t.session.lookup x = some v →
          (t.answerAll more).session.lookup x = some v := by
  refine ⟨(faithful_answerAll decimal requests).registers, fun more hmore x v hlookup => ?_⟩
  apply answerAll_induction (p := fun t => t.session.lookup x = some v)
  · exact fun t segment h => lookup_place h segment
  · exact fun h => absurd h hmore
  · exact hlookup

/-- Before the restart and after it, an author's name takes a number from the generated ones, and a
generated name is not given away again. -/
theorem registers_answerAll_of_contested_names :
    let requests := [
      .template "{:I}{Integer 1:F2}".toList, .restart, .placeholder "Integer 1:S".toList ⟨0, 13⟩,
      .template "{:I}{ Integer 2 :}{integer 3:B}".toList]
    let more := [.placeholder ":I".toList ⟨0, 4⟩, .template "{Integer 2:I|1=one}{Integer 2:S}".toList]
    let t := (opened '.').answerAll requests
    let v : Variable := ⟨.integer, "Integer 2".toList, true, ⟨['D'], none, none⟩, none⟩
    t.Registers ∧ t.session.lookup "Integer 2".toList = some v ∧ .restart ∉ more
      ∧ (t.answerAll more).session.lookup "Integer 2".toList = some v
      ∧ (t.answerAll more).session.counts = ⟨1, 2, 0, 1⟩ := by
  intro requests more t v
  have hlookup : t.session.lookup "Integer 2".toList = some v := by decide +kernel
  have hmore : .restart ∉ more := by decide
  obtain ⟨hregisters, hkept⟩ := registers_answerAll '.' requests
  exact ⟨hregisters, hlookup, hmore, hkept more hmore _ v hlookup, by decide +kernel⟩

end Transcript

end TypedTemplate
