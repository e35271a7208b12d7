import TypedTemplate.Proofs.Node.Edition
import TypedTemplate.Proofs.Template.Scan
/-!
# Parsing a node and tokenizing its templates

A node that parses its templates stops at the first violation; a session that tokenizes the same templates
goes on. The two agree: where every template conforms the node has the tokens and the variables of the
session, bound to its inputs, and otherwise it reports the most urgent violation of the first template
that does not conform. A placeholder that is reported is found in its template by its span.
-/

namespace TypedTemplate

/-! ### Tokens without their inputs -/

/-- A variable as a session declares it, bound to no input. -/
def Variable.unbound (v : Variable) : Variable :=
  { v with binding := none }

/-- A token as a session leaves it, showing a variable that is bound to no input. -/
def Token.unbound (token : Token) : Token :=
  token.bind fun _ => none

theorem Variable.unbound_eq {v : Variable} (h : v.binding = none) : v.unbound = v := by
  rw [unbound, ← h]

theorem map_unbound_bindVariables (next : Tally) {vs : List Variable}
    (hunbound : ∀ v ∈ vs, v.binding = none) : (bindVariables next vs).map Variable.unbound = vs := by
  rw [map_bindVariables fun _ _ => rfl]
  exact (List.map_congr_left fun v hv => Variable.unbound_eq (hunbound v hv)).trans (List.map_id vs)

namespace Token

theorem unbound_bind (binding : Variable → Option Handle) (token : Token) :
    (token.bind binding).unbound = token.unbound := by
  cases token <;> rfl

theorem unbound_eq {token : Token} (h : ∀ v ∈ token.shown?, v.binding = none) : token.unbound = token := by
  cases token with
  | text t => rfl
  | error e => rfl
  | declared v => exact congrArg declared (Variable.unbound_eq (h v rfl))
  | reference r =>
      have htarget := Variable.unbound_eq (h r.target rfl)
      rw [Variable.unbound] at htarget
      rw [unbound, bind, htarget]

end Token

theorem Segment.ParsesTo.eq_placeholder {declared : List Variable} {segment : Segment}
    {e : PlaceholderError} (h : segment.ParsesTo declared (.error e)) :
    segment = .placeholder e.body e.span := by
  cases h with
  | error => rfl
  | shown body span hshown => exact absurd hshown (by simp [Token.shown?])

/-! ### What a session leaves -/

namespace Session

variable {s : Session}

theorem map_unbound_tokenizeEach (hs : s.Sound) (texts : List Text) :
    ((s.tokenizeEach texts).1.map fun t => t.tokens.map Token.unbound)
      = (s.tokenizeEach texts).1.map TokenizedTemplate.tokens := by
  have hfinal := (tokenizeEach_spec hs texts).1
  apply List.map_congr_left
  intro t ht
  refine (List.map_congr_left fun token htoken => ?_).trans (List.map_id t.tokens)
  obtain ⟨segment, hsegment⟩ := exists_parsesTo hs ht htoken
  exact Token.unbound_eq fun v hv => hfinal.unbound v (hsegment.of_shown? hv).1

theorem marks_of_mem_tokenizeEach (hs : s.Sound) {texts : List Text} {i : Nat} {t : TokenizedTemplate}
    (ht : (s.tokenizeEach texts).1[i]? = some t) {e : PlaceholderError} (he : .error e ∈ t.tokens) :
    ∃ text, texts[i]? = some text ∧ e.span.Marks text ('{' :: e.body ++ ['}']) := by
  obtain ⟨_, _, hturns⟩ := tokenizeEach_spec hs texts
  obtain ⟨text, htext, _, hparses⟩ := exists_getElem?_of_forall₂ hturns ht
  obtain ⟨j, hj⟩ := List.mem_iff_getElem?.mp he
  obtain ⟨segment, hsegment, hparse⟩ := exists_getElem?_of_forall₂ hparses hj
  have hscan := List.mem_of_getElem? hsegment
  rw [hparse.eq_placeholder] at hscan
  exact ⟨text, htext, Template.marks_of_mem_scan hscan⟩

end Session

/-- An edition holds what the session leaves, bound to inputs. -/
theorem Draft.map_unbound_edition {d : Draft} {s : Session} {ed : Edition}
    (hs : Session.ofSeparators d.settings.separators = .ok s) (hed : d.edition = .ok ed) :
    ed.tokens.map (List.map Token.unbound) = (s.tokenizeEach d.texts).1.map TokenizedTemplate.tokens
      ∧ ed.declared.map Variable.unbound = (s.tokenizeEach d.texts).2.declared := by
  have hsound := Session.sound_of_ofSeparators hs
  obtain ⟨s', hs', _, rfl⟩ := edition_eq_ok hed
  obtain rfl := Except.ok.inj (hs'.symm.trans hs)
  constructor
  · refine Eq.trans ?_ (Session.map_unbound_tokenizeEach hsound d.texts)
    rw [Edition.ofParsed, List.map_map, List.map_map]
    apply List.map_congr_left
    intro t _
    simp only [Function.comp_apply, List.map_map]
    exact List.map_congr_left fun token _ => Token.unbound_bind _ token
  · exact map_unbound_bindVariables .zero (Session.tokenizeEach_spec hsound _).1.unbound

/-! ### Where the two agree -/

namespace Node

variable {n : Node} {s : Session}

theorem fst_reparse_eq (hs : Session.ofSeparators n.settings.separators = .ok s) :
    n.reparse.1
      = match (TokenizedTemplate.allViolations n.settings.requirePlaceholders 0
            (s.tokenizeEach n.draft.texts).1).head? with
        | some e => .error e
        | none => .ok () := by
  rw [reparse_eq, Draft.edition, draft, ParsedTemplates.parse_eq hs]
  cases (TokenizedTemplate.allViolations n.settings.requirePlaceholders 0
    (s.tokenizeEach (n.templates.map Template.text)).1).head? with
  | some e => rfl
  | none => rfl

theorem reparse_eq_ok_iff (hs : Session.ofSeparators n.settings.separators = .ok s) :
    n.reparse.1 = .ok ()
      ↔ ∀ t ∈ (s.tokenizeEach n.draft.texts).1, t.Conforms n.settings.requirePlaceholders := by
  rw [← TokenizedTemplate.allViolations_eq_nil_iff 0, ← List.head?_eq_none_iff, fst_reparse_eq hs]
  split <;> simp_all

theorem reparse_eq_error_iff (hs : Session.ofSeparators n.settings.separators = .ok s)
    {e : ValidationError} :
    n.reparse.1 = .error e
      ↔ (TokenizedTemplate.allViolations n.settings.requirePlaceholders 0
          (s.tokenizeEach n.draft.texts).1).head? = some e := by
  rw [fst_reparse_eq hs]
  split <;> simp_all

theorem reparse_eq_error_iff_exists (hs : Session.ofSeparators n.settings.separators = .ok s)
    {e : ValidationError} :
    n.reparse.1 = .error e ↔ ∃ i t, (s.tokenizeEach n.draft.texts).1[i]? = some t
      ∧ ¬t.Conforms n.settings.requirePlaceholders
      ∧ (∀ (j : Nat) (u : TokenizedTemplate), j < i → (s.tokenizeEach n.draft.texts).1[j]? = some u →
          u.Conforms n.settings.requirePlaceholders)
      ∧ (t.violations n.settings.requirePlaceholders i).head? = some e
      ∧ e.template? = some i := by
  rw [reparse_eq_error_iff hs, TokenizedTemplate.head?_allViolations]
  constructor
  · rintro ⟨i, t, ht, hbefore, hhead⟩
    rw [Nat.zero_add] at hhead
    have hmem := List.mem_of_mem_head? hhead
    refine ⟨i, t, ht, fun hconforms => ?_, hbefore, hhead,
      TokenizedTemplate.template?_of_mem_violations hmem⟩
    rw [TokenizedTemplate.violations_eq_nil_iff.mpr hconforms] at hmem
    exact absurd hmem (by simp)
  · rintro ⟨i, t, ht, _, hbefore, hhead, _⟩
    exact ⟨i, t, ht, hbefore, by rwa [Nat.zero_add]⟩

theorem marks_of_reparse_eq_error (hs : Session.ofSeparators n.settings.separators = .ok s) {i : Nat}
    {e : PlaceholderError} (he : n.reparse.1 = .error (.placeholder i e)) :
    ∃ t, n.templates[i]? = some t ∧ e.span.Marks t.text ('{' :: e.body ++ ['}']) := by
  obtain ⟨j, t, ht, _, _, hhead, hindex⟩ := (reparse_eq_error_iff_exists hs).mp he
  obtain rfl : i = j := Option.some.inj hindex
  obtain ⟨_, hcode⟩ | ⟨err, herr, hmem⟩ :=
    TokenizedTemplate.violation_cases (List.mem_of_mem_head? hhead)
  · exact absurd hcode (by simp)
  · obtain ⟨_, rfl⟩ := ValidationError.placeholder.inj herr
    have hsound := Session.sound_of_ofSeparators hs
    obtain ⟨text, htext, hmarks⟩ := Session.marks_of_mem_tokenizeEach hsound ht hmem
    rw [draft, List.getElem?_map] at htext
    obtain ⟨u, hu, rfl⟩ := Option.map_eq_some_iff.mp htext
    exact ⟨u, hu, hmarks⟩

/-- What parsing a node comes to, in terms of its templates tokenized in turn. -/
structure ParsesLike (n : Node) (turns : List TokenizedTemplate) (declared : List Variable) : Prop where
  accepted_iff : n.reparse.1 = .ok () ↔ ∀ t ∈ turns, t.Conforms n.settings.requirePlaceholders
  tokens_eq : n.reparse.1 = .ok () →
    (n.reparse.2.templates.map Template.tokens).map (List.map Token.unbound)
      = turns.map TokenizedTemplate.tokens
  declared_eq : n.reparse.1 = .ok () → n.reparse.2.declared.map Variable.unbound = declared
  /-- The error is the most urgent violation of the first template that does not conform. -/
  rejected_iff : ∀ e, n.reparse.1 = .error e ↔ ∃ i t, turns[i]? = some t
    ∧ ¬t.Conforms n.settings.requirePlaceholders
    ∧ (∀ (j : Nat) (u : TokenizedTemplate), j < i → turns[j]? = some u →
        u.Conforms n.settings.requirePlaceholders)
    ∧ (t.violations n.settings.requirePlaceholders i).head? = some e
    ∧ e.template? = some i
  /-- A placeholder that is reported stands where its span says. -/
  marks : ∀ i e, n.reparse.1 = .error (.placeholder i e) →
    ∃ t, n.templates[i]? = some t ∧ e.span.Marks t.text ('{' :: e.body ++ ['}'])

/-- Without usable separators a node reports what is wrong with them. With them it parses its templates
like the session for them does. -/
theorem reparse_agrees_with_tokenizing (n : Node) :
    (∀ code, Session.ofSeparators n.settings.separators = .error code →
        n.reparse.1 = .error (.separator code))
      ∧ ∀ s, Session.ofSeparators n.settings.separators = .ok s →
        let tokenized := s.tokenizeEach (n.templates.map Template.text)
        n.ParsesLike tokenized.1 tokenized.2.declared := by
  refine ⟨fun code hcode => ?_, fun s hs => ?_⟩
  · have hparse : ParsedTemplates.parse n.settings (n.templates.map Template.text)
        = .error (.separator code) := by
      rw [ParsedTemplates.parse, hcode]
    rw [reparse, hparse]
  · exact
      { accepted_iff := reparse_eq_ok_iff hs
        tokens_eq := fun hok => by
          obtain ⟨ed, hed, hreparse⟩ := exists_of_reparse_eq_ok hok
          rw [hreparse, map_tokens_publish hed]
          exact (Draft.map_unbound_edition hs hed).1
        declared_eq := fun hok => by
          obtain ⟨ed, hed, hreparse⟩ := exists_of_reparse_eq_ok hok
          rw [hreparse]
          exact (Draft.map_unbound_edition hs hed).2
        rejected_iff := fun _ => reparse_eq_error_iff_exists hs
        marks := fun _ _ => marks_of_reparse_eq_error hs }

/-- The session goes on after the fault of the second template; the node reports that fault. -/
theorem reparse_agrees_with_tokenizing_at_fault :
    let n := unparsed ⟨{}, ["{a:I}".toList, "é {a} {a:S} {b:N}".toList, [], "{b}".toList]⟩
    let s : Session := { decimal := ',' }
    let tokenized := s.tokenizeEach (n.templates.map Template.text)
    Session.ofSeparators n.settings.separators = .ok s
      ∧ n.ParsesLike tokenized.1 tokenized.2.declared
      ∧ tokenized.2.declared.length = 2
      ∧ n.reparse.1
        = .error (.placeholder 1 ⟨"a:S".toList, .placeholderReuseWrongType, ⟨7, 12⟩⟩) :=
  ⟨rfl, (reparse_agrees_with_tokenizing _).2 _ rfl, rfl, rfl⟩

end Node

end TypedTemplate
