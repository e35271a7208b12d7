import TypedTemplate.Node.Parse
import TypedTemplate.Proofs.Outcome
import TypedTemplate.Proofs.Template.Session
/-!
# Violations

The templates of a node are parsed up to the first violation. Tokenizing them in turn goes on to the end
instead, and leaves everything a policy could object to in sight: `violations` lists what is wrong with a
template once it has had its turn, the most urgent first. Parsing comes to the tokens of all templates when
there is nothing to list, and otherwise reports the head of the list, `parse_eq`. What a session does after
the first violation is thereby irrelevant.
-/

namespace TypedTemplate

/-- A template after its turn in a session: its text, its tokens, and the variables counted so far. -/
structure TokenizedTemplate where
  text : Text
  tokens : List Token
  counts : Tally

/-- Tokenizes templates in turn. -/
def Session.tokenizeEach (s : Session) : List Text → List TokenizedTemplate × Session
  | [] => ([], s)
  | text :: texts =>
    let turn := s.tokenize text
    let rest := turn.2.tokenizeEach texts
    (⟨text, turn.1, turn.2.counts⟩ :: rest.1, rest.2)

/-- In turn, every template is parsed segment by segment, and what its tokens show is declared at the
end. -/
theorem Session.tokenizeEach_spec {s : Session} (hs : s.Sound) (texts : List Text) :
    (s.tokenizeEach texts).2.Sound
      ∧ s.declared ⊆ (s.tokenizeEach texts).2.declared
      ∧ List.Forall₂ (fun text t => t.text = text ∧ List.Forall₂
          (Segment.ParsesTo (s.tokenizeEach texts).2.declared) (Template.scan text) t.tokens)
          texts (s.tokenizeEach texts).1 := by
  induction texts generalizing s with
  | nil => exact ⟨hs, List.Subset.refl _, .nil⟩
  | cons text texts ih =>
      obtain ⟨hsound, hsubset, hparses⟩ := placeAll_spec hs (Template.scan text)
      obtain ⟨hfinal, hsubset', hrest⟩ := ih hsound
      refine ⟨hfinal, List.Subset.trans hsubset hsubset', .cons ⟨rfl, ?_⟩ hrest⟩
      exact hparses.imp fun _ _ h => h.mono hsubset'

theorem Session.exists_parsesTo {s : Session} (hs : s.Sound) {texts : List Text}
    {t : TokenizedTemplate} (ht : t ∈ (s.tokenizeEach texts).1) {token : Token}
    (htoken : token ∈ t.tokens) :
    ∃ segment, Segment.ParsesTo (s.tokenizeEach texts).2.declared segment token := by
  obtain ⟨_, _, hturns⟩ := tokenizeEach_spec hs texts
  obtain ⟨i, hi⟩ := List.mem_iff_getElem?.mp ht
  obtain ⟨text, _, _, hparses⟩ := exists_getElem?_of_forall₂ hturns hi
  obtain ⟨j, hj⟩ := List.mem_iff_getElem?.mp htoken
  obtain ⟨segment, _, hsegment⟩ := exists_getElem?_of_forall₂ hparses hj
  exact ⟨segment, hsegment⟩

namespace TokenizedTemplate

/-- A template no policy objects to. -/
structure Conforms (required : Bool) (t : TokenizedTemplate) : Prop where
  parsed : ∀ token ∈ t.tokens, token.error? = none
  size : t.tokens.length ≤ 301
  counts : ∀ kind, t.counts.get kind ≤ 50
  used : required = true → t.text ≠ [] ∧ ∃ token ∈ t.tokens, token.isPlaceholder = true

/-- What is wrong with the template at an index, the most urgent first. -/
def violations (required : Bool) (index : Nat) (t : TokenizedTemplate) : List ValidationError :=
  (if required && t.text.isEmpty then [.template index .emptyTemplate] else [])
    ++ (if 301 < t.tokens.length then [.template index .tooManyPlaceholders] else [])
    ++ (t.tokens.filterMap Token.error?).map (.placeholder index)
    ++ (Kind.all.filter fun kind => 50 < t.counts.get kind).map
        (fun kind => .template index (.tooMany kind))
    ++ (if required && !t.tokens.any Token.isPlaceholder then [.template index .noPlaceholder] else [])

theorem violations_eq_nil_iff {required : Bool} {index : Nat} {t : TokenizedTemplate} :
    t.violations required index = [] ↔ t.Conforms required := by
  have hkinds : (Kind.all.filter fun kind => 50 < t.counts.get kind) = []
      ↔ ∀ kind, t.counts.get kind ≤ 50 := by
    rw [List.filter_eq_nil_iff]
    constructor
    · intro h kind
      simpa using h kind (Kind.mem_all kind)
    · intro h kind _
      simpa using h kind
  have herrors : t.tokens.filterMap Token.error? = [] ↔ ∀ token ∈ t.tokens, token.error? = none :=
    List.filterMap_eq_nil_iff
  simp only [violations, List.append_eq_nil_iff, List.map_eq_nil_iff, hkinds, herrors]
  constructor
  · rintro ⟨⟨⟨⟨hempty, hsize⟩, hparsed⟩, hcounts⟩, hplaceholder⟩
    refine ⟨hparsed, by simpa using hsize, hcounts, ?_⟩
    rintro rfl
    exact ⟨by simpa using hempty, by simpa using hplaceholder⟩
  · rintro ⟨hparsed, hsize, hcounts, hused⟩
    refine ⟨⟨⟨⟨?_, by simpa using hsize⟩, hparsed⟩, hcounts⟩, ?_⟩
    · cases required <;> simp_all
    · cases required <;> simp_all

theorem head?_violations (required : Bool) (index : Nat) (t : TokenizedTemplate) :
    (t.violations required index).head?
      = if required && t.text.isEmpty then some (.template index .emptyTemplate)
        else if 301 < t.tokens.length then some (.template index .tooManyPlaceholders)
        else
          match (t.tokens.filterMap Token.error?).head?, Kind.all.find? (50 < t.counts.get ·) with
          | some e, _ => some (.placeholder index e)
          | none, some kind => some (.template index (.tooMany kind))
          | none, none =>
            if required && !t.tokens.any Token.isPlaceholder then some (.template index .noPlaceholder)
            else none := by
  simp only [violations, List.head?_append, List.head?_map, List.head?_filter]
  split
  · rfl
  · split
    · rfl
    · generalize (t.tokens.filterMap Token.error?).head? = firstError
      generalize Kind.all.find? (fun kind => 50 < t.counts.get kind) = firstKind
      cases firstError with
      | some e => rfl
      | none =>
          cases firstKind with
          | some kind => rfl
          | none =>
              simp only
              split <;> rfl

theorem violation_cases {required : Bool} {index : Nat} {t : TokenizedTemplate} {e : ValidationError}
    (h : e ∈ t.violations required index) :
    (∃ code, e = .template index code) ∨ ∃ err, e = .placeholder index err ∧ .error err ∈ t.tokens := by
  simp only [violations, List.mem_append, List.mem_map] at h
  rcases h with (((h | h) | ⟨err, herr, rfl⟩) | ⟨kind, _, rfl⟩) | h
  · split at h
    · exact .inl ⟨_, List.mem_singleton.mp h⟩
    · exact absurd h (by simp)
  · split at h
    · exact .inl ⟨_, List.mem_singleton.mp h⟩
    · exact absurd h (by simp)
  · obtain ⟨token, htoken, herror⟩ := List.mem_filterMap.mp herr
    cases token with
    | error err' =>
        obtain rfl := Option.some.inj herror
        exact .inr ⟨err', rfl, htoken⟩
    | text | declared | reference => exact absurd herror (by simp [Token.error?])
  · exact .inl ⟨_, rfl⟩
  · split at h
    · exact .inl ⟨_, List.mem_singleton.mp h⟩
    · exact absurd h (by simp)

theorem template?_of_mem_violations {required : Bool} {index : Nat} {t : TokenizedTemplate}
    {e : ValidationError} (h : e ∈ t.violations required index) : e.template? = some index := by
  obtain ⟨code, rfl⟩ | ⟨err, rfl, _⟩ := violation_cases h
  · rfl
  · rfl

/-- What is wrong with templates, in reading order, the first one standing at the given index. -/
def allViolations (required : Bool) (index : Nat) : List TokenizedTemplate → List ValidationError
  | [] => []
  | t :: ts => t.violations required index ++ allViolations required (index + 1) ts

theorem allViolations_eq_nil_iff {required : Bool} (index : Nat) {ts : List TokenizedTemplate} :
    allViolations required index ts = [] ↔ ∀ t ∈ ts, t.Conforms required := by
  induction ts generalizing index with
  | nil => simp [allViolations]
  | cons t ts ih =>
      rw [allViolations, List.append_eq_nil_iff, violations_eq_nil_iff, ih, List.forall_mem_cons]

/-- The first violation is the most urgent one of the first template that does not conform. -/
theorem head?_allViolations {required : Bool} {index : Nat} {ts : List TokenizedTemplate}
    {e : ValidationError} :
    (allViolations required index ts).head? = some e
      ↔ ∃ i t, ts[i]? = some t
          ∧ (∀ (j : Nat) (u : TokenizedTemplate), j < i → ts[j]? = some u → u.Conforms required)
          ∧ (t.violations required (index + i)).head? = some e := by
  induction ts generalizing index with
  | nil => simp [allViolations]
  | cons t ts ih =>
      rw [allViolations, List.head?_append]
      by_cases hconforms : t.Conforms required
      · rw [violations_eq_nil_iff.mpr hconforms, List.head?_nil, Option.none_or, ih]
        constructor
        · rintro ⟨i, u, hu, hbefore, hhead⟩
          refine ⟨i + 1, u, hu, fun j w hj hw => ?_, by rwa [Nat.add_comm i, ← Nat.add_assoc]⟩
          cases j with
          | zero =>
              obtain rfl := Option.some.inj hw
              exact hconforms
          | succ j => exact hbefore j w (by omega) hw
        · rintro ⟨i, u, hu, hbefore, hhead⟩
          cases i with
          | zero =>
              obtain rfl := Option.some.inj hu
              rw [violations_eq_nil_iff.mpr hconforms] at hhead
              exact absurd hhead (by simp)
          | succ i =>
              refine ⟨i, u, hu, fun j w hj hw => hbefore (j + 1) w (by omega) hw, ?_⟩
              rwa [Nat.add_assoc, Nat.add_comm 1]
      · cases hviolations : t.violations required index with
        | nil => exact absurd (violations_eq_nil_iff.mp hviolations) hconforms
        | cons first more =>
            rw [List.head?_cons, Option.some_or]
            constructor
            · intro hfirst
              refine ⟨0, t, rfl, fun j _ hj => absurd hj (by omega), ?_⟩
              rw [Nat.add_zero, hviolations, List.head?_cons, hfirst]
            · rintro ⟨i, u, hu, hbefore, hhead⟩
              cases i with
              | zero =>
                  obtain rfl := Option.some.inj hu
                  rwa [Nat.add_zero, hviolations, List.head?_cons] at hhead
              | succ i => exact absurd (hbefore 0 t (by omega) rfl) hconforms

end TokenizedTemplate

namespace ParsedTemplates

theorem placeSegments_eq (index : Nat) (s : Session) (segments : List Segment) :
    placeSegments index s segments
      = match ((s.placeAll segments).1.filterMap Token.error?).head? with
        | some e => .error (.placeholder index e)
        | none => .ok (s.placeAll segments) := by
  induction segments generalizing s with
  | nil => rfl
  | cons segment segments ih =>
      rw [placeSegments, Session.placeAll]
      cases herror : (s.placeSegment segment).1.error? with
      | some e => simp [herror]
      | none =>
          simp only [herror, ih, List.filterMap_cons]
          split <;> simp_all [bind, Except.bind]

theorem parseTemplate_eq (required : Bool) (index : Nat) (text : Text) (s : Session) :
    parseTemplate required index text s
      = match (TokenizedTemplate.violations required index
            ⟨text, (s.tokenize text).1, (s.tokenize text).2.counts⟩).head? with
        | some e => .error e
        | none => .ok (s.tokenize text) := by
  have hlength : (Template.scan text).length = (s.tokenize text).1.length :=
    (s.length_placeAll _).symm
  have hplace := placeSegments_eq index s (Template.scan text)
  rw [← Session.tokenize] at hplace
  rw [parseTemplate, TokenizedTemplate.head?_violations]
  simp only [hlength, hplace]
  split
  · rfl
  · have hlimit : maxSegments = 301 := rfl
    rw [hlimit]
    split
    · rfl
    · have hcounts : Kind.all.find? (50 < (s.tokenize text).2.counts.get ·)
          = overLimit? (s.tokenize text).2.counts := rfl
      rw [hcounts]
      cases ((s.tokenize text).1.filterMap Token.error?).head? with
      | some e => rfl
      | none =>
          simp only [bind, Except.bind]
          cases overLimit? (s.tokenize text).2.counts with
          | some kind => rfl
          | none =>
              simp only
              split <;> rfl

theorem parseFrom_eq (required : Bool) (index : Nat) (s : Session) (texts : List Text) :
    parseFrom required index s texts
      = match (TokenizedTemplate.allViolations required index (s.tokenizeEach texts).1).head? with
        | some e => .error e
        | none => .ok ((s.tokenizeEach texts).1.map TokenizedTemplate.tokens,
            (s.tokenizeEach texts).2) := by
  induction texts generalizing index s with
  | nil => rfl
  | cons text texts ih =>
      rw [parseFrom, parseTemplate_eq, Session.tokenizeEach]
      simp only [TokenizedTemplate.allViolations, List.head?_append, List.map_cons]
      cases (TokenizedTemplate.violations required index
        ⟨text, (s.tokenize text).1, (s.tokenize text).2.counts⟩).head? with
      | some e => rfl
      | none =>
          simp only [Option.none_or]
          show (parseFrom required (index + 1) (s.tokenize text).2 texts >>= _) = _
          rw [ih]
          cases (TokenizedTemplate.allViolations required (index + 1)
            ((s.tokenize text).2.tokenizeEach texts).1).head? with
          | some e => rfl
          | none => rfl

/-- Parsing reports the first violation that tokenizing leaves in sight; without one it comes to the
tokens and the variables of the session. -/
theorem parse_eq {settings : Settings} {s : Session}
    (hs : Session.ofSeparators settings.separators = .ok s) (texts : List Text) :
    parse settings texts
      = match (TokenizedTemplate.allViolations settings.requirePlaceholders 0
            (s.tokenizeEach texts).1).head? with
        | some e => .error e
        | none => .ok ⟨(s.tokenizeEach texts).1.map TokenizedTemplate.tokens,
            (s.tokenizeEach texts).2.declared⟩ := by
  rw [parse, hs]
  simp only [parseFrom_eq]
  cases (TokenizedTemplate.allViolations settings.requirePlaceholders 0
    (s.tokenizeEach texts).1).head? with
  | some e => rfl
  | none => rfl

theorem exists_of_parse_eq_ok {settings : Settings} {texts : List Text} {parsed : ParsedTemplates}
    (h : parse settings texts = .ok parsed) :
    ∃ s, Session.ofSeparators settings.separators = .ok s
      ∧ (∀ t ∈ (s.tokenizeEach texts).1, t.Conforms settings.requirePlaceholders)
      ∧ parsed = ⟨(s.tokenizeEach texts).1.map TokenizedTemplate.tokens,
          (s.tokenizeEach texts).2.declared⟩ := by
  cases hs : Session.ofSeparators settings.separators with
  | error code =>
      rw [parse, hs] at h
      exact absurd h (by simp)
  | ok s =>
      rw [parse_eq hs] at h
      split at h
      · exact absurd h (by simp)
      · next hnone =>
          have hnil := List.head?_eq_none_iff.mp hnone
          have hconforms := (TokenizedTemplate.allViolations_eq_nil_iff 0).mp hnil
          exact ⟨s, rfl, hconforms, (Except.ok.inj h).symm⟩

end ParsedTemplates

end TypedTemplate
