import TypedTemplate.Proofs.Node.Edition
import TypedTemplate.Proofs.Template.Transcript
/-!
# Templates in turn

A node tokenizes its templates one after the other in a single session. The session that comes to a template has
seen what stands before it and nothing else: it knows the variables that earlier turns declared, each of them from
a token, and the tokens the template has in the edition are those of its turn, bound to inputs.
-/

namespace TypedTemplate

namespace Session

variable {s : Session}

/-- The session that comes to the template at an index, after those before it had their turns. -/
def reaching (s : Session) (templates : List Text) (i : Nat) : Session :=
  (s.tokenizeEach (templates.take i)).2

theorem snd_tokenizeEach_append (s : Session) (before after : List Text) :
    (s.tokenizeEach (before ++ after)).2 = ((s.tokenizeEach before).2.tokenizeEach after).2 := by
  induction before generalizing s with
  | nil => rfl
  | cons text before ih => exact ih (s.tokenize text).2

theorem map_tokens_tokenizeEach_getElem? (s : Session) (templates : List Text) (i : Nat) :
    ((s.tokenizeEach templates).1.map TokenizedTemplate.tokens)[i]?
      = templates[i]?.map fun text => ((s.reaching templates i).tokenize text).1 := by
  induction templates generalizing s i with
  | nil => rfl
  | cons text templates ih =>
      cases i with
      | zero => rfl
      | succ i => exact ih (s.tokenize text).2 i

theorem placeAll_getElem? (s : Session) (segments : List Segment) (k : Nat) :
    (s.placeAll segments).1[k]?
      = segments[k]?.map fun segment => ((s.placeAll (segments.take k)).2.placeSegment segment).1 := by
  induction segments generalizing s k with
  | nil => rfl
  | cons segment segments ih =>
      cases k with
      | zero => rfl
      | succ k => exact ih (s.placeSegment segment).2 k

theorem Sound.reaching (hs : s.Sound) (templates : List Text) (i : Nat) : (s.reaching templates i).Sound :=
  (tokenizeEach_spec hs _).1

theorem declared_subset_reaching (hs : s.Sound) {templates : List Text} {i j : Nat} {text : Text}
    (htext : templates[i]? = some text) (hij : i < j) :
    ((s.reaching templates i).tokenize text).2.declared ⊆ (s.reaching templates j).declared := by
  obtain ⟨hi, rfl⟩ := List.getElem?_eq_some_iff.mp htext
  obtain ⟨more, rfl⟩ := Nat.exists_eq_add_of_lt hij
  have hsound := (placeAll_spec (hs.reaching templates i) (Template.scan templates[i])).1
  have hsplit : templates.take (i + more + 1)
      = templates.take i ++ templates[i] :: (templates.drop (i + 1)).take more := by
    rw [Nat.add_assoc, List.take_add, List.drop_eq_getElem_cons hi, List.take_succ_cons]
  have hreaches : s.reaching templates (i + more + 1)
      = (((s.reaching templates i).tokenize templates[i]).2.tokenizeEach
          ((templates.drop (i + 1)).take more)).2 := by
    rw [reaching, hsplit, snd_tokenizeEach_append]
    rfl
  rw [hreaches]
  exact (tokenizeEach_spec hsound _).2.1

end Session

/-! ### Declarations -/

theorem Transcript.answerAll_templates (t : Transcript) (templates : List Text) :
    t.answerAll (templates.map .template)
      = ⟨(t.session.tokenizeEach templates).2,
          t.tokens ++ (t.session.tokenizeEach templates).1.flatMap TokenizedTemplate.tokens⟩ := by
  induction templates generalizing t with
  | nil => simp [answerAll, Session.tokenizeEach]
  | cons text templates ih =>
      have hrest := ih (t.answer (.template text))
      rw [List.map_cons, answerAll, List.foldl_cons, ← answerAll, hrest]
      simp [answer, Session.tokenizeEach]

/-- A variable that is known when a template has its turn was declared by a token of an earlier one. -/
theorem Session.exists_of_mem_reaching {decimal : Char} {templates : List Text} {i : Nat} {v : Variable}
    (hv : v ∈ (reaching { decimal } templates i).declared) :
    ∃ (j : Nat) (text : Text), j < i ∧ templates[j]? = some text
      ∧ .declared v ∈ ((reaching { decimal } templates j).tokenize text).1 := by
  have hdeclared := (Transcript.faithful_answerAll decimal ((templates.take i).map .template)).declared_eq
  rw [Transcript.answerAll_templates] at hdeclared
  have hmem : v ∈ ((tokenizeEach { decimal } (templates.take i)).1.flatMap TokenizedTemplate.tokens).filterMap
      Token.declared? := hdeclared ▸ hv
  obtain ⟨token, htoken, hv⟩ := List.mem_filterMap.mp hmem
  obtain ⟨t, ht, htoken⟩ := List.mem_flatMap.mp htoken
  obtain ⟨j, hj⟩ := List.mem_iff_getElem?.mp ht
  have htokens := map_tokens_tokenizeEach_getElem? { decimal } (templates.take i) j
  rw [List.getElem?_map, hj, Option.map_some] at htokens
  obtain ⟨text, htext, hturn⟩ := Option.map_eq_some_iff.mp htokens.symm
  have hji : j < i := by
    have := (List.getElem?_eq_some_iff.mp htext).1
    rw [List.length_take] at this
    omega
  rw [List.getElem?_take_of_lt hji] at htext
  have hreaches : reaching { decimal } (templates.take i) j = reaching { decimal } templates j := by
    rw [reaching, List.take_take, Nat.min_eq_left (Nat.le_of_lt hji), ← reaching]
  rw [hreaches] at hturn
  refine ⟨j, text, hji, htext, ?_⟩
  rw [hturn]
  cases token with
  | declared w =>
      obtain rfl := Option.some.inj hv
      exact htoken
  | text | error | reference => exact absurd hv (by simp [Token.declared?])

/-! ### Editions -/

/-- The tokens of a template in an edition are those of its turn, bound to inputs, and none of them is an
error. -/
theorem Draft.exists_turns {d : Draft} {ed : Edition} (hed : d.edition = .ok ed) :
    ∃ (decimal : Char) (binding : Variable → Option Handle), ∀ (i : Nat) (text : Text), d.texts[i]? = some text →
      let tokens := ((Session.reaching { decimal } d.texts i).tokenize text).1
      ed.tokens[i]? = some (tokens.map (Token.bind binding)) ∧ ∀ token ∈ tokens, token.error? = none := by
  obtain ⟨s, hs, hconforms, rfl⟩ := edition_eq_ok hed
  obtain ⟨_, decimal, _, rfl⟩ := Session.ofSeparators_eq_ok_iff.mp hs
  let declared := bindVariables .zero (Session.tokenizeEach { decimal } d.texts).2.declared
  refine ⟨decimal, fun v => (declared.find? fun bound => bound.name = v.name).bind Variable.binding,
    fun i text htext => ?_⟩
  have hturn := Session.map_tokens_tokenizeEach_getElem? { decimal } d.texts i
  rw [htext, Option.map_some] at hturn
  constructor
  · rw [Edition.ofParsed, List.getElem?_map, hturn, Option.map_some]
  · intro token htoken
    rw [List.getElem?_map] at hturn
    obtain ⟨t, ht, htokens⟩ := Option.map_eq_some_iff.mp hturn
    rw [← htokens] at htoken
    exact (hconforms t (List.mem_of_getElem? ht)).parsed token htoken

theorem Node.exists_edition_of_edit_eq_ok {n : Node} {e : Edit} (hok : (n.edit e).1 = .ok ()) :
    ∃ ed, (n.edit e).2.draft.edition = .ok ed ∧ ∀ i, (n.edit e).2.tokens? i = ed.tokens[i]? := by
  obtain ⟨m, ed, hed, hpublish⟩ := exists_publish_of_edit_eq_ok hok
  rw [hpublish, draft_publish]
  refine ⟨ed, hed, fun i => ?_⟩
  rw [tokens?, ← List.getElem?_map, map_tokens_publish hed]

end TypedTemplate
