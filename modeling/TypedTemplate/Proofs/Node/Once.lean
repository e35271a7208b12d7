import TypedTemplate.Proofs.Node.Assignment
import TypedTemplate.Proofs.Node.Edition
/-!
# Rendering once

A template that is rendered once is parsed in a session of its own and rendered with the values that a
list of assignments leaves its variables with. What comes of it is said without a node: the segments of
the template in order, each text as it stands and each placeholder in its own presentation. The node in
between binds every variable to an input and finds the input again, by name for an assignment and by the
binding for a token.
-/

namespace TypedTemplate

/-- The text of a segment that was parsed into a token. -/
def Segment.rendered (separators : Separators) (value : Variable → Option Value) : Segment → Token → Text
  | .text t, _ => t
  | .placeholder _ _, .declared v => renderValue v.presentation separators (value v)
  | .placeholder _ _, .reference r => renderValue r.presentation separators (value r.target)
  | .placeholder _ _, _ => []

/-- The text of a template that was parsed into tokens. -/
def Template.rendered (separators : Separators) (value : Variable → Option Value) (template : Text)
    (tokens : List Token) : Text :=
  (List.zipWith (Segment.rendered separators value) (scan template) tokens).flatten

/-! ### Variables and their bound copies -/

namespace Variable

theorem exists_bindVariables_iff (next : Tally) (vs : List Variable) (p : Kind → Text → Prop) :
    (∃ v ∈ bindVariables next vs, p v.kind v.name) ↔ ∃ v ∈ vs, p v.kind v.name := by
  have hmap := map_bindVariables (f := fun v => (v.kind, v.name)) (fun _ _ => rfl) next vs
  have hpairs : ∀ ws : List Variable, (∃ v ∈ ws, p v.kind v.name)
      ↔ ∃ q ∈ ws.map fun v => (v.kind, v.name), p q.1 q.2 := by
    intro ws
    simp
  rw [hpairs, hmap, ← hpairs]

theorem accept_bindVariables (next : Tally) (vs : List Variable) (decimal : Char) (a : Text × Text) :
    Accept (bindVariables next vs) decimal a ↔ Accept vs decimal a :=
  exists_bindVariables_iff next vs fun kind name =>
    name = a.1 ∧ ∃ value, Value.read kind decimal a.2 = .ok value

theorem Refuse.congr {vs ws : List Variable} {decimal : Char} {a : Text × Text} {e : ValidationError}
    (hsame : ∀ p : Kind → Text → Prop, (∃ v ∈ vs, p v.kind v.name) ↔ ∃ v ∈ ws, p v.kind v.name)
    (h : Refuse vs decimal a e) : Refuse ws decimal a e := by
  cases h with
  | unknownInput hname =>
      refine .unknownInput fun w hw hx => ?_
      obtain ⟨v, hv, hx⟩ := (hsame fun _ name => name = a.1).mpr ⟨w, hw, hx⟩
      exact hname v hv hx
  | @invalidValue v _ hv hname hread =>
      obtain ⟨w, hw, hkind, hwname⟩ :=
        (hsame fun kind name => kind = v.kind ∧ name = a.1).mp ⟨v, hv, rfl, hname⟩
      rw [← hkind] at hread ⊢
      exact .invalidValue hw hwname hread

theorem refuse_bindVariables (next : Tally) (vs : List Variable) (decimal : Char) (a : Text × Text)
    (e : ValidationError) : Refuse (bindVariables next vs) decimal a e ↔ Refuse vs decimal a e :=
  ⟨.congr (exists_bindVariables_iff next vs), .congr fun p => (exists_bindVariables_iff next vs p).symm⟩

end Variable

/-! ### Rendering the tokens of a template -/

theorem render_map_bind {inputs : InputBank} {separators : Separators} {declared : List Variable}
    {binding : Variable → Option Handle} {value : Variable → Option Value}
    (hvalue : ∀ v ∈ declared, (binding v).bind inputs.value = value v) {segments : List Segment}
    {tokens : List Token} (hparses : List.Forall₂ (Segment.ParsesTo declared) segments tokens)
    (herrors : ∀ token ∈ tokens, token.error? = none) :
    render inputs separators (tokens.map (Token.bind binding))
      = .ok (List.zipWith (Segment.rendered separators value) segments tokens).flatten := by
  induction hparses with
  | nil => rfl
  | @cons segment token segments tokens hparse _ ih =>
      rw [List.forall_mem_cons] at herrors
      have htoken : renderToken inputs separators (token.bind binding)
          = .ok (segment.rendered separators value token) := by
        cases hparse with
        | text t => rfl
        | error body span code => exact absurd herrors.1 (by simp [Token.error?])
        | @shown body span _ v hshown _ hmem =>
            cases token with
            | text | error => exact absurd hshown (by simp [Token.shown?])
            | declared w =>
                obtain rfl := Option.some.inj hshown
                rw [Segment.rendered, ← hvalue w hmem]
                rfl
            | reference r =>
                obtain rfl := Option.some.inj hshown
                rw [Segment.rendered, ← hvalue r.target hmem]
                rfl
      rw [List.map_cons, render, htoken, ih herrors.2, List.zipWith_cons_cons, List.flatten_cons]
      rfl

/-! ### The node in between -/

namespace Node

/-- A node made with a single template, in terms of the session that tokenizes the template. -/
structure Fresh (n : Node) (settings : Settings) (template : Text) (s : Session) : Prop where
  holds : n.Holds []
  decimal_eq : n.decimal = s.decimal
  separators_eq : n.separators = settings.separators
  declared_eq : n.declared = bindVariables .zero (s.tokenize template).2.declared
  templates_eq : n.templates = [⟨template, (s.tokenize template).1.map (Token.bind fun v =>
    (n.declared.find? fun w => w.name = v.name).bind Variable.binding)⟩]
  parses : List.Forall₂ (Segment.ParsesTo (s.tokenize template).2.declared) (Template.scan template)
    (s.tokenize template).1
  errors : ∀ token ∈ (s.tokenize template).1, token.error? = none

variable {n : Node} {settings : Settings} {template : Text} {s : Session}
  {assignments : List (Text × Text)}

theorem exists_fresh (hmade : withTemplates settings [template] = .ok n) :
    ∃ s, Session.ofSeparators settings.separators = .ok s ∧ n.Fresh settings template s := by
  rw [withTemplates_eq ⟨settings, [template]⟩] at hmade
  obtain ⟨ed, hed, rfl⟩ := map_eq_ok_iff.mp hmade
  have hsound := Draft.sound_of_edition hed
  obtain ⟨s, hs, hconforms, rfl⟩ := Draft.edition_eq_ok hed
  obtain ⟨_, decimal, hdecimal, rfl⟩ := Session.ofSeparators_eq_ok_iff.mp hs
  refine ⟨_, hs, ⟨hsound.nodup, hsound.serves_allot .empty, fun v _ => ?_⟩, ?_, rfl, rfl, rfl,
    (Session.placeAll_spec (Session.sound_of_ofSeparators hs) (Template.scan template)).2.2,
    (hconforms _ (List.mem_singleton_self _)).parsed⟩
  · -- The bank of a node without templates has no values, and naming its inputs gives it none.
    show v.binding.bind (InputBank.empty.allot _).value = none
    cases v.binding with
    | none => rfl
    | some h => exact InputBank.value_allot_empty _ h
  · show settings.separators.decimalChar?.getD ',' = decimal
    rw [hdecimal, Option.getD_some]

namespace Fresh

theorem accept_iff (h : n.Fresh settings template s) (a : Text × Text) :
    Variable.Accept n.declared n.decimal a
      ↔ Variable.Accept (s.tokenize template).2.declared s.decimal a := by
  rw [h.declared_eq, h.decimal_eq, Variable.accept_bindVariables]

theorem refuse_iff (h : n.Fresh settings template s) (a : Text × Text) (e : ValidationError) :
    Variable.Refuse n.declared n.decimal a e
      ↔ Variable.Refuse (s.tokenize template).2.declared s.decimal a e := by
  rw [h.declared_eq, h.decimal_eq, Variable.refuse_bindVariables]

theorem value_eq (h : n.Fresh settings template s) {b : InputBank}
    (hholds : { n with inputs := b }.Holds assignments) {v : Variable}
    (hv : v ∈ (s.tokenize template).2.declared) :
    ((n.declared.find? fun w => w.name = v.name).bind Variable.binding).bind b.value
      = v.assigned s.decimal assignments := by
  obtain ⟨w, hw, hkind, hname⟩ := (Variable.exists_bindVariables_iff .zero _
    fun kind name => kind = v.kind ∧ name = v.name).mpr ⟨v, hv, rfl, rfl⟩
  rw [← h.declared_eq] at hw
  have hfind := Variable.find?_name_eq h.holds.nodup hw
  rw [hname] at hfind
  have hvalue : w.binding.bind b.value = w.assigned n.decimal assignments := hholds.value_eq w hw
  rw [hfind, Option.bind_some, hvalue, h.decimal_eq, Variable.assigned, Variable.assigned, hname, hkind]

theorem render_eq (h : n.Fresh settings template s) {b : InputBank}
    (hholds : { n with inputs := b }.Holds assignments) :
    ({ n with inputs := b } : Node).render 0
      = .ok (Template.rendered settings.separators (Variable.assigned s.decimal assignments) template
          (s.tokenize template).1) := by
  rw [Node.render, h.templates_eq]
  simp only [List.getElem?_cons_zero, h.separators_eq]
  exact render_map_bind (fun v hv => h.value_eq hholds hv) h.parses h.errors

theorem renderOnce_of_accept (h : n.Fresh settings template s)
    (hmade : withTemplates settings [template] = .ok n)
    (haccept : ∀ a ∈ assignments, Variable.Accept (s.tokenize template).2.declared s.decimal a) :
    renderOnce settings template assignments
      = .ok (Template.rendered settings.separators (Variable.assigned s.decimal assignments) template
          (s.tokenize template).1) := by
  obtain ⟨b, hassign, hholds⟩ :=
    h.holds.exists_assignAll_of_accept fun a ha => (h.accept_iff a).mpr (haccept a ha)
  rw [List.nil_append] at hholds
  rw [renderOnce, hmade]
  simp only [hassign, h.render_eq hholds]
  rfl

theorem renderOnce_of_refuse (h : n.Fresh settings template s)
    (hmade : withTemplates settings [template] = .ok n) {before after : List (Text × Text)}
    {a : Text × Text} {e : ValidationError}
    (haccept : ∀ b ∈ before, Variable.Accept (s.tokenize template).2.declared s.decimal b)
    (hrefuse : Variable.Refuse (s.tokenize template).2.declared s.decimal a e) :
    renderOnce settings template (before ++ a :: after) = .error (.validation e) := by
  have hassign : n.assignAll (before ++ a :: after) = .error e :=
    h.holds.assignAll_of_refuse (fun b hb => (h.accept_iff b).mpr (haccept b hb))
      ((h.refuse_iff a e).mpr hrefuse)
  rw [renderOnce, hmade]
  simp only [hassign]

/-- Either there is a text, or there is an assignment to report. -/
theorem renderOnce_cases (h : n.Fresh settings template s)
    (hmade : withTemplates settings [template] = .ok n) (assignments : List (Text × Text)) :
    ((∀ a ∈ assignments, Variable.Accept (s.tokenize template).2.declared s.decimal a)
        ∧ renderOnce settings template assignments
          = .ok (Template.rendered settings.separators (Variable.assigned s.decimal assignments) template
              (s.tokenize template).1))
      ∨ ∃ before a after e, assignments = before ++ a :: after
        ∧ (∀ b ∈ before, Variable.Accept (s.tokenize template).2.declared s.decimal b)
        ∧ Variable.Refuse (s.tokenize template).2.declared s.decimal a e
        ∧ renderOnce settings template assignments = .error (.validation e) := by
  obtain haccept | ⟨before, a, after, e, rfl, hbefore, hrefuse⟩ :=
    Variable.accept_all_or_refuse (s.tokenize template).2.declared s.decimal assignments
  · exact .inl ⟨haccept, h.renderOnce_of_accept hmade haccept⟩
  · exact .inr ⟨before, a, after, e, rfl, hbefore, hrefuse, h.renderOnce_of_refuse hmade hbefore hrefuse⟩

end Fresh

end Node

/-! ### Rendering once -/

/-- Rendering once reports what is wrong with the template. Otherwise it has a text exactly when every
assignment is accepted, and else reports the first one that is refused. -/
theorem renderOnce_correct (settings : Settings) (template : Text) (assignments : List (Text × Text)) :
    match Node.withTemplates settings [template] with
    | .error e => renderOnce settings template assignments = .error (.validation e)
    | .ok _ => ∃ s, Session.ofSeparators settings.separators = .ok s ∧
      let tokens := (s.tokenize template).1
      let declared := (s.tokenize template).2.declared
      (List.Forall₂ (Segment.ParsesTo declared) (Template.scan template) tokens
          ∧ ∀ token ∈ tokens, token.error? = none)
        ∧ (∀ text, renderOnce settings template assignments = .ok text
            ↔ (∀ a ∈ assignments, Variable.Accept declared s.decimal a)
              ∧ text = Template.rendered settings.separators (Variable.assigned s.decimal assignments)
                  template tokens)
        ∧ ∀ e, renderOnce settings template assignments = .error e
            ↔ ∃ before a after refusal, assignments = before ++ a :: after
              ∧ (∀ b ∈ before, Variable.Accept declared s.decimal b)
              ∧ Variable.Refuse declared s.decimal a refusal
              ∧ e = .validation refusal := by
  cases hmade : Node.withTemplates settings [template] with
  | error e => rw [renderOnce, hmade]
  | ok n =>
      obtain ⟨s, hs, hfresh⟩ := Node.exists_fresh hmade
      have hcases := hfresh.renderOnce_cases hmade assignments
      refine ⟨s, hs, ⟨hfresh.parses, hfresh.errors⟩, fun text => ⟨fun hrender => ?_, ?_⟩,
        fun e => ⟨fun hrender => ?_, ?_⟩⟩
      · obtain ⟨haccept, hok⟩ | ⟨_, _, _, _, _, _, _, herror⟩ := hcases
        · rw [hok] at hrender
          exact ⟨haccept, (Except.ok.inj hrender).symm⟩
        · rw [herror] at hrender
          exact absurd hrender (by simp)
      · rintro ⟨haccept, rfl⟩
        exact hfresh.renderOnce_of_accept hmade haccept
      · obtain ⟨_, hok⟩ | ⟨before, a, after, refusal, hsplit, hbefore, hrefuse, herror⟩ := hcases
        · rw [hok] at hrender
          exact absurd hrender (by simp)
        · rw [herror] at hrender
          exact ⟨before, a, after, refusal, hsplit, hbefore, hrefuse, (Except.error.inj hrender).symm⟩
      · rintro ⟨before, a, after, refusal, rfl, hbefore, hrefuse, rfl⟩
        exact hfresh.renderOnce_of_refuse hmade hbefore hrefuse

/-- A reference shows its variable in its own way, and the last of two assignments counts. -/
example :
    renderOnce {} "{a:I} of {b:S}: {b:S|x=y}{b}{c:S}".toList
        [("a".toList, "9".toList), ("b".toList, "x".toList), ("a".toList, "-3".toList)]
      = .ok "-3 of x: yx?".toList := by
  rfl

end TypedTemplate
