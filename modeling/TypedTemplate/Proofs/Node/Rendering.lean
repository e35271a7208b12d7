import TypedTemplate.Proofs.Node.Reassignment
import TypedTemplate.Proofs.Template.Styling
/-!
# Rendering a node

A node can always be rendered. Whatever it was asked to do, and whatever was done to its inputs behind its
back, its tokens come from templates that were parsed without an error, or there are none yet. Each of them
is ready: it shows a variable that is bound to an input of its kind, in a presentation written for this
kind. An input that is gone or empty has no value to show, and one that is there has a value of its kind, so
readiness is a matter of the tokens alone and no change of the inputs can break it.
-/

namespace TypedTemplate

/-- A token that can be rendered, whatever the inputs hold. -/
structure Token.Ready (token : Token) (decimal : Char) : Prop where
  parsed : token.error? = none
  bound : ∀ v ∈ token.shown?, ∀ h ∈ v.binding, h.kind = v.kind
  styled : token.Styled decimal

/-- What a host can do to a node: an operation, or a change of its inputs. -/
inductive HostAction where
  | operation (op : Operation)
  | change (c : InputBank.Change)

namespace Node

/-- A node after an action, whether it succeeds or not. -/
def act (n : Node) : HostAction → Node
  | .operation op => (n.perform op).2
  | .change c => { n with inputs := n.inputs.apply c }

def actAll (n : Node) (actions : List HostAction) : Node :=
  actions.foldl act n

/-- A node all of whose tokens can be rendered. -/
def Ready (n : Node) : Prop :=
  ∀ i tokens, n.tokens? i = some tokens → ∀ token ∈ tokens, token.Ready n.decimal

/-- A node that can be rendered, in presentations that suit the values. -/
structure Renders (n : Node) : Prop where
  parsed : ∀ i tokens, n.tokens? i = some tokens → ∀ token ∈ tokens, token.error? = none
  render_eq_ok : ∀ i, i < n.templates.length → ∃ text, n.render i = .ok text
  render_eq_error : ∀ i, n.templates.length ≤ i →
    n.render i = .error (.missingTemplate i n.templates.length)
  renderAll_eq_ok : ∃ texts, n.renderAll = .ok texts ∧ texts.length = n.templates.length
    ∧ ∀ i text, texts[i]? = some text → n.render i = .ok text
  /-- A value that is shown has the kind of the token, and the presentation was written for this kind. -/
  typed : ∀ i tokens, n.tokens? i = some tokens → ∀ token ∈ tokens, ∀ v p value,
    token.shown? = some v → token.presentation? = some p → v.binding.bind n.inputs.value = some value →
      renderToken n.inputs n.separators token = .ok (renderContent p n.separators value)
        ∧ token.kind? = some value.kind ∧ p.WrittenFor n.decimal value.kind
        ∧ ∀ x, value = .number x → p.format ≠ PresentationGrammar.integerFormat

end Node

/-! ### The tokens of an edition -/

theorem Token.Styled.bind {decimal : Char} {token : Token} (h : token.Styled decimal)
    (binding : Variable → Option Handle) : (token.bind binding).Styled decimal := by
  intro w p hw hp
  rw [shown?_bind] at hw
  obtain ⟨v, hv, rfl⟩ := Option.map_eq_some_iff.mp hw
  rw [presentation?_bind] at hp
  exact h v p hv hp

theorem Session.styled_tokenizeEach {s : Session} (hs : s.Sound) (hstyled : s.Styled)
    (texts : List Text) :
    ∀ t ∈ (s.tokenizeEach texts).1, ∀ token ∈ t.tokens, token.Styled s.decimal := by
  induction texts generalizing s with
  | nil => simp [tokenizeEach]
  | cons text texts ih =>
      obtain ⟨hnext, hdecimal, htokens⟩ := styled_placeAll hs hstyled (Template.scan text)
      have hrest := ih (placeAll_spec hs (Template.scan text)).1 hnext
      rw [hdecimal] at hrest
      exact List.forall_mem_cons.mpr ⟨htokens, hrest⟩

theorem Draft.ready_of_edition {d : Draft} {ed : Edition} (hed : d.edition = .ok ed) :
    ∀ tokens ∈ ed.tokens, ∀ token ∈ tokens, token.Ready (ed.separators.decimalChar?.getD ',') := by
  intro tokens htokens token htoken
  have hsound := sound_of_edition hed
  have hbound : ∀ v ∈ token.shown?, ∀ h ∈ v.binding, h.kind = v.kind := by
    intro v hv h hh
    have hmem := (hsound.shown tokens htokens token htoken v hv).1
    obtain ⟨h', hbinding, hkind, _⟩ := (hsound.serves_allot .empty).exists_binding hmem
    rw [hbinding] at hh
    obtain rfl := Option.some.inj hh
    exact hkind
  obtain ⟨s, hs, hconforms, rfl⟩ := edition_eq_ok hed
  obtain ⟨_, decimal, hdecimal, rfl⟩ := Session.ofSeparators_eq_ok_iff.mp hs
  have hopened : Session.Styled { decimal } := by simp [Session.Styled]
  have heach := Session.styled_tokenizeEach (Session.sound_opened decimal) hopened d.texts
  simp only [Edition.ofParsed, List.map_map, List.mem_map] at htokens
  obtain ⟨t, ht, rfl⟩ := htokens
  obtain ⟨parsed, hparsed, rfl⟩ := List.mem_map.mp htoken
  constructor
  case parsed =>
    rw [Token.error?_bind]
    exact (hconforms t ht).parsed parsed hparsed
  case bound => exact hbound
  case styled =>
    show Token.Styled (d.settings.separators.decimalChar?.getD ',') _
    rw [hdecimal]
    exact (heach t ht parsed hparsed).bind _

/-! ### What a host can do -/

namespace Node

variable {n m : Node}

theorem ready_ofSettings (settings : Settings) : (ofSettings settings).Ready := by
  intro i tokens h
  simp [tokens?, ofSettings] at h

theorem ready_publish {ed : Edition} (hed : m.draft.edition = .ok ed) : (m.publish ed).Ready := by
  intro i tokens h
  rw [tokens?, ← List.getElem?_map, map_tokens_publish hed] at h
  exact Draft.ready_of_edition hed tokens (List.mem_of_getElem? h)

theorem Ready.of_redrafts (h : n.Ready) (hredrafts : m.Redrafts n) : m.Ready := by
  intro i tokens htokens
  have hdecimal : m.decimal = n.decimal := by
    rw [hredrafts.frame]
    rfl
  rw [hdecimal]
  obtain hkept | rfl := hredrafts.tokens i tokens htokens
  · exact h i tokens hkept
  · exact fun _ htoken => absurd htoken List.not_mem_nil

theorem Ready.perform (h : n.Ready) (op : Operation) : (n.perform op).2.Ready := by
  by_cases hedit : ∃ e, op = .edit e
  · obtain ⟨e, rfl⟩ := hedit
    show (n.edit e).2.Ready
    by_cases happlies : e.Applies n.templates.length
    · obtain ⟨m, hedit, _, hredrafts⟩ := exists_edit_eq_reparse happlies
      rw [hedit, reparse_eq]
      cases hed : m.draft.edition with
      | error err =>
          have hm : m.Ready := h.of_redrafts hredrafts
          exact hm
      | ok ed => exact ready_publish hed
    · obtain ⟨_, _, _, hedit⟩ := edit_of_not_applies happlies
      rw [hedit]
      exact h
  · obtain ⟨b, hperform, _⟩ := n.exists_inputs_perform fun e he => hedit ⟨e, he⟩
    rw [hperform]
    exact h

theorem Ready.act (h : n.Ready) (action : HostAction) : (n.act action).Ready := by
  cases action with
  | operation op => exact h.perform op
  | change c => exact h

theorem Ready.actAll (h : n.Ready) (actions : List HostAction) : (n.actAll actions).Ready := by
  induction actions generalizing n with
  | nil => exact h
  | cons action actions ih => exact ih (h.act action)

theorem Made.ready {settings : Settings} {opening : List Operation} (hmade : Made settings opening n) :
    n.Ready := by
  cases hmade with
  | blank => exact ready_ofSettings settings
  | @templates texts _ hmade =>
      rw [withTemplates_eq ⟨settings, texts⟩] at hmade
      obtain ⟨ed, hed, rfl⟩ := map_eq_ok_iff.mp hmade
      apply ready_publish
      rwa [draft_unparsed]

end Node

/-! ### Rendering -/

theorem Token.Ready.exists_renderToken {token : Token} {decimal : Char} (h : token.Ready decimal)
    (inputs : InputBank) (separators : Separators) :
    ∃ text, renderToken inputs separators token = .ok text := by
  cases token with
  | error e => exact absurd h.parsed (by simp [error?])
  | text | declared | reference => exact ⟨_, rfl⟩

/-- A value that a token shows is of the kind of its variable, whatever was done to the inputs. -/
theorem Token.Ready.kind_eq {token : Token} {decimal : Char} (h : token.Ready decimal) {v : Variable}
    (hv : token.shown? = some v) {inputs : InputBank} {value : Value}
    (hvalue : v.binding.bind inputs.value = some value) : value.kind = v.kind := by
  obtain ⟨handle, hbinding, hread⟩ := Option.bind_eq_some_iff.mp hvalue
  exact (InputBank.kind_of_value hread).trans (h.bound v hv handle hbinding)

theorem exists_render {tokens : List Token} {decimal : Char} (h : ∀ token ∈ tokens, token.Ready decimal)
    (inputs : InputBank) (separators : Separators) :
    ∃ text, render inputs separators tokens = .ok text := by
  induction tokens with
  | nil => exact ⟨[], rfl⟩
  | cons token tokens ih =>
      rw [List.forall_mem_cons] at h
      obtain ⟨text, htext⟩ := h.1.exists_renderToken inputs separators
      obtain ⟨rest, hrest⟩ := ih h.2
      refine ⟨text ++ rest, ?_⟩
      rw [render, htext, hrest]
      rfl

namespace Node

variable {n : Node}

theorem render_of_tokens? {i : Nat} {tokens : List Token} (h : n.tokens? i = some tokens) :
    n.render i = TypedTemplate.render n.inputs n.separators tokens := by
  obtain ⟨t, ht, rfl⟩ := tokens?_eq_some_iff.mp h
  rw [render, ht]

theorem render_of_length_le {i : Nat} (hi : n.templates.length ≤ i) :
    n.render i = .error (.missingTemplate i n.templates.length) := by
  rw [render, List.getElem?_eq_none hi]

theorem Ready.exists_render (h : n.Ready) {i : Nat} (hi : i < n.templates.length) :
    ∃ text, n.render i = .ok text := by
  obtain ⟨tokens, htokens⟩ := exists_tokens? hi
  rw [render_of_tokens? htokens]
  exact TypedTemplate.exists_render (h i tokens htokens) n.inputs n.separators

theorem Ready.renders (h : n.Ready) : n.Renders where
  parsed i tokens htokens token htoken := (h i tokens htokens token htoken).parsed
  render_eq_ok i hi := h.exists_render hi
  render_eq_error i hi := render_of_length_le hi
  renderAll_eq_ok := by
    obtain ⟨texts, htexts⟩ := exists_mapM_eq_ok fun i hi => h.exists_render (List.mem_range.mp hi)
    have hrendered := mapM_eq_ok_iff.mp htexts
    refine ⟨texts, htexts, by rw [← hrendered.length_eq, List.length_range], fun i text htext => ?_⟩
    obtain ⟨j, hj, hrender⟩ := exists_getElem?_of_forall₂ hrendered htext
    obtain ⟨_, rfl⟩ := List.getElem?_eq_some_iff.mp hj
    rwa [List.getElem_range] at hrender
  typed := by
    intro i tokens htokens token htoken v p value hv hp hvalue
    have hready := h i tokens htokens token htoken
    have hkind := hready.kind_eq hv hvalue
    have hwritten : p.WrittenFor n.decimal value.kind := by
      rw [hkind]
      exact hready.styled v p hv hp
    refine ⟨?_, ?_, hwritten, ?_⟩
    · rw [renderToken_of_shown? hv hp, hvalue]
      rfl
    · rw [Token.kind?, hv, hkind]
      rfl
    · rintro x rfl
      exact hwritten.format_ne_integerFormat

/-- Whatever is done to a node and to its inputs, it can be rendered. -/
theorem renders_actAll {settings : Settings} {opening : List Operation} (hmade : Made settings opening n)
    (actions : List HostAction) : (n.actAll actions).Renders :=
  (hmade.ready.actAll actions).renders

/-- Rejected edits drop the second template and add a blank one, and the inputs lose a slot that a token
shows. -/
theorem renders_actAll_of_resized_inputs :
    let texts := ["{a:I|no|one} {x:N1} {b:S}".toList, "{b:S|x=y}{a}".toList]
    let n := ((ofSettings {}).setTemplates texts).2
    let actions : List HostAction := [.operation (.setInput "x".toList "2,5".toList),
      .operation (.setValue "b".toList (.text "x".toList)), .change (.put ⟨.integer, 0⟩ (.integer 1)),
      .change (.put ⟨.integer, 0⟩ (.text "x".toList)), .operation (.edit (.templates ["{a:Q}".toList])),
      .operation (.edit (.templateCount 2)), .change (.resize ⟨0, 1, 1, 0⟩)]
    let final := n.actAll actions
    Made {} [.edit (.templates texts)] n ∧ final.Renders ∧ final.state = .stale
      ∧ final.renderAll = .ok ["one 2,5 ?".toList, []] := by
  intro texts n actions final
  have hfinal : final.state = .stale ∧ final.renderAll = .ok ["one 2,5 ?".toList, []] := by
    decide +kernel
  have hmade : Made {} [.edit (.templates texts)] n := .templates rfl
  exact ⟨hmade, renders_actAll hmade actions, hfinal⟩

end Node

end TypedTemplate
