import TypedTemplate.Proofs.Node.Binding
import TypedTemplate.Proofs.Node.Violation
/-!
# Drafts and editions

The settings of a node and the texts of its templates are its draft, the part of it that edits change
whether they are accepted or not. A draft comes to an edition: separators, bound variables and tokens. It
does so without a look at the node, and a node that parses its templates again takes nothing over but the
edition of its draft, `reparse_eq`. What an edit does is thereby said in two lemmas, one for an edit
that applies and one for an index that no template has.
-/

namespace TypedTemplate

/-- The settings and the texts of a node. -/
structure Draft where
  settings : Settings
  texts : List Text

/-- What a draft comes to when it is parsed: separators, bound variables, and the tokens of every
template. -/
structure Edition where
  separators : Separators
  declared : List Variable
  tokens : List (List Token)

/-- An edit of the settings or the texts. -/
inductive Edit where
  | templates (texts : List Text)
  | template (index : Nat) (text : Text)
  | templateCount (count : Nat)
  | separators (separators : Separators)
  | requirePlaceholders (required : Bool)

/-- Whether an edit can be made where there are so many templates. -/
def Edit.Applies (count : Nat) : Edit → Prop
  | .template index _ => index < count
  | _ => True

instance Edit.decidableApplies (count : Nat) : (e : Edit) → Decidable (e.Applies count)
  | .template index _ => inferInstanceAs (Decidable (index < count))
  | .templates _ | .templateCount _ | .separators _ | .requirePlaceholders _ => .isTrue trivial

namespace Edition

/-- The edition of templates that were parsed: their variables are bound, and their tokens show the bound
variables. -/
def ofParsed (separators : Separators) (parsed : ParsedTemplates) : Edition :=
  let declared := bindVariables .zero parsed.declared
  let binding := fun (v : Variable) =>
    (declared.find? fun bound => bound.name = v.name).bind Variable.binding
  { separators
    declared
    tokens := parsed.tokens.map fun tokens => tokens.map (Token.bind binding) }

/-- What a node has before its first edit: the configured separators, or the default ones where those
cannot be used. -/
def first (settings : Settings) : Edition :=
  { separators := match settings.separators.validate with
      | .ok () => settings.separators
      | .error _ => {}
    declared := []
    tokens := [] }

/-- The names of the variables of a kind, in the order they are declared. -/
def names (ed : Edition) (kind : Kind) : List Text :=
  (Variable.ofKind ed.declared kind).map Variable.name

end Edition

namespace Draft

def revise (d : Draft) : Edit → Draft
  | .templates texts => { d with texts }
  | .template index text => { d with texts := d.texts.set index text }
  | .templateCount count =>
    { d with texts := d.texts.take count ++ List.replicate (count - d.texts.length) [] }
  | .separators separators => { d with settings := { d.settings with separators } }
  | .requirePlaceholders required =>
    { d with settings := { d.settings with requirePlaceholders := required } }

/-- The edition a draft comes to, or why there is none. -/
def edition (d : Draft) : Except ValidationError Edition :=
  (ParsedTemplates.parse d.settings d.texts).map (.ofParsed d.settings.separators)

end Draft

namespace Node

def draft (n : Node) : Draft :=
  ⟨n.settings, n.templates.map Template.text⟩

def edit (n : Node) : Edit → Except ValidationError Unit × Node
  | .templates texts => n.setTemplates texts
  | .template index text => n.setTemplate index text
  | .templateCount count => n.setTemplateCount count
  | .separators separators => n.setSeparators separators
  | .requirePlaceholders required => n.setRequirePlaceholders required

/-- Takes an edition over. -/
def publish (n : Node) (ed : Edition) : Node :=
  { n with
    separators := ed.separators
    templates := retoken n.templates ed.tokens
    declared := ed.declared
    inputs := n.inputs.allot ed.declared
    lastError := none
    revision := n.revision + 1 }

end Node

/-! ### The edition of a draft -/

/-- What editions have in common: separators that can be used, variables that are bound in order and told
apart by their names, and tokens that show these variables under their names. -/
structure Edition.Sound (ed : Edition) : Prop where
  usable : ed.separators.validate = .ok ()
  bound : ∃ vs, ed.declared = bindVariables .zero vs
  nodup : (ed.declared.map Variable.name).Nodup
  shown : ∀ tokens ∈ ed.tokens, ∀ token ∈ tokens, ∀ v ∈ token.shown?,
    v ∈ ed.declared ∧ token.name? = some v.name

namespace Edition

theorem sound_first (settings : Settings) : (first settings).Sound where
  usable := by
    rw [first]
    cases husable : settings.separators.validate with
    | error code => rfl
    | ok => exact husable
  bound := ⟨[], rfl⟩
  nodup := List.nodup_nil
  shown tokens h := absurd h List.not_mem_nil

theorem Sound.serves_allot {ed : Edition} (hed : ed.Sound) (b : InputBank) :
    (b.allot ed.declared).Serves ed.declared := by
  obtain ⟨vs, hvs⟩ := hed.bound
  rw [hvs]
  exact b.serves_allot vs

end Edition

namespace Draft

variable {d : Draft} {ed : Edition}

theorem edition_eq_ok (hed : d.edition = .ok ed) :
    ∃ s, Session.ofSeparators d.settings.separators = .ok s
      ∧ (∀ t ∈ (s.tokenizeEach d.texts).1, t.Conforms d.settings.requirePlaceholders)
      ∧ ed = .ofParsed d.settings.separators
          ⟨(s.tokenizeEach d.texts).1.map TokenizedTemplate.tokens, (s.tokenizeEach d.texts).2.declared⟩ := by
  obtain ⟨parsed, hparsed, rfl⟩ := map_eq_ok_iff.mp hed
  obtain ⟨s, hs, hconforms, rfl⟩ := ParsedTemplates.exists_of_parse_eq_ok hparsed
  exact ⟨s, hs, hconforms, rfl⟩

theorem sound_of_edition (hed : d.edition = .ok ed) : ed.Sound := by
  obtain ⟨s, hs, _, rfl⟩ := edition_eq_ok hed
  have hopened := Session.sound_of_ofSeparators hs
  have hnodup := (Session.tokenizeEach_spec hopened d.texts).1.nodup
  constructor
  case usable => exact (Session.ofSeparators_eq_ok_iff.mp hs).1
  case bound => exact ⟨_, rfl⟩
  case nodup =>
    rw [Edition.ofParsed, map_bindVariables fun _ _ => rfl]
    exact hnodup
  case shown =>
    intro tokens htokens token htoken w hw
    simp only [Edition.ofParsed, List.map_map, List.mem_map] at htokens
    obtain ⟨t, ht, rfl⟩ := htokens
    obtain ⟨parsed, hparsed, rfl⟩ := List.mem_map.mp htoken
    obtain ⟨segment, hsegment⟩ := Session.exists_parsesTo hopened ht hparsed
    rw [Token.shown?_bind] at hw
    obtain ⟨v, hv, rfl⟩ := Option.map_eq_some_iff.mp hw
    obtain ⟨hmem, hname⟩ := hsegment.of_shown? hv
    rw [Token.name?_bind]
    exact ⟨mem_bindVariables .zero hnodup hmem, hname⟩

theorem length_tokens_of_edition (hed : d.edition = .ok ed) : ed.tokens.length = d.texts.length := by
  obtain ⟨s, hs, _, rfl⟩ := edition_eq_ok hed
  have heach := (Session.tokenizeEach_spec (Session.sound_of_ofSeparators hs) d.texts).2.2
  rw [Edition.ofParsed, List.length_map, List.length_map, heach.length_eq]

end Draft

/-! ### Texts and tokens -/

theorem Template.zipWith_mk (ts : List Template) :
    List.zipWith mk (ts.map text) (ts.map tokens) = ts := by
  simp [List.zipWith_map, List.zipWith_self]

theorem Template.ext_of_map {ts us : List Template} (htexts : ts.map text = us.map text)
    (htokens : ts.map tokens = us.map tokens) : ts = us := by
  rw [← zipWith_mk ts, htexts, htokens, zipWith_mk]

namespace Node

theorem map_text_retext (ts : List Template) (texts : List Text) :
    (retext ts texts).map Template.text = texts := by
  induction texts generalizing ts with
  | nil => cases ts <;> rfl
  | cons text texts ih => cases ts <;> simp [retext, ih]

theorem map_text_retoken (ts : List Template) (tokens : List (List Token)) :
    (retoken ts tokens).map Template.text = ts.map Template.text := by
  induction ts generalizing tokens with
  | nil => cases tokens <;> rfl
  | cons t ts ih => cases tokens <;> simp [retoken, ih]

theorem map_tokens_retoken {ts : List Template} {tokens : List (List Token)}
    (hlength : tokens.length = ts.length) : (retoken ts tokens).map Template.tokens = tokens := by
  induction ts generalizing tokens with
  | nil =>
      obtain rfl := List.length_eq_zero_iff.mp hlength
      rfl
  | cons t ts ih =>
      cases tokens with
      | nil => exact absurd hlength (by simp)
      | cons first rest =>
          rw [retoken, List.map_cons, ih (Nat.succ.inj hlength)]

theorem map_tokens_getElem?_retext (ts : List Template) {texts : List Text} {i : Nat}
    (hi : i < texts.length) :
    (retext ts texts)[i]?.map Template.tokens = some ((ts[i]?.map Template.tokens).getD []) := by
  induction texts generalizing ts i with
  | nil => exact absurd hi (by simp)
  | cons text texts ih =>
      cases ts with
      | nil =>
          cases i with
          | zero => rfl
          | succ i => exact ih [] (Nat.lt_of_succ_lt_succ hi)
      | cons t ts =>
          cases i with
          | zero => rfl
          | succ i => exact ih ts (Nat.lt_of_succ_lt_succ hi)

theorem map_tokens_getElem?_take_append (ts : List Template) {count i : Nat} (hi : i < count) :
    (ts.take count ++ List.replicate (count - ts.length) Template.blank)[i]?.map Template.tokens
      = some ((ts[i]?.map Template.tokens).getD []) := by
  rw [getElem?_take_append_replicate, if_pos hi]
  cases ts[i]? <;> rfl

theorem tokens?_eq_some_iff {n : Node} {i : Nat} {tokens : List Token} :
    n.tokens? i = some tokens ↔ ∃ t, n.templates[i]? = some t ∧ t.tokens = tokens :=
  Option.map_eq_some_iff

theorem exists_tokens? {n : Node} {i : Nat} (hi : i < n.templates.length) :
    ∃ tokens, n.tokens? i = some tokens :=
  ⟨_, tokens?_eq_some_iff.mpr ⟨n.templates[i], List.getElem?_eq_getElem hi, rfl⟩⟩

theorem tokens?_of_length_le {n : Node} {i : Nat} (hi : n.templates.length ≤ i) : n.tokens? i = none := by
  rw [tokens?, List.getElem?_eq_none hi, Option.map_none]

/-! ### Parsing again -/

theorem reparse_eq (n : Node) :
    n.reparse = match n.draft.edition with
      | .ok ed => (.ok (), n.publish ed)
      | .error e => (.error e, { n with lastError := some e }) := by
  rw [reparse, Draft.edition, draft]
  cases ParsedTemplates.parse n.settings (n.templates.map Template.text) with
  | error e => rfl
  | ok parsed => rfl

theorem exists_of_reparse_eq_ok {n : Node} (hok : n.reparse.1 = .ok ()) :
    ∃ ed, n.draft.edition = .ok ed ∧ n.reparse.2 = n.publish ed := by
  rw [reparse_eq] at hok ⊢
  cases hed : n.draft.edition with
  | error e => simp [hed] at hok
  | ok ed => exact ⟨ed, rfl, rfl⟩

theorem draft_publish (n : Node) (ed : Edition) : (n.publish ed).draft = n.draft := by
  rw [draft, draft, publish, map_text_retoken]

theorem map_tokens_publish {n : Node} {ed : Edition} (hed : n.draft.edition = .ok ed) :
    (n.publish ed).templates.map Template.tokens = ed.tokens := by
  rw [publish, map_tokens_retoken]
  rw [Draft.length_tokens_of_edition hed, draft, List.length_map]

theorem draft_reparse (n : Node) : n.reparse.2.draft = n.draft := by
  rw [reparse_eq]
  cases n.draft.edition with
  | error e => rfl
  | ok ed => exact n.draft_publish ed

/-- Nodes with the same draft that take over its edition differ in the values of their inputs and in the
number of their revision only. -/
theorem publish_eq_of_draft_eq {n m : Node} (hdraft : n.draft = m.draft) {ed : Edition}
    (hed : n.draft.edition = .ok ed) :
    n.publish ed
      = { m.publish ed with inputs := n.inputs.allot ed.declared, revision := n.revision + 1 } := by
  have htemplates : (n.publish ed).templates = (m.publish ed).templates := by
    apply Template.ext_of_map
    · exact congrArg Draft.texts ((n.draft_publish ed).trans (hdraft.trans (m.draft_publish ed).symm))
    · rw [map_tokens_publish hed, map_tokens_publish (hdraft ▸ hed)]
  have hsettings : n.settings = m.settings := congrArg Draft.settings hdraft
  show { n.publish ed with settings := n.settings, templates := (n.publish ed).templates } = _
  rw [hsettings, htemplates]
  rfl

/-! ### Edits -/

/-- A node that differs from another in its draft, with the tokens of the templates they share and none
for others. -/
structure Redrafts (m n : Node) : Prop where
  frame : m = { n with settings := m.settings, templates := m.templates }
  tokens : ∀ i tokens, m.tokens? i = some tokens → n.tokens? i = some tokens ∨ tokens = []

/-- A node whose templates have the tokens that another has at their places, and none elsewhere. -/
def KeepsTokens (m n : Node) : Prop :=
  ∀ i, i < m.templates.length → m.tokens? i = some ((n.tokens? i).getD [])

theorem keepsTokens_of_map_tokens_eq {m n : Node}
    (h : m.templates.map Template.tokens = n.templates.map Template.tokens) : m.KeepsTokens n := by
  intro i hi
  obtain ⟨tokens, htokens⟩ := exists_tokens? hi
  have hsame : n.tokens? i = m.tokens? i := by
    rw [tokens?, tokens?, ← List.getElem?_map, ← h, List.getElem?_map]
  rw [hsame, htokens, Option.getD_some]

theorem KeepsTokens.redrafts {m n : Node} (h : m.KeepsTokens n)
    (hframe : m = { n with settings := m.settings, templates := m.templates }) : m.Redrafts n where
  frame := hframe
  tokens i tokens htokens := by
    obtain ⟨t, ht, _⟩ := tokens?_eq_some_iff.mp htokens
    rw [h i (List.getElem?_eq_some_iff.mp ht).1] at htokens
    cases hn : n.tokens? i with
    | some tokens' => exact .inl (by simpa [hn] using htokens)
    | none => exact .inr (by simpa [hn] using htokens.symm)

/-- An edit that applies revises the draft and parses it. Templates that are still there have their tokens. -/
theorem exists_keepsTokens_of_applies {n : Node} {e : Edit} (happlies : e.Applies n.templates.length) :
    ∃ m : Node, n.edit e = m.reparse ∧ m.draft = n.draft.revise e
      ∧ m = { n with settings := m.settings, templates := m.templates } ∧ m.KeepsTokens n := by
  cases e with
  | templates texts =>
      refine ⟨{ n with templates := retext n.templates texts }, rfl, ?_, rfl, fun i hi => ?_⟩
      · rw [draft, map_text_retext]
        rfl
      · have hlength : (retext n.templates texts).length = texts.length := by
          rw [← List.length_map Template.text, map_text_retext]
        exact map_tokens_getElem?_retext n.templates (hlength ▸ hi)
  | template index text =>
      refine ⟨{ n with templates := n.templates.modify index fun t => { t with text } }, ?_, ?_, rfl,
        keepsTokens_of_map_tokens_eq ?_⟩
      · exact if_pos happlies
      · rw [draft, map_modify_eq_set]
        · rfl
        · exact fun _ => rfl
      · rw [map_modify_eq_map]
        exact fun _ => rfl
  | templateCount count =>
      refine ⟨{ n with templates := n.templates.take count
        ++ List.replicate (count - n.templates.length) Template.blank }, rfl, ?_, rfl, fun i hi => ?_⟩
      · simp [draft, Draft.revise, Template.blank]
      · have hcount : i < count := by
          simp only [List.length_append, List.length_take, List.length_replicate] at hi
          omega
        exact map_tokens_getElem?_take_append n.templates hcount
  | separators separators =>
      exact ⟨{ n with settings := { n.settings with separators } }, rfl, rfl, rfl,
        keepsTokens_of_map_tokens_eq rfl⟩
  | requirePlaceholders required =>
      exact ⟨{ n with settings := { n.settings with requirePlaceholders := required } }, rfl, rfl, rfl,
        keepsTokens_of_map_tokens_eq rfl⟩

theorem exists_edit_eq_reparse {n : Node} {e : Edit} (happlies : e.Applies n.templates.length) :
    ∃ m : Node, n.edit e = m.reparse ∧ m.draft = n.draft.revise e ∧ m.Redrafts n := by
  obtain ⟨m, hedit, hdraft, hframe, htokens⟩ := exists_keepsTokens_of_applies happlies
  exact ⟨m, hedit, hdraft, htokens.redrafts hframe⟩

theorem edit_of_not_applies {n : Node} {e : Edit} (hnot : ¬e.Applies n.templates.length) :
    ∃ index text, e = .template index text
      ∧ n.edit e = (.error (.invalidIndex index n.templates.length), n) := by
  cases e with
  | template index text => exact ⟨index, text, rfl, if_neg hnot⟩
  | templates | templateCount | separators | requirePlaceholders => exact absurd trivial hnot

/-- An edit that was accepted has left a node that took over the edition of its draft. -/
theorem exists_publish_of_edit_eq_ok {n : Node} {e : Edit} (hok : (n.edit e).1 = .ok ()) :
    ∃ (m : Node) (ed : Edition), m.draft.edition = .ok ed ∧ (n.edit e).2 = m.publish ed := by
  by_cases happlies : e.Applies n.templates.length
  · obtain ⟨m, hedit, _, _⟩ := exists_edit_eq_reparse happlies
    rw [hedit] at hok ⊢
    obtain ⟨ed, hed, hreparse⟩ := exists_of_reparse_eq_ok hok
    exact ⟨m, ed, hed, hreparse⟩
  · obtain ⟨_, _, _, hedit⟩ := edit_of_not_applies happlies
    rw [hedit] at hok
    exact absurd hok (by simp)

/-- A node with a draft that was not parsed yet. -/
def unparsed (d : Draft) : Node :=
  { ofSettings d.settings with templates := retext [] d.texts }

theorem draft_unparsed (d : Draft) : (unparsed d).draft = d := by
  rw [draft, unparsed, map_text_retext]
  rfl

theorem withTemplates_eq (d : Draft) :
    withTemplates d.settings d.texts = d.edition.map (unparsed d).publish := by
  have hset : (ofSettings d.settings).setTemplates d.texts = (unparsed d).reparse := rfl
  rw [withTemplates, hset, reparse_eq, draft_unparsed]
  cases d.edition with
  | error e => rfl
  | ok ed => rfl

end Node

end TypedTemplate
