import TypedTemplate.Proofs.Node.Reassignment
import TypedTemplate.Proofs.Node.Rendering
import TypedTemplate.Proofs.Node.Turns
import TypedTemplate.Proofs.Template.NumberedTexts
/-!
# Nodes with numbered texts

A template that lists texts for an integer is accepted, alone or with others behind it that name the same variable.
Whatever else stands in a node and whichever template declares the variable, an integer that is assigned to it is
shown by the text at its place, or else by its digits. Where the listing is the declaration, a placeholder with the
bare name in a later template shows the same: the session that comes to it has seen the declaration, and all tokens
of the variable are bound to one input.
-/

namespace TypedTemplate

/-- A text, or a placeholder with a name and nothing else in it. -/
def Segment.Names (name : Text) : Segment → Prop
  | .text _ => True
  | .placeholder body _ => NamePart body ∧ body.trim = name

/-- A template that names one variable, in as many placeholders as there may be. -/
structure Template.Names (name text : Text) : Prop where
  segments : ∀ segment ∈ scan text, segment.Names name
  placeholder : ∃ body span, .placeholder body span ∈ scan text
  length_le : (scan text).length ≤ maxSegments

/-- The token of a segment that names a variable. -/
def Segment.mention (v : Variable) : Segment → Token
  | .text t => .text t
  | .placeholder .. => .reference ⟨v.name, v.presentation, v⟩

/-- Operations that work on inputs. -/
def Operation.OnInputs (ops : List Operation) : Prop :=
  ∀ op ∈ ops, op.input? ≠ none

/-- The variable with a name has an integer for its value. -/
def Node.HasInteger (m : Node) (name : Text) (n : Int64) : Prop :=
  ∃ v ∈ m.declared, v.name = name ∧ v.binding.bind m.inputs.value = some (.integer n)

/-- What comes of integers in a node whose template at `i` lists texts, as long as only inputs change. -/
structure Node.Lists (m : Node) (i : Nat) (name : Text) (texts : List Text) : Prop where
  /-- An integer that is assigned is accepted and is the value from then on. -/
  assigned : ∀ ops, Operation.OnInputs ops → ∀ op n, op.input? = some name →
    op.Leaves (m.run ops).decimal .integer (some (.integer n)) →
      ((m.run ops).perform op).1 = .ok () ∧ (m.run (ops ++ [op])).HasInteger name n
  rendered : ∀ ops, Operation.OnInputs ops → ∀ n, (m.run ops).HasInteger name n →
    (m.run ops).render i = .ok (listed texts n)
  /-- Where no earlier template shows the variable, a placeholder with its name in a later one lists the texts. -/
  inherited : (∀ earlier < i, ∀ tokens, m.tokens? earlier = some tokens → ∀ token ∈ tokens,
      token.name? ≠ some name) →
    ∀ j text, i < j → m.draft.texts[j]? = some text → ∀ ops, Operation.OnInputs ops →
      ∀ n, (m.run ops).HasInteger name n →
        ∃ tokens, (m.run ops).tokens? j = some tokens ∧ ∀ (k : Nat) (body : Text) (span : Span),
          (Template.scan text)[k]? = some (.placeholder body span) → NamePart body → body.trim = name →
            ∃ token, tokens[k]? = some token
              ∧ renderToken (m.run ops).inputs (m.run ops).separators token = .ok (listed texts n)

/-! ### Tokens -/

namespace Session

variable {s : Session} {raw : Text} {texts : List Text} {v : Variable}

theorem tokenize_listing (s : Session) (hraw : NamePart raw) (htexts : Listable texts) :
    ∃ span, s.tokenize (listing raw texts)
      = ([.text [], (s.place (listingBody raw texts) span).1, .text []],
          (s.place (listingBody raw texts) span).2) := by
  rw [tokenize, listing, Template.scan_placeholder (bare_listingBody hraw htexts)]
  exact ⟨_, rfl⟩

theorem placeAll_of_names (hs : s.Sound) (hv : v ∈ s.declared) {segments : List Segment}
    (h : ∀ segment ∈ segments, segment.Names v.name) :
    s.placeAll segments = (segments.map (Segment.mention v), s) := by
  induction segments with
  | nil => rfl
  | cons segment segments ih =>
      obtain ⟨hfirst, hrest⟩ := List.forall_mem_cons.mp h
      have hplace : s.placeSegment segment = (segment.mention v, s) := by
        cases segment with
        | text t => rfl
        | placeholder body span => exact place_of_name hs hfirst.1 hv hfirst.2.symm span
      simp only [placeAll, hplace, ih hrest, List.map_cons]

theorem tokenizeEach_of_names (hs : s.Sound) (hv : v ∈ s.declared) {templates : List Text}
    (h : ∀ text ∈ templates, Template.Names v.name text) :
    s.tokenizeEach templates
      = (templates.map fun text => ⟨text, (Template.scan text).map (Segment.mention v), s.counts⟩, s) := by
  induction templates with
  | nil => rfl
  | cons text templates ih =>
      obtain ⟨hfirst, hrest⟩ := List.forall_mem_cons.mp h
      rw [tokenizeEach, tokenize, placeAll_of_names hs hv hfirst.segments]
      simp only [ih hrest, List.map_cons]

theorem lists_of_name (hs : s.Sound) (hv : v ∈ s.declared) {name : Text}
    (hlists : (Token.declared v).Lists name texts) {segments : List Segment} {k : Nat} {body : Text} {span : Span}
    (hsegment : segments[k]? = some (.placeholder body span)) (hbody : NamePart body) (hname : body.trim = name) :
    ∃ token, (s.placeAll segments).1[k]? = some token ∧ token.Lists name texts := by
  obtain ⟨hsound, hsubset, _⟩ := placeAll_spec hs (segments.take k)
  have hvname : v.name = body.trim := (Option.some.inj hlists.name_eq).trans hname.symm
  refine ⟨.reference ⟨v.name, v.presentation, v⟩, ?_, hlists.name_eq, hlists.kind_eq, hlists.presentation⟩
  rw [placeAll_getElem?, hsegment, Option.map_some, placeSegment,
    place_of_name hsound hbody (hsubset hv) hvname]

end Session

/-! ### Editions -/

namespace Draft

variable {d : Draft} {ed : Edition} {raw : Text} {texts : List Text} {i : Nat}

/-- In an edition, a template that lists texts is a token that lists them between two empty texts. -/
theorem exists_listing (hed : d.edition = .ok ed) (hraw : NamePart raw) (hne : raw.trim ≠ [])
    (htexts : Listable texts) (htext : d.texts[i]? = some (listing raw texts)) :
    ∃ token, ed.tokens[i]? = some [.text [], token, .text []] ∧ token.Lists raw.trim texts := by
  obtain ⟨decimal, binding, hturns⟩ := exists_turns hed
  obtain ⟨htokens, hparsed⟩ := hturns i _ htext
  have hsound := (Session.sound_opened decimal).reaching d.texts i
  obtain ⟨span, htokenize⟩ := Session.tokenize_listing (Session.reaching { decimal } d.texts i) hraw htexts
  rw [htokenize] at htokens hparsed
  have hlists := Session.lists_place hsound hraw hne htexts span (hparsed _ (List.mem_cons_of_mem _ List.mem_cons_self))
  exact ⟨_, htokens, hlists.bind binding⟩

/-- Where no earlier template shows the variable, every later placeholder with its name lists the texts. -/
theorem exists_naming (hed : d.edition = .ok ed) (hraw : NamePart raw) (hne : raw.trim ≠ [])
    (htexts : Listable texts) (htext : d.texts[i]? = some (listing raw texts))
    (hearlier : ∀ earlier < i, ∀ tokens, ed.tokens[earlier]? = some tokens → ∀ token ∈ tokens,
      token.name? ≠ some raw.trim)
    {j : Nat} (hij : i < j) {text : Text} (htext' : d.texts[j]? = some text) :
    ∃ tokens, ed.tokens[j]? = some tokens ∧ ∀ (k : Nat) (body : Text) (span : Span),
      (Template.scan text)[k]? = some (.placeholder body span) → NamePart body → body.trim = raw.trim →
        ∃ token, tokens[k]? = some token ∧ token.Lists raw.trim texts := by
  obtain ⟨decimal, binding, hturns⟩ := exists_turns hed
  have hopened := Session.sound_opened decimal
  have hsound := hopened.reaching d.texts i
  have hfree : ∀ v ∈ (Session.reaching { decimal } d.texts i).declared, v.name ≠ raw.trim := by
    intro v hv hname
    obtain ⟨earlier, other, hlt, hother, hdeclared⟩ := Session.exists_of_mem_reaching hv
    have hmem := List.mem_map_of_mem (f := Token.bind binding) hdeclared
    apply hearlier earlier hlt _ (hturns earlier other hother).1 _ hmem
    rw [Token.name?_bind]
    exact congrArg some hname
  obtain ⟨span, htokenize⟩ := Session.tokenize_listing (Session.reaching { decimal } d.texts i) hraw htexts
  obtain ⟨v, hplace, hname⟩ := Session.exists_place_listing hsound hraw hne htexts hfree span
  have hlists : (Token.declared v).Lists raw.trim texts := by
    have := Session.lists_place hsound hraw hne htexts span (by rw [hplace]; rfl)
    rwa [hplace] at this
  have hv : v ∈ (Session.reaching { decimal } d.texts j).declared := by
    apply Session.declared_subset_reaching hopened htext hij
    rw [htokenize, hplace]
    exact List.mem_append_right _ (List.mem_singleton_self v)
  refine ⟨_, (hturns j text htext').1, fun k body span hsegment hbody hname => ?_⟩
  obtain ⟨token, htoken, hlists⟩ :=
    Session.lists_of_name (hopened.reaching d.texts j) hv hlists hsegment hbody hname
  rw [Session.tokenize, List.getElem?_map, htoken]
  exact ⟨_, rfl, hlists.bind binding⟩

end Draft

/-! ### Acceptance -/

namespace TokenizedTemplate

theorem conforms_of_names {name text : Text} (h : Template.Names name text) (v : Variable) {counts : Tally}
    (hcounts : ∀ kind, counts.get kind ≤ 50) (required : Bool) :
    Conforms required ⟨text, (Template.scan text).map (Segment.mention v), counts⟩ := by
  obtain ⟨body, span, hplaceholder⟩ := h.placeholder
  constructor
  case parsed =>
    intro token htoken
    obtain ⟨segment, _, rfl⟩ := List.mem_map.mp htoken
    cases segment <;> rfl
  case size =>
    rw [List.length_map]
    exact h.length_le
  case counts => exact hcounts
  case used =>
    refine fun _ => ⟨?_, _, List.mem_map_of_mem hplaceholder, rfl⟩
    rintro rfl
    exact absurd hplaceholder (by simp [Template.scan, Template.pieces, Template.layOut])

end TokenizedTemplate

namespace Node

variable {raw : Text} {texts : List Text}

theorem exists_withTemplates_listing (hraw : NamePart raw) (hne : raw.trim ≠ []) (htexts : Listable texts)
    {settings : Settings} (husable : settings.separators.validate = .ok ()) {after : List Text}
    (hafter : ∀ text ∈ after, Template.Names raw.trim text) :
    ∃ n, withTemplates settings (listing raw texts :: after) = .ok n := by
  obtain ⟨decimal, hdecimal⟩ := Separators.exists_decimalChar? husable
  have hs : Session.ofSeparators settings.separators = .ok { decimal } :=
    Session.ofSeparators_eq_ok_iff.mpr ⟨husable, decimal, hdecimal, rfl⟩
  have hopened := Session.sound_opened decimal
  obtain ⟨span, htokenize⟩ := Session.tokenize_listing { decimal } hraw htexts
  obtain ⟨v, hplace, hname⟩ := Session.exists_place_listing hopened hraw hne htexts (by simp) span
  have hsound : (Session.register { decimal } v).Sound := by
    have := (Session.placeSegment_spec hopened (.placeholder (listingBody raw texts) span)).1
    rwa [Session.placeSegment, hplace] at this
  have hcounts : ∀ kind, (Session.register { decimal } v).counts.get kind ≤ 50 := by
    intro kind
    rw [hsound.counts_eq, Tally.get_ofKinds]
    exact Nat.le_trans List.count_le_length (by simp [Session.register])
  rw [hplace] at htokenize
  have hturns := Session.tokenizeEach_of_names hsound (by simp [Session.register]) (hname ▸ hafter)
  have hconforms : ∀ t ∈ (Session.tokenizeEach { decimal } (listing raw texts :: after)).1,
      t.Conforms settings.requirePlaceholders := by
    simp only [Session.tokenizeEach, htokenize, hturns]
    refine List.forall_mem_cons.mpr ⟨?_, ?_⟩
    · exact ⟨by simp [Token.error?], by simp, hcounts, fun _ => ⟨List.cons_ne_nil _ _, .declared v, by simp, rfl⟩⟩
    · intro t ht
      obtain ⟨text, htext, rfl⟩ := List.mem_map.mp ht
      exact TokenizedTemplate.conforms_of_names (hafter text htext) v hcounts _
  have hnone := (TokenizedTemplate.allViolations_eq_nil_iff 0).mpr hconforms
  rw [withTemplates_eq ⟨settings, listing raw texts :: after⟩, Draft.edition, ParsedTemplates.parse_eq hs, hnone]
  exact ⟨_, rfl⟩

/-! ### Operations on inputs -/

variable {m : Node} {settings : Settings} {log : List Attempt} {name : Text} {i : Nat} {tokens : List Token}
  {token : Token} {n : Int64}

theorem run_concat (m : Node) (ops : List Operation) (op : Operation) :
    m.run (ops ++ [op]) = ((m.run ops).perform op).2 := by
  induction ops generalizing m with
  | nil => rfl
  | cons first ops ih => exact ih (m.perform first).2

theorem tokens?_run {ops : List Operation} (h : Operation.OnInputs ops) (m : Node) (i : Nat) :
    (m.run ops).tokens? i = m.tokens? i := by
  induction ops generalizing m with
  | nil => rfl
  | cons op ops ih =>
      obtain ⟨hop, hops⟩ := List.forall_mem_cons.mp h
      have hne : ∀ e, op ≠ .edit e := by
        rintro e rfl
        exact hop rfl
      obtain ⟨b, hperform, _⟩ := m.exists_inputs_perform hne
      rw [run, ih hops, hperform]
      rfl

theorem Follows.exists_variable (h : m.Follows settings log) (htokens : m.tokens? i = some tokens)
    (htoken : token ∈ tokens) (hlists : token.Lists name texts) :
    ∃ v ∈ m.declared, v.name = name ∧ v.kind = .integer ∧ token.shown? = some v := by
  obtain ⟨v, hv, hkind⟩ := Option.map_eq_some_iff.mp hlists.kind_eq
  obtain ⟨hmem, hname⟩ := h.shown htokens htoken hv
  rw [hlists.name_eq, Option.some_inj] at hname
  exact ⟨v, hmem, hname.symm, hkind, hv⟩

theorem Follows.assigned (h : m.Follows settings log) (htokens : m.tokens? i = some tokens)
    (htoken : token ∈ tokens) (hlists : token.Lists name texts) {op : Operation} (hop : op.input? = some name)
    (hleaves : op.Leaves m.decimal .integer (some (.integer n))) :
    (m.perform op).1 = .ok () ∧ (m.perform op).2.HasInteger name n := by
  obtain ⟨v, hv, hname, hkind, _⟩ := h.exists_variable htokens htoken hlists
  rw [← hkind] at hleaves
  have hanswers := h.answers hop
  have hreassigns := hanswers.reassigns v hv hname _ hleaves
  refine ⟨hanswers.accepted_iff.mpr ⟨v, hv, hname, _, hleaves⟩, v, ?_, hname, hreassigns.value_eq⟩
  rw [hreassigns.frame]
  exact hv

theorem Follows.renderToken_eq (h : m.Follows settings log) (hlength : texts.length < 2 ^ (32 : Nat))
    (htokens : m.tokens? i = some tokens) (htoken : token ∈ tokens) (hlists : token.Lists name texts)
    (hvalue : m.HasInteger name n) : renderToken m.inputs m.separators token = .ok (listed texts n) := by
  obtain ⟨v, hv, hname, _, hshown⟩ := h.exists_variable htokens htoken hlists
  obtain ⟨w, hw, hwname, hn⟩ := hvalue
  obtain rfl : v = w := List.inj_on_of_nodup_map h.nodup hv hw (hname.trans hwname.symm)
  obtain ⟨p, hp, hnumbered⟩ := hlists.presentation
  rw [renderToken_of_shown? hshown hp, hn, renderValue_of_numbered hlength hnumbered]

/-! ### A node after an edit -/

theorem render_of_renderToken {inputs : InputBank} {separators : Separators} {token : Token} {t : Text}
    (h : renderToken inputs separators token = .ok t) :
    TypedTemplate.render inputs separators [.text [], token, .text []] = .ok t := by
  have hempty : renderToken inputs separators (.text []) = .ok [] := rfl
  simp only [TypedTemplate.render, hempty, h, bind, Except.bind, List.append_nil, List.nil_append]

theorem lists_of_edit_eq_ok (hraw : NamePart raw) (hne : raw.trim ≠ []) (htexts : Listable texts) {n : Node}
    {e : Edit} (hok : (n.edit e).1 = .ok ()) {i : Nat}
    (htext : (n.edit e).2.draft.texts[i]? = some (listing raw texts)) : (n.edit e).2.Lists i raw.trim texts := by
  obtain ⟨settings, log, hfollows⟩ := exists_follows_of_edit_eq_ok hok
  obtain ⟨ed, hed, htokens⟩ := exists_edition_of_edit_eq_ok hok
  generalize (n.edit e).2 = m at *
  obtain ⟨token, htoken, hlists⟩ := Draft.exists_listing hed hraw hne htexts htext
  rw [← htokens] at htoken
  have hmem : token ∈ [.text [], token, .text []] := List.mem_cons_of_mem _ List.mem_cons_self
  constructor
  case assigned =>
    intro ops hops op n hop hleaves
    rw [run_concat]
    exact (hfollows.run ops).assigned ((tokens?_run hops m i).trans htoken) hmem hlists hop hleaves
  case rendered =>
    intro ops hops n hvalue
    have htoken := (tokens?_run hops m i).trans htoken
    rw [render_of_tokens? htoken]
    exact render_of_renderToken ((hfollows.run ops).renderToken_eq htexts.length_lt htoken hmem hlists hvalue)
  case inherited =>
    intro hearlier j text hij htext' ops hops n hvalue
    simp only [htokens] at hearlier
    obtain ⟨tokens, htokens', hnamed⟩ := Draft.exists_naming hed hraw hne htexts htext hearlier hij htext'
    rw [← htokens, ← tokens?_run hops] at htokens'
    refine ⟨tokens, htokens', fun k body span hsegment hbody hname => ?_⟩
    obtain ⟨token, htoken, hlists⟩ := hnamed k body span hsegment hbody hname
    have hmem := List.mem_of_getElem? htoken
    exact ⟨token, htoken, (hfollows.run ops).renderToken_eq htexts.length_lt htokens' hmem hlists hvalue⟩

/-- A template that lists texts is accepted, with any templates behind it that name its variable, and in any node
that has accepted it, it shows an integer by the text at its place or else by its digits. So does every later
placeholder with the bare name, if the template is the one that declares the variable. -/
theorem accepts_and_lists (hraw : NamePart raw) (hne : raw.trim ≠ []) (htexts : Listable texts) :
    (∀ (settings : Settings) (after : List Text), settings.separators.validate = .ok () →
        (∀ text ∈ after, Template.Names raw.trim text) →
          ∃ n, withTemplates settings (listing raw texts :: after) = .ok n)
      ∧ ∀ (n : Node) (e : Edit) (i : Nat), (n.edit e).1 = .ok () →
          (n.edit e).2.draft.texts[i]? = some (listing raw texts) → (n.edit e).2.Lists i raw.trim texts := by
  constructor
  · intro settings after husable hafter
    exact exists_withTemplates_listing hraw hne htexts husable hafter
  · intro n e i hok htext
    exact lists_of_edit_eq_ok hraw hne htexts hok htext

/-- A name with spaces around it, behind a template of another variable: the last integer with a text, the first
without one, and one below zero. -/
theorem accepts_and_lists_of_spaced_name :
    let raw : Text := " x ".toList
    let texts : List Text := ["off".toList, "on".toList]
    let after := ["{x}; { x}".toList]
    let n := ofSettings {}
    let e : Edit := .templates ("{y:I}".toList :: listing raw texts :: after)
    let m := (n.edit e).2
    let final (v : Int64) := m.run [.setInput "y".toList "7".toList, .setValue "x".toList (.integer v)]
    NamePart raw ∧ raw.trim ≠ [] ∧ Listable texts
      ∧ (∀ text ∈ after, Template.Names raw.trim text)
      ∧ (∃ n, withTemplates {} (listing raw texts :: after) = .ok n)
      ∧ (n.edit e).1 = .ok () ∧ m.draft.texts[1]? = some (listing raw texts) ∧ m.Lists 1 raw.trim texts
      ∧ (final 1).renderAll = .ok ["7".toList, "on".toList, "on; on".toList]
      ∧ (final 2).renderAll = .ok ["7".toList, "2".toList, "2; 2".toList]
      ∧ (final (-1)).renderAll = .ok ["7".toList, "-1".toList, "-1; -1".toList] := by
  intro raw texts after n e m final
  have htrim : raw.trim = ['x'] := by decide
  have hname : NameForm ['x'] := ⟨'x', [], rfl, by decide +kernel, by simp⟩
  have hraw : NamePart raw := ⟨by decide, .inr (htrim ▸ hname)⟩
  have hne : raw.trim ≠ [] := by simp [htrim]
  have htexts : Listable texts := ⟨by decide, by decide, by decide, by simp [texts]⟩
  have hafter : ∀ text ∈ after, Template.Names raw.trim text := by
    have hscan : Template.scan "{x}; { x}".toList
        = [.text [], .placeholder ['x'] ⟨0, 3⟩, .text [';', ' '], .placeholder [' ', 'x'] ⟨5, 9⟩, .text []] := by
      decide
    have hplain : Text.trim ['x'] = ['x'] := by decide
    have hspaced : Text.trim [' ', 'x'] = ['x'] := by decide
    rw [List.forall_mem_singleton, htrim]
    constructor
    case segments =>
      rw [hscan]
      simp [Segment.Names, NamePart, hname, hplain, hspaced]
    case placeholder =>
      rw [hscan]
      exact ⟨['x'], ⟨0, 3⟩, by simp⟩
    case length_le =>
      rw [hscan]
      decide
  have hok : (n.edit e).1 = .ok () := by decide +kernel
  have htext : m.draft.texts[1]? = some (listing raw texts) := by decide +kernel
  obtain ⟨haccepts, hlists⟩ := accepts_and_lists hraw hne htexts
  exact ⟨hraw, hne, htexts, hafter, haccepts {} after rfl hafter, hok, htext, hlists n e 1 hok htext,
    by decide +kernel, by decide +kernel, by decide +kernel⟩

end Node

end TypedTemplate
