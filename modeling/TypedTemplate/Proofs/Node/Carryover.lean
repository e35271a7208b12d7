import TypedTemplate.Proofs.Node.Addressing
import TypedTemplate.Proofs.Node.Rejection
/-!
# Values carried over

An accepted edit gives the inputs new names and leaves the values where they are: an input takes the value
that was at its place among the inputs of its kind, and one that is added has none, even if the bank was
larger once. So a name keeps its value when it keeps its place. It does when templates change in their
constant texts only or placeholders are appended to them, because variables are declared in the order of the
bodies of the placeholders, and what stands between and behind these has no part in it.
-/

namespace TypedTemplate

/-- The body of a placeholder. -/
def Segment.body? : Segment → Option Text
  | placeholder body _ => some body
  | text _ => none

namespace Draft

/-- The bodies of all placeholders, in the order they are read. -/
def bodies (d : Draft) : List Text :=
  d.texts.flatMap fun text => (Template.scan text).filterMap Segment.body?

end Draft

namespace InputBank

/-- The inputs have the names that a draft gives them. -/
def NamedBy (b : InputBank) (d : Draft) : Prop :=
  ∃ ed, d.edition = .ok ed ∧ b.names = ed.names

/-- What an accepted edit makes of the inputs that were there before. -/
structure CarriesOver (b : InputBank) (m : Node) : Prop where
  namedBy : m.inputs.NamedBy m.draft
  counts_eq : m.inputs.counts = Tally.ofKinds (m.declared.map Variable.kind)
  isSome_slot?_iff : ∀ h, (m.inputs.slot? h).isSome ↔ h.index < m.inputs.counts.get h.kind
  kept : ∀ h, h.index < b.counts.get h.kind → h.index < m.inputs.counts.get h.kind →
    m.inputs.value h = b.value h
  added : ∀ h, b.counts.get h.kind ≤ h.index → m.inputs.value h = none
  /-- A name that keeps its place keeps its value. -/
  named : (∀ kind, b.names kind <+: m.inputs.names kind) → ∀ x h, b.find? x = some h →
    m.inputs.find? x = some h ∧ m.inputs.value h = b.value h
  /-- Names keep their places where placeholders are added behind those there were. -/
  extended : ∀ d, b.NamedBy d →
    d.settings.separators.decimalChar? = m.settings.separators.decimalChar? →
    d.bodies <+: m.draft.bodies → ∀ kind, b.names kind <+: m.inputs.names kind

end InputBank

/-! ### The order of declarations -/

namespace Session

/-- A session after the placeholders with the given bodies. -/
def afterBodies (s : Session) (bodies : List Text) : Session :=
  bodies.foldl (fun s body => (s.place body ⟨0, 0⟩).2) s

theorem snd_place_eq (s : Session) (body : Text) (span other : Span) :
    (s.place body span).2 = (s.place body other).2 := by
  rw [place, place]
  cases s.read body with
  | error code => rfl
  | ok r => cases r <;> rfl

theorem snd_placeAll_eq (s : Session) (segments : List Segment) :
    (s.placeAll segments).2 = s.afterBodies (segments.filterMap Segment.body?) := by
  induction segments generalizing s with
  | nil => rfl
  | cons segment segments ih =>
      rw [placeAll]
      simp only [ih]
      cases segment with
      | text t => rfl
      | placeholder body span =>
          rw [placeSegment, s.snd_place_eq body span ⟨0, 0⟩]
          rfl

theorem snd_tokenizeEach_eq (s : Session) (texts : List Text) :
    (s.tokenizeEach texts).2
      = s.afterBodies (texts.flatMap fun text => (Template.scan text).filterMap Segment.body?) := by
  induction texts generalizing s with
  | nil => rfl
  | cons text texts ih =>
      rw [tokenizeEach]
      simp only [ih]
      rw [tokenize, snd_placeAll_eq, List.flatMap_cons, afterBodies, afterBodies, afterBodies,
        List.foldl_append]

theorem declared_prefix_place (s : Session) (body : Text) (span : Span) :
    s.declared <+: (s.place body span).2.declared := by
  obtain ⟨code, hplace⟩ | ⟨r, hplace, _⟩ | ⟨v, s', hplace, hdeclares⟩ := s.place_cases body span
  · rw [hplace]
  · rw [hplace]
  · rw [hplace, hdeclares.declared_eq]
    exact List.prefix_append _ _

theorem declared_prefix_afterBodies (s : Session) (bodies : List Text) :
    s.declared <+: (s.afterBodies bodies).declared := by
  induction bodies generalizing s with
  | nil => exact List.prefix_refl _
  | cons body bodies ih => exact (s.declared_prefix_place body ⟨0, 0⟩).trans (ih _)

end Session

namespace Draft

variable {d d' : Draft} {ed ed' : Edition}

theorem exists_names_eq (hed : d.edition = .ok ed) :
    ∃ decimal, d.settings.separators.decimalChar? = some decimal ∧ ∀ kind, ed.names kind
      = (Variable.ofKind (Session.afterBodies { decimal } d.bodies).declared kind).map Variable.name := by
  obtain ⟨s, hs, _, rfl⟩ := edition_eq_ok hed
  obtain ⟨_, decimal, hdecimal, rfl⟩ := Session.ofSeparators_eq_ok_iff.mp hs
  refine ⟨decimal, hdecimal, fun kind => ?_⟩
  rw [Edition.names, Edition.ofParsed, map_name_ofKind_bindVariables, Session.snd_tokenizeEach_eq, bodies]

/-- Placeholders that are added behind others add names behind theirs. -/
theorem names_prefix_of_bodies_prefix (hed : d.edition = .ok ed) (hed' : d'.edition = .ok ed')
    (hdecimal : d.settings.separators.decimalChar? = d'.settings.separators.decimalChar?)
    (hbodies : d.bodies <+: d'.bodies) (kind : Kind) : ed.names kind <+: ed'.names kind := by
  obtain ⟨decimal, hd, hnames⟩ := exists_names_eq hed
  obtain ⟨decimal', hd', hnames'⟩ := exists_names_eq hed'
  obtain rfl : decimal = decimal' := Option.some.inj (hd.symm.trans (hdecimal.trans hd'))
  obtain ⟨more, hmore⟩ := hbodies
  have hdeclared : (Session.afterBodies { decimal } d.bodies).declared
      <+: (Session.afterBodies { decimal } d'.bodies).declared := by
    have hsplit : Session.afterBodies { decimal } d'.bodies
        = (Session.afterBodies { decimal } d.bodies).afterBodies more := by
      rw [← hmore, Session.afterBodies, List.foldl_append]
      rfl
    rw [hsplit]
    exact Session.declared_prefix_afterBodies _ more
  rw [hnames, hnames']
  exact (hdeclared.filter _).map _

end Draft

/-! ### Names and places -/

theorem InputBank.name_of_names_prefix {b b' : InputBank} {h : Handle} {x : Text}
    (hnames : b.names h.kind <+: b'.names h.kind) (hname : b.name h = some x) : b'.name h = some x := by
  rw [name_eq_getElem?] at hname ⊢
  obtain ⟨more, hmore⟩ := hnames
  rw [← hmore, List.getElem?_append_left (List.getElem?_eq_some_iff.mp hname).1, hname]

theorem InputBank.index_lt_of_name {b : InputBank} {h : Handle} {x : Text} (hname : b.name h = some x) :
    h.index < b.counts.get h.kind := by
  rw [← isSome_slot?_iff, ← mem_handles_iff_slot?, mem_handles]
  exact ⟨x, hname⟩

namespace Node

variable {m : Node}

theorem carriesOver_publish {ed : Edition} (hed : m.draft.edition = .ok ed) :
    m.inputs.CarriesOver (m.publish ed) := by
  have hsound := Draft.sound_of_edition hed
  have hserves : (m.publish ed).inputs.Serves ed.declared := hsound.serves_allot m.inputs
  have hnames : (m.publish ed).inputs.names = ed.names := funext hserves.names_eq
  have hvalue : ∀ h, (m.publish ed).inputs.value h
      = if h.index < (m.publish ed).inputs.counts.get h.kind then m.inputs.value h else none := by
    intro h
    rw [hserves.counts_eq, Tally.get_ofKinds, Variable.count_kind]
    exact m.inputs.value_allot ed.declared h
  have hkept : ∀ h, h.index < (m.publish ed).inputs.counts.get h.kind →
      (m.publish ed).inputs.value h = m.inputs.value h := by
    intro h hlt
    rw [hvalue, if_pos hlt]
  constructor
  case namedBy => exact ⟨ed, by rw [draft_publish, hed], hnames⟩
  case counts_eq => exact hserves.counts_eq
  case isSome_slot?_iff => exact fun h => InputBank.isSome_slot?_iff
  case kept => exact fun h _ hlt => hkept h hlt
  case added =>
    intro h hle
    have hnone : m.inputs.value h = none := by
      apply InputBank.value_eq_none_of_slot?
      rw [← Option.not_isSome_iff_eq_none, InputBank.isSome_slot?_iff]
      exact Nat.not_lt.mpr hle
    rw [hvalue, hnone, ite_self]
  case named =>
    intro hkinds x h hfind
    have hname := InputBank.name_of_names_prefix (hkinds h.kind) (InputBank.name_of_find? hfind)
    exact ⟨(hserves.unambiguous hsound.nodup).find?_eq_some_iff.mpr hname,
      hkept h (InputBank.index_lt_of_name hname)⟩
  case extended =>
    rintro d ⟨ed', hed', hnames'⟩ hdecimal hbodies kind
    rw [draft_publish] at hbodies
    rw [hnames', hnames]
    exact Draft.names_prefix_of_bodies_prefix hed' hed hdecimal hbodies kind

/-- An accepted edit leaves the values where they are, and a rejected one leaves the inputs alone. -/
theorem carriesOver_edit (n : Node) (e : Edit) :
    ((n.edit e).1 = .ok () → n.inputs.CarriesOver (n.edit e).2)
      ∧ ∀ err, (n.edit e).1 = .error err → (n.edit e).2.inputs = n.inputs := by
  constructor
  · intro hok
    by_cases happlies : e.Applies n.templates.length
    · obtain ⟨m, hedit, _, hframe, _⟩ := exists_keepsTokens_of_applies happlies
      rw [hedit] at hok ⊢
      obtain ⟨ed, hed, hreparse⟩ := exists_of_reparse_eq_ok hok
      have hinputs : n.inputs = m.inputs := by rw [hframe]
      rw [hreparse, hinputs]
      exact carriesOver_publish hed
    · obtain ⟨_, _, _, hedit⟩ := edit_of_not_applies happlies
      rw [hedit] at hok
      exact absurd hok (by simp)
  · intro err hrejected
    rw [(keepsTokens_of_rejected hrejected).1]

/-- The second integer is dropped by one edit and its place comes back with another: the value that was in it
does not, while the first value goes to the name that has its place now. -/
theorem carriesOver_edit_of_regrown :
    let n := ((ofSettings {}).setTemplates ["{a:I} {b:I} {c:S}".toList]).2
    let m := n.run [.setInput "a".toList "1".toList, .setInput "b".toList "2".toList,
      .setInput "c".toList "x".toList, .edit (.template 0 "{c:S} {a:I}".toList)]
    let e : Edit := .template 0 "{d:I} {b:I} {c:S}".toList
    (m.edit e).1 = .ok () ∧ m.inputs.CarriesOver (m.edit e).2
      ∧ (m.edit e).2.renderAll = .ok ["1 ? x".toList] := by
  intro n m e
  have hok : (m.edit e).1 = .ok () := by decide +kernel
  exact ⟨hok, (carriesOver_edit m e).1 hok, by decide +kernel⟩

end Node

end TypedTemplate
