import TypedTemplate.Proofs.Node.History
/-!
# Editing a node and making it anew

An edit that is accepted leaves nothing of what a node was before but the values of its inputs and the
number of its revision: the node is the one that its settings and texts would make. Names, bindings and
tokens are taken from the edition of the draft, and the inputs of both nodes serve the same variables,
whatever slots the bank of the edited node had.
-/

namespace TypedTemplate

namespace Node

/-- Two nodes that differ in the values of their inputs and in the number of their revision only. -/
structure AgreesWith (n fresh : Node) : Prop where
  tokens_eq : n.templates.map Template.tokens = fresh.templates.map Template.tokens
  declared_eq : n.declared = fresh.declared
  inputNames_eq : n.inputNames = fresh.inputNames
  counts_eq : n.inputs.counts = fresh.inputs.counts
  separators_eq : n.separators = fresh.separators
  eq_apart : n = { fresh with inputs := n.inputs, revision := n.revision }

theorem agreesWith_publish {n m : Node} (hdraft : n.draft = m.draft) {ed : Edition}
    (hed : n.draft.edition = .ok ed) : (n.publish ed).AgreesWith (m.publish ed) := by
  have hpublish := publish_eq_of_draft_eq hdraft hed
  have hsound := Draft.sound_of_edition hed
  have hn : (n.publish ed).inputs.Serves ed.declared := hsound.serves_allot n.inputs
  have hm : (m.publish ed).inputs.Serves ed.declared := hsound.serves_allot m.inputs
  have hnames : (n.publish ed).inputs.names = (m.publish ed).inputs.names := by
    funext kind
    rw [hn.names_eq, hm.names_eq]
  exact
    { tokens_eq := by rw [hpublish]
      declared_eq := rfl
      inputNames_eq := by rw [inputNames_eq_listing, inputNames_eq_listing, hnames]
      counts_eq := by rw [hn.counts_eq, hm.counts_eq]
      separators_eq := rfl
      eq_apart := hpublish }

/-- An edit that applies is accepted exactly when a node can be made with the settings and the texts it
leaves, it is refused for the same reason, and the edited node agrees with the one made anew. -/
theorem edit_agrees_with_rebuild {n : Node} {e : Edit} (happlies : e.Applies n.templates.length) :
    let after := (n.edit e).2
    let rebuilt := withTemplates after.draft.settings after.draft.texts
    after.draft = n.draft.revise e
      ∧ ((n.edit e).1 = .ok () ↔ ∃ fresh, rebuilt = .ok fresh)
      ∧ (∀ error, (n.edit e).1 = .error error ↔ rebuilt = .error error)
      ∧ ∀ fresh, rebuilt = .ok fresh → after.AgreesWith fresh := by
  obtain ⟨m, hedit, hdraft, _⟩ := exists_edit_eq_reparse happlies
  simp only [hedit, draft_reparse, withTemplates_eq]
  refine ⟨hdraft, ?_⟩
  rw [reparse_eq]
  cases hed : m.draft.edition with
  | error error => simp [Except.map]
  | ok ed =>
      refine ⟨by simp [Except.map], by simp [Except.map], ?_⟩
      rintro _ ⟨⟩
      exact agreesWith_publish (draft_unparsed m.draft).symm hed

/-- An accepted edit that follows rejected ones. -/
theorem edit_agrees_with_rebuild_after_rejected_edits :
    let n := (ofSettings {}).run [.edit (.templates ["{a:I} {b:N}".toList, "{a}".toList]),
      .setInput "a".toList "7".toList, .edit (.templateCount 3), .edit (.requirePlaceholders false)]
    let e : Edit := .template 1 "{b} {c:S} {:I}".toList
    e.Applies n.templates.length ∧ (n.edit e).1 = .ok ()
      ∧ ∀ fresh, withTemplates (n.edit e).2.draft.settings (n.edit e).2.draft.texts = .ok fresh →
        (n.edit e).2.AgreesWith fresh :=
  ⟨by decide, rfl, (edit_agrees_with_rebuild (by decide)).2.2.2⟩

end Node

end TypedTemplate
