import TypedTemplate.Proofs.Node.Rendering
/-!
# Rejected edits

An edit that is rejected leaves the node its inputs, its variables and its separators, and every template
that is still there shows what it showed before. But the list of templates has its new length by the time
the texts are parsed: templates that were added are blank, and templates that were dropped have lost their
tokens. All output is kept exactly when the edit does not shorten the list.
-/

namespace TypedTemplate

namespace Node

/-- What a rejected edit leaves of a node. -/
structure Retains (n : Node) (e : Edit) (m : Node) : Prop where
  frame : m = { n with settings := m.settings, templates := m.templates, lastError := m.lastError }
  count_eq : m.templates.length = (n.draft.revise e).texts.length
  kept : ∀ i, i < n.templates.length → i < m.templates.length →
    m.tokens? i = n.tokens? i ∧ m.render i = n.render i
  added : ∀ i, n.templates.length ≤ i → i < m.templates.length →
    m.tokens? i = some [] ∧ m.render i = .ok []
  dropped : ∀ i, m.templates.length ≤ i →
    m.tokens? i = none ∧ m.render i = .error (.missingTemplate i m.templates.length)
  all_kept_iff : (∀ i, i < n.templates.length → m.tokens? i = n.tokens? i ∧ m.render i = n.render i)
    ↔ n.templates.length ≤ (n.draft.revise e).texts.length

variable {n m : Node} {e : Edit}

/-! ### What is kept -/

/-- A rejected edit changes settings, templates and the error, and no tokens. -/
theorem keepsTokens_of_rejected {err : ValidationError} (hrejected : (n.edit e).1 = .error err) :
    (n.edit e).2 = { n with
        settings := (n.edit e).2.settings
        templates := (n.edit e).2.templates
        lastError := (n.edit e).2.lastError }
      ∧ (n.edit e).2.KeepsTokens n := by
  by_cases happlies : e.Applies n.templates.length
  · obtain ⟨m, hedit, _, hframe, htokens⟩ := exists_keepsTokens_of_applies happlies
    rw [hedit, reparse_eq] at hrejected ⊢
    cases hed : m.draft.edition with
    | ok ed => simp [hed] at hrejected
    | error err' => exact ⟨by rw [hframe], htokens⟩
  · obtain ⟨_, _, _, hedit⟩ := edit_of_not_applies happlies
    rw [hedit]
    exact ⟨rfl, keepsTokens_of_map_tokens_eq rfl⟩

theorem draft_edit (n : Node) (e : Edit) : (n.edit e).2.draft = n.draft.revise e := by
  by_cases happlies : e.Applies n.templates.length
  · obtain ⟨m, hedit, hdraft, _⟩ := exists_edit_eq_reparse happlies
    rw [hedit, draft_reparse, hdraft]
  · obtain ⟨_, _, _, hedit⟩ := edit_of_not_applies happlies
    have hlength : n.draft.texts.length = n.templates.length := List.length_map _
    rw [hedit, Draft.revise_of_not_applies (hlength ▸ happlies)]

/-! ### What a template shows -/

theorem KeepsTokens.tokens?_eq (h : m.KeepsTokens n) {i : Nat} (hi : i < n.templates.length)
    (hkept : i < m.templates.length) : m.tokens? i = n.tokens? i := by
  obtain ⟨tokens, htokens⟩ := exists_tokens? hi
  rw [h i hkept, htokens, Option.getD_some]

theorem render_congr {i : Nat} (htokens : m.tokens? i = n.tokens? i) (hi : i < n.templates.length)
    (hinputs : m.inputs = n.inputs) (hseparators : m.separators = n.separators) :
    m.render i = n.render i := by
  obtain ⟨tokens, hn⟩ := exists_tokens? hi
  rw [render_of_tokens? (htokens.trans hn), render_of_tokens? hn, hinputs, hseparators]

/-- A rejected edit keeps the output of every template that is still there, and loses that of the last ones
when it shortens the list. -/
theorem retains_of_rejected {err : ValidationError} (hrejected : (n.edit e).1 = .error err) :
    n.Retains e (n.edit e).2 := by
  obtain ⟨hframe, htokens⟩ := keepsTokens_of_rejected hrejected
  have hcount : (n.edit e).2.templates.length = (n.draft.revise e).texts.length := by
    rw [← n.draft_edit e, draft, List.length_map]
  have hkept : ∀ i, i < n.templates.length → i < (n.edit e).2.templates.length →
      (n.edit e).2.tokens? i = n.tokens? i ∧ (n.edit e).2.render i = n.render i := by
    intro i hi hkept
    have hsame := htokens.tokens?_eq hi hkept
    exact ⟨hsame, render_congr hsame hi (by rw [hframe]) (by rw [hframe])⟩
  constructor
  case frame => exact hframe
  case count_eq => exact hcount
  case kept => exact hkept
  case added =>
    intro i hi hadded
    have hblank : (n.edit e).2.tokens? i = some [] := by
      rw [htokens i hadded, tokens?_of_length_le hi]
      rfl
    exact ⟨hblank, render_of_tokens? hblank⟩
  case dropped => exact fun i hi => ⟨tokens?_of_length_le hi, render_of_length_le hi⟩
  case all_kept_iff =>
    rw [← hcount]
    constructor
    · intro hall
      by_contra hshorter
      have hlast : (n.edit e).2.templates.length < n.templates.length := Nat.lt_of_not_le hshorter
      obtain ⟨tokens, hshown⟩ := exists_tokens? hlast
      have hnone := tokens?_of_length_le (Nat.le_refl (n.edit e).2.templates.length)
      rw [(hall _ hlast).1, hshown] at hnone
      exact absurd hnone (by simp)
    · exact fun hle i hi => hkept i hi (Nat.lt_of_lt_of_le hi hle)

/-- A text that is rejected has no effect on the output of its template, and a blank one is added. -/
theorem retains_of_rejected_texts :
    let n := ((ofSettings {}).setTemplates ["{a:I}".toList, "{a}!".toList]).2
    let e : Edit := .templates ["{a:Q}".toList, "{a}".toList, "{b:S}".toList]
    (∃ err, (n.edit e).1 = .error err) ∧ n.Retains e (n.edit e).2
      ∧ (n.edit e).2.renderAll = .ok ["?".toList, "?!".toList, []] :=
  ⟨⟨_, rfl⟩, retains_of_rejected rfl, rfl⟩

/-- Fewer texts than templates cost a node its last template although they are rejected. -/
theorem loses_output_of_rejected_texts :
    ¬∀ (settings : Settings) (opening : List Operation) (n : Node), Made settings opening n →
      ∀ (actions : List HostAction) (e : Edit) (err : ValidationError),
        ((n.actAll actions).edit e).1 = .error err →
          ∀ i, i < (n.actAll actions).templates.length →
            ((n.actAll actions).edit e).2.tokens? i = (n.actAll actions).tokens? i
              ∧ ((n.actAll actions).edit e).2.render i = (n.actAll actions).render i := by
  intro h
  let texts := ["{a:I}".toList, "{a}!".toList]
  let n := ((ofSettings {}).setTemplates texts).2
  let e : Edit := .templates ["{a:Q}".toList]
  have hmade : Made {} [.edit (.templates texts)] n := .templates rfl
  have hkept := h {} _ n hmade [] e _ rfl 1 (by decide)
  have htext : n.render 1 = .ok "?!".toList := rfl
  have hlost : (n.edit e).2.render 1 = .error (.missingTemplate 1 1) := rfl
  have hsame : (n.edit e).2.render 1 = n.render 1 := hkept.2
  rw [htext, hlost] at hsame
  exact absurd hsame (by simp)

end Node

end TypedTemplate
