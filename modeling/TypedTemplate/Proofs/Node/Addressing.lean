import TypedTemplate.Proofs.Node.History
/-!
# The inputs of a node and their names

The variables of a node and its inputs belong together one by one: a variable is bound to the input at its
place among the variables of its kind, every input has a variable, and the input has the name of that
variable. That holds as soon as an edit is accepted, whatever the inputs were before it, and it holds from
then on, because values do not matter to it and a rejected edit keeps variables and inputs.
-/

namespace TypedTemplate

namespace InputBank.Serves

variable {b : InputBank} {vs : List Variable}

theorem nodup_bindings (hb : b.Serves vs) (hnodup : (vs.map Variable.name).Nodup) :
    (vs.map Variable.binding).Nodup := by
  apply List.Nodup.map_on _ (List.Nodup.of_map _ hnodup)
  intro v hv w hw hvw
  obtain ⟨h, hbinding, _, hname⟩ := hb.exists_binding hv
  obtain ⟨h', hbinding', _, hname'⟩ := hb.exists_binding hw
  have hsame : h = h' := by
    rw [hbinding, hbinding'] at hvw
    exact Option.some.inj hvw
  rw [hsame, hname'] at hname
  exact List.inj_on_of_nodup_map hnodup hv hw (Option.some.inj hname).symm

theorem perm_handles (hb : b.Serves vs) (hnodup : (vs.map Variable.name).Nodup) :
    (vs.map Variable.binding).Perm (b.handles.map some) := by
  have hhandles : (b.handles.map some).Nodup :=
    b.nodup_handles.map fun _ _ => Option.some.inj
  rw [List.perm_ext_iff_of_nodup (hb.nodup_bindings hnodup) hhandles]
  intro binding
  rw [List.mem_map, List.mem_map]
  constructor
  · rintro ⟨v, hv, rfl⟩
    obtain ⟨h, hbinding, _, hname⟩ := hb.exists_binding hv
    exact ⟨h, InputBank.mem_handles.mpr ⟨v.name, hname⟩, hbinding.symm⟩
  · rintro ⟨h, hmem, rfl⟩
    obtain ⟨x, hname⟩ := InputBank.mem_handles.mp hmem
    obtain ⟨v, hv, _, _, hbinding⟩ := hb.exists_of_name hname
    exact ⟨v, hv, hbinding⟩

end InputBank.Serves

namespace Node

variable {n : Node} {settings : Settings} {log : List Attempt}

/-- The inputs of a node as its variables, its tokens and their names address them. -/
structure Addressed (n : Node) : Prop where
  /-- A variable is bound to its place among the variables of its kind. -/
  binding_eq : ∀ (kind : Kind) (k : Nat) (v : Variable),
    (Variable.ofKind n.declared kind)[k]? = some v → v.binding = some ⟨kind, k⟩
  /-- The bindings are the handles of all inputs, each of them once. -/
  perm_handles : (n.declared.map Variable.binding).Perm (n.inputs.handles.map some)
  nodup_handles : n.inputs.handles.Nodup
  name_eq : ∀ v ∈ n.declared, v.binding.bind n.inputs.name = some v.name
  nodup_names : (n.inputNames.map Prod.snd).Nodup
  shown : ∀ i tokens, n.tokens? i = some tokens → ∀ token ∈ tokens, ∀ v ∈ token.shown?,
    v ∈ n.declared ∧ token.name? = some v.name
  find?_eq : ∀ v ∈ n.declared, n.inputs.find? v.name = v.binding
  find?_eq_none_iff : ∀ x, n.inputs.find? x = none ↔ ∀ v ∈ n.declared, v.name ≠ x

theorem Follows.nodup (h : n.Follows settings log) : (n.declared.map Variable.name).Nodup := by
  rw [h.declared_eq]
  exact h.sound.nodup

theorem Follows.shown (h : n.Follows settings log) {i : Nat} {tokens : List Token}
    (htokens : n.tokens? i = some tokens) {token : Token} (htoken : token ∈ tokens) {v : Variable}
    (hv : token.shown? = some v) : v ∈ n.declared ∧ token.name? = some v.name := by
  obtain hkept | rfl := h.tokens i tokens htokens
  · rw [h.declared_eq]
    exact h.sound.shown tokens (List.mem_of_getElem? hkept) token htoken v hv
  · exact absurd htoken List.not_mem_nil

theorem Follows.addressed (h : n.Follows settings log) : n.Addressed := by
  have hunambiguous := h.serves.unambiguous h.nodup
  constructor
  case binding_eq => exact h.serves.binding_eq
  case perm_handles => exact h.serves.perm_handles h.nodup
  case nodup_handles => exact n.inputs.nodup_handles
  case name_eq =>
    intro v hv
    obtain ⟨handle, hbinding, _, hname⟩ := h.serves.exists_binding hv
    rw [hbinding]
    exact hname
  case nodup_names =>
    have hnames : n.inputNames.map Prod.snd = n.inputs.handles.filterMap n.inputs.name := by
      rw [inputNames, List.map_filterMap]
      congr 1
      funext handle
      cases n.inputs.name handle <;> rfl
    rw [hnames]
    apply List.Nodup.filterMap _ n.inputs.nodup_handles
    intro handle other x hx hx'
    exact hunambiguous handle other x hx hx'
  case shown =>
    intro i tokens htokens token htoken v hv
    exact h.shown htokens htoken hv
  case find?_eq =>
    intro v hv
    exact h.serves.find?_eq_binding h.nodup hv
  case find?_eq_none_iff =>
    intro x
    rw [h.serves.find?_eq_none_iff, List.mem_map]
    simp

/-- An accepted edit is followed from whatever node it was made on: a log only has to count as many
editions as the node does. -/
theorem exists_follows_of_edit_eq_ok {e : Edit} (hok : (n.edit e).1 = .ok ()) :
    ∃ settings log, (n.edit e).2.Follows settings log := by
  obtain ⟨m, ed, hed, hpublish⟩ := exists_publish_of_edit_eq_ok hok
  let log : List Attempt := List.replicate m.revision (.ok ed)
  have hcount : m.revision = log.countP Except.isOk := by
    simp only [log, List.countP_replicate]
    rfl
  rw [hpublish]
  exact ⟨m.settings, log ++ [.ok ed], .publish hed hcount⟩

/-- Whatever a node is and whatever its inputs are, once an edit is accepted they are addressed, and they
stay so whatever is done afterwards. -/
theorem addressed_run_edit (n : Node) (e : Edit) (hok : (n.edit e).1 = .ok ()) (ops : List Operation) :
    ((n.edit e).2.run ops).Addressed := by
  obtain ⟨settings, log, hfollows⟩ := exists_follows_of_edit_eq_ok hok
  exact (hfollows.run ops).addressed

/-- The inputs are resized before the edit; afterwards the node goes stale. -/
theorem addressed_run_edit_of_resized_inputs :
    let n := ((ofSettings {}).setTemplates ["{a:I} {b:S} {a}".toList]).2
    let b := ((n.inputs.resize ⟨2, 0, 1, 3⟩).put? ⟨.text, 2⟩ (.text "a".toList)).getD .empty
    let m : Node := { n with inputs := b }
    let e : Edit := .template 0 "{b:I}{:B}{b}{a:S}".toList
    let ops : List Operation := [.setInput "b".toList "7".toList, .setInput "b".toList "x".toList,
      .clearInput "c".toList, .edit (.template 0 "{b:Q}".toList)]
    let final := (m.edit e).2.run ops
    (m.edit e).1 = .ok () ∧ final.Addressed ∧ final.state = .stale
      ∧ final.inputs.handles = [⟨.bool, 0⟩, ⟨.integer, 0⟩, ⟨.text, 0⟩]
      ∧ final.declared.map Variable.binding
        = [some ⟨.integer, 0⟩, some ⟨.bool, 0⟩, some ⟨.text, 0⟩] := by
  intro n b m e ops final
  have hok : (m.edit e).1 = .ok () := rfl
  have hfinal : final.state = .stale ∧ final.inputs.handles = [⟨.bool, 0⟩, ⟨.integer, 0⟩, ⟨.text, 0⟩]
      ∧ final.declared.map Variable.binding
        = [some ⟨.integer, 0⟩, some ⟨.bool, 0⟩, some ⟨.text, 0⟩] := by decide +kernel
  exact ⟨hok, addressed_run_edit m e hok ops, hfinal⟩

end Node

end TypedTemplate
