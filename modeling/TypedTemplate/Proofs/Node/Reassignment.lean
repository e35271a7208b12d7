import TypedTemplate.Proofs.Node.Addressing
import TypedTemplate.Proofs.Node.Assignment
/-!
# Changing the value of an input

An input is given a value, or loses it, by name. The name is that of one variable, and what changes is what
the tokens of this variable show: every other token has the text it had. It makes no difference whether the
node is stale, since a token is bound to its input and is not looked up in a text again.
-/

namespace TypedTemplate

/-- The name of the input that an operation works on. -/
def Operation.input? : Operation → Option Text
  | .edit _ => none
  | .setValue name _ | .setInput name _ | .clearInput name => some name

/-- What an operation leaves an input of a kind with. -/
inductive Operation.Leaves (decimal : Char) (kind : Kind) : Operation → Option Value → Prop
  | value (name : Text) {v : Value} (hkind : v.kind = kind) : Leaves decimal kind (.setValue name v) (some v)
  | input (name : Text) {raw : Text} {v : Value} (hread : Value.read kind decimal raw = .ok v) :
      Leaves decimal kind (.setInput name raw) (some v)
  | nothing (name : Text) : Leaves decimal kind (.clearInput name) none

theorem Operation.Leaves.unique {decimal : Char} {kind : Kind} {op : Operation}
    {content content' : Option Value} (h : op.Leaves decimal kind content)
    (h' : op.Leaves decimal kind content') : content = content' := by
  cases h with
  | value => cases h' with | value => rfl
  | input _ hread =>
      cases h' with
      | input _ hread' => rw [Except.ok.inj (hread.symm.trans hread')]
  | nothing => cases h' with | nothing => rfl

theorem renderToken_congr {inputs inputs' : InputBank} {separators : Separators} {token : Token}
    (h : ∀ v ∈ token.shown?, v.binding.bind inputs'.value = v.binding.bind inputs.value) :
    renderToken inputs' separators token = renderToken inputs separators token := by
  cases token with
  | text | error => rfl
  | declared v => rw [renderToken, renderToken, h v rfl]
  | reference r => rw [renderToken, renderToken, h r.target rfl]

theorem Token.exists_presentation?_of_shown? {token : Token} {v : Variable} (h : token.shown? = some v) :
    ∃ p, token.presentation? = some p := by
  cases token with
  | text | error => exact absurd h (by simp [shown?])
  | declared w => exact ⟨_, rfl⟩
  | reference r => exact ⟨_, rfl⟩

namespace Node

/-- A node that differs from another in the value of one variable and in what the tokens of that variable
show. -/
structure Reassigns (n n' : Node) (v : Variable) (content : Option Value) : Prop where
  frame : n' = { n with inputs := n'.inputs }
  inputNames_eq : n'.inputNames = n.inputNames
  value_eq : v.binding.bind n'.inputs.value = content
  value_of_ne : ∀ h, v.binding ≠ some h → n'.inputs.value h = n.inputs.value h
  /-- A token of the variable shows the value in its own presentation. -/
  shown : ∀ token p, token.shown? = some v → token.presentation? = some p →
    renderToken n'.inputs n'.separators token = .ok (renderValue p n.separators content)
  blank : content = none → ∀ token, token.shown? = some v →
    renderToken n'.inputs n'.separators token = .ok ['?']
  others : ∀ i tokens, n.tokens? i = some tokens → ∀ token ∈ tokens, token.shown? ≠ some v →
    renderToken n'.inputs n'.separators token = renderToken n.inputs n.separators token

/-- What comes of an operation on the input with a name. -/
structure Answers (n : Node) (op : Operation) (name : Text) : Prop where
  accepted_iff : (n.perform op).1 = .ok ()
    ↔ ∃ v ∈ n.declared, v.name = name ∧ ∃ content, op.Leaves n.decimal v.kind content
  named_once : (n.perform op).1 = .ok () → ∃! v, v ∈ n.declared ∧ v.name = name
  reassigns : ∀ v ∈ n.declared, v.name = name → ∀ content, op.Leaves n.decimal v.kind content →
    n.Reassigns (n.perform op).2 v content
  refused : ∀ e, (n.perform op).1 = .error e → (n.perform op).2 = n

variable {n : Node} {settings : Settings} {log : List Attempt}

/-! ### One value changed -/

theorem Follows.reassigns (h : n.Follows settings log) {v : Variable} (hv : v ∈ n.declared)
    {handle : Handle} (hbinding : v.binding = some handle) {b : InputBank} {content : Option Value}
    (hb : n.inputs.Revalues b handle content) : n.Reassigns { n with inputs := b } v content := by
  have hvalue : v.binding.bind b.value = content := by
    rw [hbinding]
    exact hb.value_eq
  have hshown : ∀ token p, token.shown? = some v → token.presentation? = some p →
      renderToken b n.separators token = .ok (renderValue p n.separators content) := by
    intro token p hshown hp
    rw [renderToken_of_shown? hshown hp, hvalue]
  constructor
  case frame => rfl
  case inputNames_eq =>
    rw [inputNames_eq_listing, inputNames_eq_listing]
    exact congrArg InputBank.listing (funext hb.names_eq)
  case value_eq => exact hvalue
  case value_of_ne =>
    intro other hne
    apply hb.value_of_ne
    rintro rfl
    exact hne hbinding
  case shown => exact hshown
  case blank =>
    rintro rfl token htoken
    obtain ⟨p, hp⟩ := Token.exists_presentation?_of_shown? htoken
    exact hshown token p htoken hp
  case others =>
    intro i tokens htokens token htoken hne
    apply renderToken_congr
    intro w hw
    have hmem := (h.shown htokens htoken hw).1
    obtain ⟨other, hother, _, _⟩ := h.serves.exists_binding hmem
    -- no other variable has the same binding, so the token reads from another input
    have hdistinct : other ≠ handle := by
      rintro rfl
      have hsame : w.binding = v.binding := hother.trans hbinding.symm
      have hwv := List.inj_on_of_nodup_map (h.serves.nodup_bindings h.nodup) hmem hv hsame
      exact hne (hwv ▸ hw)
    rw [hother]
    exact hb.value_of_ne other hdistinct

/-! ### One operation -/

/-- An operation on the input of a variable is carried out where it leaves the input with something, and
is refused otherwise. -/
theorem perform_known (h : n.Follows settings log) {v : Variable} (hv : v ∈ n.declared)
    {op : Operation} (hop : op.input? = some v.name) :
    (∃ content b handle, op.Leaves n.decimal v.kind content ∧ v.binding = some handle
        ∧ n.inputs.Revalues b handle content ∧ n.perform op = (.ok (), { n with inputs := b }))
      ∨ (∀ content, ¬op.Leaves n.decimal v.kind content) ∧ ∃ e, n.perform op = (.error e, n) := by
  obtain ⟨handle, hfind, hbinding, hkind, hslot⟩ := exists_findInput h.serves h.nodup hv
  cases op with
  | edit e => exact absurd hop (by simp [Operation.input?])
  | setValue name value =>
      obtain rfl := Option.some.inj hop
      by_cases hvalue : handle.kind = value.kind
      · obtain ⟨b, hstore, hb⟩ := n.exists_store hslot hvalue.symm
        refine .inl ⟨some value, b, handle, .value _ (hvalue.symm.trans hkind), hbinding, hb, ?_⟩
        rw [perform, setValue, hfind]
        simp only [hvalue, ne_eq, not_true_eq_false, if_false, hstore]
      · refine .inr ⟨?_, .invalidValue v.name handle.kind value.plain, ?_⟩
        · intro content hleaves
          cases hleaves with
          | value _ hkind' => exact hvalue (hkind.trans hkind'.symm)
        · rw [perform, setValue, hfind]
          simp only [ne_eq, hvalue, not_false_eq_true, if_true]
  | setInput name raw =>
      obtain rfl := Option.some.inj hop
      cases hread : Value.read v.kind n.decimal raw with
      | ok value =>
          obtain ⟨b, hstore, hb⟩ := n.exists_store hslot ((Value.kind_of_read hread).trans hkind.symm)
          refine .inl ⟨some value, b, handle, .input _ hread, hbinding, hb, ?_⟩
          rw [perform, setInput, hfind]
          simp only [hkind, hread, hstore]
      | error e =>
          refine .inr ⟨?_, .invalidValue v.name v.kind raw, ?_⟩
          · intro content hleaves
            cases hleaves with
            | input _ hread' => exact absurd (hread.symm.trans hread') (by simp)
          · rw [perform, setInput, hfind]
            simp only [hkind, hread]
  | clearInput name =>
      obtain rfl := Option.some.inj hop
      refine .inl ⟨none, _, handle, .nothing _, hbinding, n.inputs.revalues_clear handle, ?_⟩
      rw [perform, clearInput, hfind]

theorem perform_unknown (h : n.Follows settings log) {op : Operation} {name : Text}
    (hop : op.input? = some name) (hname : ∀ v ∈ n.declared, v.name ≠ name) :
    n.perform op = (.error (.unknownInput name), n) := by
  have hfind := findInput_of_unknown h.serves hname
  cases op with
  | edit e => exact absurd hop (by simp [Operation.input?])
  | setValue | setInput | clearInput =>
      obtain rfl := Option.some.inj hop
      simp only [perform, setValue, setInput, clearInput, hfind]

theorem Follows.answers (h : n.Follows settings log) {op : Operation} {name : Text}
    (hop : op.input? = some name) : n.Answers op name := by
  by_cases hknown : ∃ v ∈ n.declared, v.name = name
  · obtain ⟨v, hv, rfl⟩ := hknown
    have hunique : ∀ w ∈ n.declared, w.name = v.name → w = v := fun w hw hname =>
      List.inj_on_of_nodup_map h.nodup hw hv hname
    have honce : ∃! w, w ∈ n.declared ∧ w.name = v.name :=
      ⟨v, ⟨hv, rfl⟩, fun w hw => hunique w hw.1 hw.2⟩
    obtain ⟨content, b, handle, hleaves, hbinding, hb, hperform⟩ | ⟨hnone, e, hperform⟩ :=
      perform_known h hv hop
    · constructor
      case accepted_iff => simpa [hperform] using ⟨v, hv, rfl, content, hleaves⟩
      case named_once => exact fun _ => honce
      case reassigns =>
        intro w hw hname content' hleaves'
        obtain rfl := hunique w hw hname
        obtain rfl := hleaves.unique hleaves'
        rw [hperform]
        exact h.reassigns hv hbinding hb
      case refused => simp [hperform]
    · have hnever : ∀ w ∈ n.declared, w.name = v.name → ∀ content, ¬op.Leaves n.decimal w.kind content := by
        intro w hw hname
        rw [hunique w hw hname]
        exact hnone
      constructor
      case accepted_iff =>
        rw [hperform]
        refine ⟨fun hok => absurd hok (by simp), ?_⟩
        rintro ⟨w, hw, hname, content, hleaves⟩
        exact absurd hleaves (hnever w hw hname content)
      case named_once => exact fun _ => honce
      case reassigns => exact fun w hw hname content hleaves => absurd hleaves (hnever w hw hname content)
      case refused => simp [hperform]
  · have hunknown : ∀ v ∈ n.declared, v.name ≠ name := fun v hv hname => hknown ⟨v, hv, hname⟩
    have hperform := perform_unknown h hop hunknown
    constructor
    case accepted_iff =>
      rw [hperform]
      refine ⟨fun hok => absurd hok (by simp), ?_⟩
      rintro ⟨v, hv, hname, _⟩
      exact absurd hname (hunknown v hv)
    case named_once => exact fun hok => absurd hok (by simp [hperform])
    case reassigns => exact fun v hv hname => absurd hname (hunknown v hv)
    case refused => simp [hperform]

/-- Whatever was done to a node, an operation on an input is answered in this way. -/
theorem answers_run {opening : List Operation} (hmade : Made settings opening n) (ops : List Operation)
    {op : Operation} {name : Text} (hop : op.input? = some name) : (n.run ops).Answers op name := by
  rw [hmade.run_eq]
  exact ((follows_ofSettings settings).run (opening ++ ops)).answers hop

/-- In a node that went stale a variable and the references to it show the value; the text that was rejected
plays no part. -/
theorem answers_run_of_stale :
    let texts := ["{a:I} {b:N} {a:I|0=none}".toList, "{b:F1} {a}".toList]
    let n := ((ofSettings {}).setTemplates texts).2
    let ops : List Operation := [.setInput "b".toList "2,5".toList, .edit (.template 1 "{b:Q}".toList)]
    let op : Operation := .setInput "a".toList " 0".toList
    let final := ((n.run ops).perform op).2
    Made {} [.edit (.templates texts)] n ∧ op.input? = some "a".toList
      ∧ (n.run ops).Answers op "a".toList
      ∧ (n.run ops).state = .stale
      ∧ (n.run ops).renderAll = .ok ["? 2,50 ?".toList, "2,5 ?".toList]
      ∧ final.renderAll = .ok ["0 2,50 none".toList, "2,5 0".toList] := by
  intro texts n ops op final
  have hmade : Made {} [.edit (.templates texts)] n := .templates rfl
  exact ⟨hmade, rfl, answers_run hmade ops rfl, by decide +kernel, by decide +kernel, by decide +kernel⟩

end Node

end TypedTemplate
