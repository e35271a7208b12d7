import TypedTemplate.Proofs.Node.Edition
/-!
# The history of a node

A node is edited and given values in any order, and an edit may be rejected. Of its history only the
attempts to parse the templates matter, and these are known from the drafts alone: `Draft.attempts` lists
them for a run of operations, in the order they are made. The last attempt that came to an edition is in
force, and everything a node shows is read from it. `Follows` is the invariant, an operation adds its
attempt to the log, `Follows.perform`, and a run adds all of its attempts, `Follows.run`.
-/

namespace TypedTemplate

/-- An outcome of parsing the templates of a node. -/
abbrev Attempt := Except ValidationError Edition

/-- The edition of the last attempt that came to one. -/
def Edition.inForce (settings : Settings) (log : List Attempt) : Edition :=
  (log.filterMap Except.toOption).getLastD (first settings)

/-- The error of an attempt that failed. -/
def Attempt.error? : Attempt → Option ValidationError
  | .ok _ => none
  | .error e => some e

/-- What can be done to a node. -/
inductive Operation where
  | edit (e : Edit)
  | setValue (name : Text) (v : Value)
  | setInput (name raw : Text)
  | clearInput (name : Text)

namespace Draft

/-- A draft after an operation. -/
def after (d : Draft) : Operation → Draft
  | .edit e => d.revise e
  | _ => d

/-- The attempt an operation makes, if it makes one. -/
def attempt? (d : Draft) : Operation → Option Attempt
  | .edit e => if e.Applies d.texts.length then some (d.revise e).edition else none
  | _ => none

def attempts (d : Draft) : List Operation → List Attempt
  | [] => []
  | op :: ops => (d.attempt? op).toList ++ (d.after op).attempts ops

end Draft

namespace Node

def perform (n : Node) : Operation → Except ValidationError Unit × Node
  | .edit e => n.edit e
  | .setValue name v => n.setValue name v
  | .setInput name raw => n.setInput name raw
  | .clearInput name => n.clearInput name

/-- Performs operations in turn, whether they succeed or not. -/
def run (n : Node) : List Operation → Node
  | [] => n
  | op :: ops => (n.perform op).2.run ops

/-- A node follows a log of attempts: it shows the edition in force, counts the attempts that came to an
edition and remembers the error of the last attempt. -/
structure Follows (n : Node) (settings : Settings) (log : List Attempt) : Prop where
  sound : (Edition.inForce settings log).Sound
  declared_eq : n.declared = (Edition.inForce settings log).declared
  separators_eq : n.separators = (Edition.inForce settings log).separators
  serves : n.inputs.Serves n.declared
  tokens : ∀ i tokens, n.tokens? i = some tokens →
    (Edition.inForce settings log).tokens[i]? = some tokens ∨ tokens = []
  revision_eq : n.revision = log.countP Except.isOk
  lastError_eq : n.lastError = log.getLast?.bind Attempt.error?

end Node

/-! ### The edition in force -/

namespace Edition

@[simp] theorem inForce_concat_ok (settings : Settings) (log : List Attempt) (ed : Edition) :
    inForce settings (log ++ [.ok ed]) = ed := by
  simp [inForce, Except.toOption]

@[simp] theorem inForce_concat_error (settings : Settings) (log : List Attempt) (e : ValidationError) :
    inForce settings (log ++ [.error e]) = inForce settings log := by
  simp [inForce, Except.toOption]

end Edition

theorem Draft.revise_of_not_applies {d : Draft} {e : Edit} (hnot : ¬e.Applies d.texts.length) :
    d.revise e = d := by
  cases e with
  | template index text =>
      rw [revise, List.set_eq_of_length_le (Nat.le_of_not_lt hnot)]
  | templates | templateCount | separators | requirePlaceholders => exact absurd trivial hnot

theorem Draft.eq_of_ne_edit (d : Draft) {op : Operation} (hop : ∀ e, op ≠ .edit e) :
    d.attempt? op = none ∧ d.after op = d := by
  cases op with
  | edit e => exact absurd rfl (hop e)
  | setValue | setInput | clearInput => exact ⟨rfl, rfl⟩

/-! ### One operation -/

namespace Node

variable {n : Node} {settings : Settings} {log : List Attempt}

theorem names_store (n : Node) (h : Handle) (v : Value) (kind : Kind) :
    (n.store h v).inputs.names kind = n.inputs.names kind := by
  rw [store]
  cases hput : n.inputs.put? h v with
  | none => rfl
  | some b => exact InputBank.names_put? hput kind

theorem exists_inputs_perform (n : Node) {op : Operation} (hop : ∀ e, op ≠ .edit e) :
    ∃ b, (n.perform op).2 = { n with inputs := b } ∧ ∀ kind, b.names kind = n.inputs.names kind := by
  cases op with
  | edit e => exact absurd rfl (hop e)
  | setValue name v =>
      rw [perform, setValue]
      cases n.findInput name with
      | error e => exact ⟨n.inputs, rfl, fun _ => rfl⟩
      | ok h =>
          simp only
          split
          · exact ⟨n.inputs, rfl, fun _ => rfl⟩
          · exact ⟨_, rfl, n.names_store h v⟩
  | setInput name raw =>
      rw [perform, setInput]
      cases n.findInput name with
      | error e => exact ⟨n.inputs, rfl, fun _ => rfl⟩
      | ok h =>
          simp only
          split
          · exact ⟨n.inputs, rfl, fun _ => rfl⟩
          · exact ⟨_, rfl, n.names_store h _⟩
  | clearInput name =>
      rw [perform, clearInput]
      cases n.findInput name with
      | error e => exact ⟨n.inputs, rfl, fun _ => rfl⟩
      | ok h => exact ⟨_, rfl, InputBank.names_clear n.inputs h⟩

theorem follows_ofSettings (settings : Settings) : (ofSettings settings).Follows settings [] where
  sound := Edition.sound_first settings
  declared_eq := rfl
  separators_eq := rfl
  serves := InputBank.serves_allot .empty []
  tokens i tokens h := by simp [tokens?, ofSettings] at h
  revision_eq := rfl
  lastError_eq := rfl

namespace Follows

theorem publish {m : Node} {ed : Edition} (hed : m.draft.edition = .ok ed)
    (hrevision : m.revision = log.countP Except.isOk) :
    (m.publish ed).Follows settings (log ++ [.ok ed]) where
  sound := by
    rw [Edition.inForce_concat_ok]
    exact Draft.sound_of_edition hed
  declared_eq := by
    rw [Edition.inForce_concat_ok]
    rfl
  separators_eq := by
    rw [Edition.inForce_concat_ok]
    rfl
  serves := (Draft.sound_of_edition hed).serves_allot m.inputs
  tokens i tokens h := by
    rw [Edition.inForce_concat_ok, ← map_tokens_publish hed, List.getElem?_map]
    exact .inl h
  revision_eq := by
    rw [List.countP_append, ← hrevision]
    rfl
  lastError_eq := by simp [Node.publish, Attempt.error?]

theorem reject {m : Node} (h : n.Follows settings log) (hredrafts : m.Redrafts n) (e : ValidationError) :
    { m with lastError := some e }.Follows settings (log ++ [Except.error e]) where
  sound := by
    rw [Edition.inForce_concat_error]
    exact h.sound
  declared_eq := by
    rw [Edition.inForce_concat_error, hredrafts.frame]
    exact h.declared_eq
  separators_eq := by
    rw [Edition.inForce_concat_error, hredrafts.frame]
    exact h.separators_eq
  serves := by
    rw [hredrafts.frame]
    exact h.serves
  tokens i tokens htokens := by
    rw [Edition.inForce_concat_error]
    obtain hkept | hnil := hredrafts.tokens i tokens htokens
    · exact h.tokens i tokens hkept
    · exact .inr hnil
  revision_eq := by
    rw [hredrafts.frame, List.countP_append]
    exact h.revision_eq
  lastError_eq := by simp [Attempt.error?]

theorem inputs (h : n.Follows settings log) {b : InputBank}
    (hnames : ∀ kind, b.names kind = n.inputs.names kind) :
    { n with inputs := b }.Follows settings log :=
  { h with
    serves := ⟨fun kind => (hnames kind).trans (h.serves.names_eq kind), h.serves.binding_eq⟩ }

/-- An operation on a node that follows a log adds its attempt to the log, and the outcome of that
attempt is what the operation reports. -/
theorem perform (h : n.Follows settings log) (op : Operation) :
    (n.perform op).2.Follows settings (log ++ (n.draft.attempt? op).toList)
      ∧ (n.perform op).2.draft = n.draft.after op
      ∧ ∀ attempt ∈ n.draft.attempt? op, (n.perform op).1 = attempt.map fun _ => () := by
  have hlength : n.draft.texts.length = n.templates.length := List.length_map _
  by_cases hedit : ∃ e, op = .edit e
  · obtain ⟨e, rfl⟩ := hedit
    simp only [Draft.attempt?, Draft.after, Node.perform, hlength]
    by_cases happlies : e.Applies n.templates.length
    · obtain ⟨m, hedit, hdraft, hredrafts⟩ := exists_edit_eq_reparse happlies
      rw [if_pos happlies, hedit, ← hdraft, reparse_eq]
      cases hed : m.draft.edition with
      | error err => exact ⟨h.reject hredrafts err, rfl, by rintro _ ⟨⟩; rfl⟩
      | ok ed =>
          have hrevision : m.revision = log.countP Except.isOk := by
            rw [hredrafts.frame]
            exact h.revision_eq
          exact ⟨publish hed hrevision, m.draft_publish ed, by rintro _ ⟨⟩; rfl⟩
    · obtain ⟨index, text, _, hedit⟩ := edit_of_not_applies happlies
      rw [if_neg happlies, hedit, Draft.revise_of_not_applies (hlength ▸ happlies)]
      exact ⟨by simpa using h, rfl, by simp⟩
  · have hop : ∀ e, op ≠ .edit e := fun e he => hedit ⟨e, he⟩
    obtain ⟨b, hperform, hnames⟩ := n.exists_inputs_perform hop
    obtain ⟨hattempt, hafter⟩ := n.draft.eq_of_ne_edit hop
    rw [hattempt, hafter, hperform]
    exact ⟨by simpa using h.inputs hnames, rfl, by simp⟩

theorem run (h : n.Follows settings log) (ops : List Operation) :
    (n.run ops).Follows settings (log ++ n.draft.attempts ops) := by
  induction ops generalizing n log with
  | nil => simpa [Draft.attempts, Node.run] using h
  | cons op ops ih =>
      obtain ⟨hstep, hdraft, _⟩ := h.perform op
      have hrest := ih hstep
      rwa [hdraft, List.append_assoc] at hrest

end Follows

/-! ### What a node shows -/

theorem inputNames_eq_listing (n : Node) : n.inputNames = InputBank.listing n.inputs.names :=
  n.inputs.filterMap_handles

theorem decimalChar?_eq_decimal {n : Node} (husable : n.separators.validate = .ok ()) :
    n.separators.decimalChar? = some n.decimal := by
  obtain ⟨decimal, hdecimal⟩ := Separators.exists_decimalChar? husable
  rw [Node.decimal, hdecimal]
  rfl

/-- How a node is made, without templates or with some that can be parsed, and the operations that this
amounts to. -/
inductive Made (settings : Settings) : List Operation → Node → Prop
  | blank : Made settings [] (ofSettings settings)
  | templates {texts : List Text} {n : Node} (hmade : withTemplates settings texts = .ok n) :
      Made settings [.edit (.templates texts)] n

theorem Made.run_eq {opening : List Operation} (h : Made settings opening n) (ops : List Operation) :
    n.run ops = (ofSettings settings).run (opening ++ ops) := by
  cases h with
  | blank => rfl
  | @templates texts _ hmade =>
      rw [withTemplates] at hmade
      split at hmade
      · next m hset =>
          obtain rfl := Except.ok.inj hmade
          rw [List.singleton_append, Node.run, perform, edit, hset]
      · exact absurd hmade (by simp)

/-- What a node shows after a log of attempts. All of it comes from the edition of the last attempt that
came to one, apart from the error of an attempt that failed since. -/
structure Snapshot (n : Node) (settings : Settings) (log : List Attempt) : Prop where
  declared_eq : n.declared = (Edition.inForce settings log).declared
  /-- A variable is bound to its place among the variables of its kind. -/
  binding_eq : ∀ (kind : Kind) (i : Nat) (v : Variable),
    (Variable.ofKind n.declared kind)[i]? = some v → v.binding = some ⟨kind, i⟩
  counts_eq : n.inputs.counts = Tally.ofKinds ((Edition.inForce settings log).declared.map Variable.kind)
  inputNames_eq : n.inputNames = InputBank.listing (Edition.inForce settings log).names
  separators_eq : n.separators = (Edition.inForce settings log).separators
  tokens : ∀ i tokens, n.tokens? i = some tokens →
    (Edition.inForce settings log).tokens[i]? = some tokens ∨ tokens = []
  usable : n.separators.validate = .ok ()
  /-- The decimal separator that values are read with is the configured one, never a replacement. -/
  decimal_eq : n.separators.decimalChar? = some n.decimal
  revision_eq : n.revision = log.countP Except.isOk
  lastError_eq : n.lastError = log.getLast?.bind Attempt.error?
  state_eq : n.state = .stale ↔ ∃ e, log.getLast? = some (.error e)

theorem Follows.snapshot (h : n.Follows settings log) : n.Snapshot settings log where
  declared_eq := h.declared_eq
  binding_eq := h.serves.binding_eq
  counts_eq := by rw [h.serves.counts_eq, h.declared_eq]
  inputNames_eq := by
    have hnames : n.inputs.names = (Edition.inForce settings log).names := by
      funext kind
      rw [h.serves.names_eq, h.declared_eq, Edition.names]
    rw [inputNames_eq_listing, hnames]
  separators_eq := h.separators_eq
  tokens := h.tokens
  usable := by
    rw [h.separators_eq]
    exact h.sound.usable
  decimal_eq := by
    apply decimalChar?_eq_decimal
    rw [h.separators_eq]
    exact h.sound.usable
  revision_eq := h.revision_eq
  lastError_eq := h.lastError_eq
  state_eq := by
    rw [state, h.lastError_eq]
    cases log.getLast? with
    | none => simp
    | some attempt => cases attempt <;> simp [Attempt.error?]

/-- Whatever is done to a node, it shows the edition of the last attempt that came to one. An operation
that makes an attempt reports its outcome, and an index that no template has makes none. -/
theorem snapshot_run {opening : List Operation} (hmade : Made settings opening n)
    (ops : List Operation) :
    (n.run ops).Snapshot settings (Draft.attempts ⟨settings, []⟩ (opening ++ ops))
      ∧ (∀ op, ∀ attempt ∈ (n.run ops).draft.attempt? op,
          ((n.run ops).perform op).1 = attempt.map fun _ => ())
      ∧ ∀ index text, (n.run ops).templates.length ≤ index →
          (n.run ops).setTemplate index text
            = (.error (.invalidIndex index (n.run ops).templates.length), n.run ops) := by
  have hfollows : (n.run ops).Follows settings (Draft.attempts ⟨settings, []⟩ (opening ++ ops)) := by
    rw [hmade.run_eq]
    exact (follows_ofSettings settings).run (opening ++ ops)
  refine ⟨hfollows.snapshot, fun op => (hfollows.perform op).2.2, fun index text hindex => ?_⟩
  exact if_neg (Nat.not_lt.mpr hindex)

/-- Rejected edits that drop a template leave a node with its first edition. -/
theorem snapshot_of_rejected_edits :
    let texts := ["{a:I} {b:N}".toList, "{a}".toList]
    let ops : List Operation :=
      [.setInput "a".toList "7".toList, .edit (.template 0 "{a:Q}".toList), .edit (.templateCount 1),
        .edit (.template 1 "{a:I}".toList), .clearInput "b".toList]
    let n := ((ofSettings {}).setTemplates texts).2
    Made {} [.edit (.templates texts)] n
      ∧ (n.run ops).Snapshot {} (Draft.attempts ⟨{}, []⟩ (.edit (.templates texts) :: ops))
      ∧ (n.run ops).templates.length = 1 ∧ (n.run ops).declared.length = 2
      ∧ (n.run ops).revision = 1 ∧ (n.run ops).state = .stale :=
  ⟨.templates rfl, (snapshot_run (.templates rfl) _).1, rfl, rfl, rfl, rfl⟩

end Node

end TypedTemplate
