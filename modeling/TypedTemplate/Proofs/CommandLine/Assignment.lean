import TypedTemplate.CommandLine.Run
import TypedTemplate.Proofs.Node.Reassignment
import TypedTemplate.Proofs.Node.Turns
import TypedTemplate.Proofs.Number.ReadBack
import TypedTemplate.Proofs.Template.Declaration
/-!
# Assignments on the command line

An assignment is cut at its first equals sign, and what stands before it is trimmed. Names have no blanks around
them, so trimming does no harm, but an author may give an input a name that holds an equals sign. The inputs fall
into two groups. Without an equals sign in its name, an input is assigned on the command line as it is by the node,
one after the other as in a list of assignments. With one it is out of reach: what is meant for it goes to the
input that has the first part of its name, if there is one, and whatever is assigned it keeps the value it has.
-/

namespace TypedTemplate

namespace CommandLine

/-- What the program makes of an operation on its node: it goes on with the node, or it ends. -/
def settle (onRefusal : ValidationError → Outcome) : Except ValidationError Unit × Node → Except Outcome Node
  | (.ok (), n) => .ok n
  | (.error e, _) => .error (onRefusal e)

/-- An assignment as it is written. -/
def written (a : Text × Text) : Text :=
  a.1 ++ '=' :: a.2

/-- Carries out assignments in the order they are given, up to the first that ends the program. -/
def assignEach (n : Node) (onRefusal : ValidationError → Outcome) (assignments : List Text) : Except Outcome Node :=
  assignments.foldlM (fun n assignment => assign n onRefusal assignment) n

/-- What assignments can do for the input at a handle, with its name. -/
structure Reaches (m : Node) (onRefusal : ValidationError → Outcome) (handle : Handle) (name : Text) : Prop where
  /-- Without an equals sign in its name, it is set as the node sets it, or refused with the same error. -/
  assign_eq : '=' ∉ name → ∀ raw, assign m onRefusal (written (name, raw)) = settle onRefusal (m.setInput name raw)
  /-- With one, the first part of the name is taken for another one, and the rest for a part of the value. -/
  assign_split : ∀ before after raw, name = before ++ '=' :: after → '=' ∉ before →
    before.trim ≠ name
      ∧ assign m onRefusal (written (name, raw))
        = settle onRefusal (m.setInput before.trim (after ++ '=' :: raw))
  /-- Then no assignments change its value. -/
  value_eq : '=' ∈ name → ∀ assignments m', assignEach m onRefusal assignments = .ok m' →
    m'.inputs.value handle = m.inputs.value handle
  assign_eq_iff : m.inputs.value handle = none → ∀ raw, (m.setInput name raw).1 = .ok () →
    (assign m onRefusal (written (name, raw)) = .ok (m.setInput name raw).2 ↔ '=' ∉ name)

end CommandLine

/-! ### Names without blanks around them -/

theorem trim_generatedName (kind : Kind) (number : Nat) : (generatedName kind number).trim = generatedName kind number := by
  apply Text.trim_eq_self
  · cases kind <;> simp [generatedName, Kind.generatedWord, isBlank]
  · intro c hc
    have hdigits : Nat.toDigits 10 number ≠ [] := Nat.toDigits_ne_nil
    rw [generatedName, List.getLast?_append_of_ne_nil _ (List.cons_ne_nil _ _), List.getLast?_cons_of_ne_nil hdigits] at hc
    exact Numeral.isBlank_of_isDigit (Nat.isDigit_of_mem_toDigits (by decide) (by decide) (List.mem_of_mem_getLast? hc))

/-- A session whose variables have no blanks around their names. -/
def Session.Trimmed (s : Session) : Prop :=
  ∀ v ∈ s.declared, v.name.trim = v.name

theorem Session.Records.trim_name {s s' : Session} {body : Text} {v : Variable} (h : s.Records body v s') :
    v.name.trim = v.name := by
  cases h with
  | given _ hname => rw [hname, namePart, Text.trim_trim]
  | generated _ hname => rw [hname, trim_generatedName]

theorem Session.Trimmed.placeSegment {s : Session} (hs : s.Sound) (h : s.Trimmed) (segment : Segment) :
    (s.placeSegment segment).2.Trimmed := by
  cases segment with
  | text t => exact h
  | placeholder body span =>
      show (s.place body span).2.Trimmed
      obtain ⟨code, hplace⟩ | ⟨r, hplace, _⟩ | ⟨v, s', hplace, _⟩ := s.place_cases body span
      · rw [hplace]
        exact h
      · rw [hplace]
        exact h
      · have hrecords := records_of_place hs hplace
        intro w hw
        rw [hplace, hrecords.adds.declared_eq, List.mem_append, List.mem_singleton] at hw
        obtain hw | rfl := hw
        · exact h w hw
        · exact hrecords.trim_name

theorem Transcript.trimmed_answerAll (decimal : Char) (requests : List Session.Request) :
    ((opened decimal).answerAll requests).session.Trimmed := by
  have hkept : ∀ t : Transcript, ∀ segment, t.session.Sound ∧ t.session.Trimmed →
      (t.place segment).session.Sound ∧ (t.place segment).session.Trimmed := by
    rintro t segment ⟨hs, htrimmed⟩
    exact ⟨(Session.placeSegment_spec hs segment).1, htrimmed.placeSegment hs segment⟩
  have hopened : ∀ c : Char, (opened c).session.Sound ∧ (opened c).session.Trimmed := fun c =>
    ⟨Session.sound_opened c, fun _ hv => absurd hv List.not_mem_nil⟩
  exact (answerAll_induction (p := fun t => t.session.Sound ∧ t.session.Trimmed) hkept
    (fun _ t _ => hopened t.session.decimal) (hopened decimal)).2

theorem Draft.trim_name_of_edition {d : Draft} {ed : Edition} (hed : d.edition = .ok ed) :
    ∀ v ∈ ed.declared, v.name.trim = v.name := by
  obtain ⟨s, hs, _, rfl⟩ := edition_eq_ok hed
  obtain ⟨_, decimal, _, rfl⟩ := Session.ofSeparators_eq_ok_iff.mp hs
  have htrimmed := Transcript.trimmed_answerAll decimal (d.texts.map .template)
  rw [Transcript.answerAll_templates] at htrimmed
  have hnames := map_bindVariables (f := Variable.name) (fun _ _ => rfl) .zero
    (Session.tokenizeEach { decimal } d.texts).2.declared
  intro v hv
  have hname := List.mem_map_of_mem (f := Variable.name) hv
  rw [Edition.ofParsed, hnames] at hname
  obtain ⟨w, hw, hwv⟩ := List.mem_map.mp hname
  rw [← hwv]
  exact htrimmed w hw

/-! ### What all editions have in common -/

theorem Draft.exists_of_mem_attempts {d : Draft} {ops : List Operation} {attempt : Attempt}
    (h : attempt ∈ d.attempts ops) : ∃ d' : Draft, d'.edition = attempt := by
  induction ops generalizing d with
  | nil => exact absurd h List.not_mem_nil
  | cons op ops ih =>
      rw [attempts, List.mem_append, Option.mem_toList] at h
      obtain h | h := h
      · cases op with
        | edit e =>
            rw [attempt?] at h
            split at h
            · exact ⟨_, Option.some.inj h⟩
            · exact absurd h (by simp)
        | setValue | setInput | clearInput => exact absurd h (by simp [attempt?])
      · exact ih h

/-- What the first edition has, and every edition of a draft, the edition in force has as well. -/
theorem Edition.inForce_attempts {p : Edition → Prop} {settings : Settings} (hfirst : p (first settings))
    (hedition : ∀ (d : Draft) (ed : Edition), d.edition = .ok ed → p ed) (d : Draft) (ops : List Operation) :
    p (inForce settings (d.attempts ops)) := by
  rw [inForce, List.getLastD_eq_getLast?]
  cases hlast : ((d.attempts ops).filterMap Except.toOption).getLast? with
  | none => exact hfirst
  | some ed =>
      obtain ⟨attempt, hattempt, hed⟩ := List.mem_filterMap.mp (List.mem_of_getLast? hlast)
      obtain ⟨d', rfl⟩ := Draft.exists_of_mem_attempts hattempt
      cases hd' : d'.edition with
      | error e =>
          rw [hd'] at hed
          exact absurd hed (by simp [Except.toOption])
      | ok ed' =>
          rw [hd'] at hed
          obtain rfl := Option.some.inj hed
          exact hedition d' _ hd'

namespace Node

variable {m n : Node} {settings : Settings} {opening : List Operation}

theorem Made.follows (hmade : Made settings opening n) (ops : List Operation) :
    (n.run ops).Follows settings (Draft.attempts ⟨settings, []⟩ (opening ++ ops)) := by
  rw [hmade.run_eq]
  exact (follows_ofSettings settings).run (opening ++ ops)

/-- No input has blanks around its name, whatever was done to the node. -/
theorem Made.trim_name (hmade : Made settings opening n) (ops : List Operation) :
    ∀ v ∈ (n.run ops).declared, v.name.trim = v.name := by
  rw [(hmade.follows ops).declared_eq]
  exact Edition.inForce_attempts (p := fun ed => ∀ v ∈ ed.declared, v.name.trim = v.name)
    (fun _ hv => absurd hv List.not_mem_nil) (fun _ _ => Draft.trim_name_of_edition) ⟨settings, []⟩ (opening ++ ops)

theorem Made.value_eq_none (hmade : Made settings opening n) (handle : Handle) : n.inputs.value handle = none := by
  cases hmade with
  | blank => exact InputBank.value_empty handle
  | @templates texts _ hmade =>
      rw [withTemplates_eq ⟨settings, texts⟩] at hmade
      obtain ⟨ed, _, rfl⟩ := map_eq_ok_iff.mp hmade
      exact InputBank.value_allot_empty ed.declared handle

theorem withTemplates_of_setTemplates_eq_ok {texts : List Text}
    (hok : ((ofSettings settings).setTemplates texts).1 = .ok ()) :
    withTemplates settings texts = .ok ((ofSettings settings).setTemplates texts).2 := by
  rw [withTemplates]
  split
  · next m hset => rw [hset]
  · next e m hset =>
      rw [hset] at hok
      exact absurd hok (by simp)

theorem name_of_mem_inputNames {handle : Handle} {name : Text} (h : (handle, name) ∈ m.inputNames) :
    m.inputs.name handle = some name := by
  obtain ⟨other, _, hother⟩ := List.mem_filterMap.mp h
  obtain ⟨x, hx, hpair⟩ := Option.map_eq_some_iff.mp hother
  obtain ⟨rfl, rfl⟩ := Prod.mk.inj hpair
  exact hx

/-! ### Setting inputs -/

theorem value_setInput_of_ne {handle : Handle} {name x : Text} (hname : m.inputs.name handle = some name)
    (hne : x ≠ name) (raw : Text) :
    (m.setInput x raw).2.inputs.value handle = m.inputs.value handle
      ∧ (m.setInput x raw).2.inputs.name handle = some name := by
  rw [setInput]
  cases hfind : m.findInput x with
  | error e => exact ⟨rfl, hname⟩
  | ok h =>
      have hx : m.inputs.name h = some x := by
        rw [findInput] at hfind
        split at hfind
        · next hfound =>
            obtain rfl := Except.ok.inj hfind
            exact InputBank.name_of_find? hfound
        · exact absurd hfind (by simp)
      have hother : handle ≠ h := by
        rintro rfl
        exact hne (Option.some.inj (hx.symm.trans hname))
      cases hread : Value.read h.kind m.decimal raw with
      | error e => simpa only [hread, true_and] using hname
      | ok v =>
          obtain ⟨b, hstore, hb⟩ := m.exists_store hx (Value.kind_of_read hread)
          simp only [hread, hstore]
          refine ⟨hb.value_of_ne handle hother, ?_⟩
          rw [InputBank.name_eq_getElem?, hb.names_eq, ← InputBank.name_eq_getElem?, hname]

theorem value_setInput_ne_none {log : List Attempt} (h : m.Follows settings log) {handle : Handle} {name raw : Text}
    (hname : m.inputs.name handle = some name) (hok : (m.setInput name raw).1 = .ok ()) :
    (m.setInput name raw).2.inputs.value handle ≠ none := by
  have hanswers : m.Answers (.setInput name raw) name := h.answers rfl
  obtain ⟨v, hv, hvname, content, hleaves⟩ := hanswers.accepted_iff.mp hok
  obtain ⟨w, hw, hwname, _, hbinding⟩ := h.serves.exists_of_name hname
  obtain rfl : w = v := List.inj_on_of_nodup_map h.nodup hw hv (hwname.trans hvname.symm)
  have hvalue := (hanswers.reassigns w hv hvname content hleaves).value_eq
  rw [hbinding] at hvalue
  cases hleaves with
  | input _ hread =>
      intro hnone
      exact absurd (hvalue.symm.trans hnone) (by simp)

end Node

/-! ### One assignment -/

namespace CommandLine

variable {m : Node} {onRefusal : ValidationError → Outcome}

theorem assign_append_cons {before : Text} (hbefore : '=' ∉ before) (rest : Text) :
    assign m onRefusal (before ++ '=' :: rest) = settle onRefusal (m.setInput before.trim rest) := by
  rw [assign, Text.cut_append_cons hbefore]
  simp only
  rcases m.setInput before.trim rest with ⟨e | ⟨⟩, m'⟩ <;> rfl

theorem assign_of_not_mem {assignment : Text} (h : '=' ∉ assignment) :
    assign m onRefusal assignment
      = .error (failure (": expected NAME=VALUE, got '" ++ String.ofList assignment ++ "'")) := by
  rw [assign, Text.cut_of_not_mem h]

theorem assign_written {a : Text × Text} (htrim : a.1.trim = a.1) (hname : '=' ∉ a.1) :
    assign m onRefusal (written a) = settle onRefusal (m.setInput a.1 a.2) := by
  rw [written, assign_append_cons hname, htrim]

theorem not_mem_trim {c : Char} {t : Text} (h : c ∉ t) : c ∉ t.trim := by
  obtain ⟨front, back, _, _, ht⟩ := t.exists_eq_append_trim
  intro hc
  apply h
  rw [ht]
  exact List.mem_append_right _ (List.mem_append_left _ hc)

theorem settle_eq_ok {r : Except ValidationError Unit × Node} {m' : Node} (h : settle onRefusal r = .ok m') :
    r = (.ok (), m') := by
  rcases r with ⟨e | ⟨⟩, n⟩
  · exact absurd h (by simp [settle])
  · rw [Except.ok.inj h]

theorem settle_of_eq_ok {r : Except ValidationError Unit × Node} (h : r.1 = .ok ()) :
    settle onRefusal r = .ok r.2 := by
  obtain ⟨_, next⟩ := r
  obtain rfl := h
  rfl

theorem settle_of_eq_error {r : Except ValidationError Unit × Node} {e : ValidationError} (h : r.1 = .error e) :
    settle onRefusal r = .error (onRefusal e) := by
  obtain ⟨_, next⟩ := r
  obtain rfl := h
  rfl

/-- An input with an equals sign in its name keeps its value, and its name, through any assignment. -/
theorem value_of_assign {handle : Handle} {name : Text} (hname : m.inputs.name handle = some name)
    (hmem : '=' ∈ name) {assignment : Text} {m' : Node} (h : assign m onRefusal assignment = .ok m') :
    m'.inputs.value handle = m.inputs.value handle ∧ m'.inputs.name handle = some name := by
  obtain ⟨hcut, _⟩ | ⟨before, rest, rfl, hbefore, _⟩ := Text.cut_cases '=' assignment
  · rw [assign_of_not_mem hcut] at h
    exact absurd h (by simp)
  · rw [assign_append_cons hbefore] at h
    have hne : before.trim ≠ name := by
      rintro rfl
      exact not_mem_trim hbefore hmem
    have hkept := Node.value_setInput_of_ne hname hne rest
    rwa [settle_eq_ok h] at hkept

/-! ### Assignments in turn -/

theorem value_of_assignEach {handle : Handle} {name : Text} (hname : m.inputs.name handle = some name)
    (hmem : '=' ∈ name) {assignments : List Text} {m' : Node} (h : assignEach m onRefusal assignments = .ok m') :
    m'.inputs.value handle = m.inputs.value handle := by
  induction assignments generalizing m with
  | nil => rw [← Except.ok.inj h]
  | cons assignment assignments ih =>
      obtain ⟨next, hassign, hrest⟩ := bind_eq_ok_iff.mp h
      obtain ⟨hvalue, hkept⟩ := value_of_assign hname hmem hassign
      rw [ih hkept hrest, hvalue]

/-- Assignments to names without an equals sign are carried out as the node carries out a list of them. -/
theorem assignEach_written {assignments : List (Text × Text)}
    (h : ∀ a ∈ assignments, a.1.trim = a.1 ∧ '=' ∉ a.1) :
    assignEach m onRefusal (assignments.map written) = (m.assignAll assignments).mapError onRefusal := by
  induction assignments generalizing m with
  | nil => rfl
  | cons a assignments ih =>
      rw [List.forall_mem_cons] at h
      rw [List.map_cons, assignEach, List.foldlM_cons, assign_written h.1.1 h.1.2, Node.assignAll]
      rcases m.setInput a.1 a.2 with ⟨e | ⟨⟩, next⟩
      · rfl
      · exact ih h.2

/-! ### What assignments reach -/

theorem reaches_of_follows {settings : Settings} {log : List Attempt} (h : m.Follows settings log) {handle : Handle}
    {name : Text} (hname : m.inputs.name handle = some name) (htrim : name.trim = name) :
    Reaches m onRefusal handle name := by
  have hvalue : '=' ∈ name → ∀ assignments m', assignEach m onRefusal assignments = .ok m' →
      m'.inputs.value handle = m.inputs.value handle :=
    fun hmem _ _ => value_of_assignEach hname hmem
  have hwritten : '=' ∉ name → ∀ raw,
      assign m onRefusal (written (name, raw)) = settle onRefusal (m.setInput name raw) :=
    fun hfree raw => assign_written (a := (name, raw)) htrim hfree
  constructor
  case assign_eq => exact hwritten
  case assign_split =>
    rintro before after raw rfl hbefore
    constructor
    · intro hsame
      apply not_mem_trim hbefore
      rw [hsame]
      exact List.mem_append_right _ List.mem_cons_self
    · rw [written, List.append_assoc, List.cons_append, assign_append_cons hbefore]
  case value_eq => exact hvalue
  case assign_eq_iff =>
    intro hnone raw hok
    constructor
    · intro hassign hmem
      have hkept := (value_of_assign hname hmem hassign).1
      exact Node.value_setInput_ne_none h hname hok (hkept.trans hnone)
    · intro hfree
      rw [hwritten hfree, settle_of_eq_ok hok]

/-- Whatever was done to a node, assignments reach its inputs in this way. -/
theorem reaches_run {n : Node} {settings : Settings} {opening : List Operation} (hmade : n.Made settings opening)
    (ops : List Operation) (onRefusal : ValidationError → Outcome) :
    (∀ input ∈ (n.run ops).inputNames, Reaches (n.run ops) onRefusal input.1 input.2)
      ∧ (∀ assignments : List (Text × Text),
          (∀ a ∈ assignments, '=' ∉ a.1 ∧ a.1 ∈ (n.run ops).inputNames.map Prod.snd) →
            assignEach (n.run ops) onRefusal (assignments.map written)
              = ((n.run ops).assignAll assignments).mapError onRefusal)
      ∧ ∀ handle, n.inputs.value handle = none := by
  have hfollows := hmade.follows ops
  have htrim : ∀ handle name, (n.run ops).inputs.name handle = some name → name.trim = name := by
    intro handle name hname
    obtain ⟨v, hv, rfl, _⟩ := hfollows.serves.exists_of_name hname
    exact hmade.trim_name ops v hv
  refine ⟨?_, ?_, hmade.value_eq_none⟩
  · rintro ⟨handle, name⟩ hinput
    have hname := Node.name_of_mem_inputNames hinput
    exact reaches_of_follows hfollows hname (htrim handle name hname)
  · intro assignments h
    apply assignEach_written
    intro a ha
    obtain ⟨hfree, hmem⟩ := h a ha
    obtain ⟨⟨handle, name⟩, hinput, hname⟩ := List.mem_map.mp hmem
    obtain rfl : name = a.1 := hname
    exact ⟨htrim handle a.1 (Node.name_of_mem_inputNames hinput), hfree⟩

/-- Names of all sorts, given and generated, in a node with a rejected edit behind it. What is meant for `a=b` goes
to `a`. -/
theorem reaches_run_of_equals_signs :
    let texts := ["{ a :S} {a=b:I} {:N}".toList]
    let n := ((Node.ofSettings {}).setTemplates texts).2
    let ops : List Operation := [.setInput "a".toList "x".toList, .edit (.templates ["{a=b:Q}".toList])]
    let m := n.run ops
    let onRefusal := refused .default "en" texts
    let assignments := [("a".toList, "=".toList), ("Number 1".toList, "2,5".toList)]
    n.Made {} [.edit (.templates texts)] ∧ (⟨.integer, 0⟩, "a=b".toList) ∈ m.inputNames
      ∧ Reaches m onRefusal ⟨.integer, 0⟩ "a=b".toList
      ∧ (∀ a ∈ assignments, '=' ∉ a.1 ∧ a.1 ∈ m.inputNames.map Prod.snd)
      ∧ assignEach m onRefusal (assignments.map written) = (m.assignAll assignments).mapError onRefusal
      ∧ ((assignEach m onRefusal ((assignments ++ [("a=b".toList, "5".toList)]).map written)).toOption.map Node.renderAll
        = some (.ok ["b=5 ? 2,50".toList])) := by
  intro texts n ops m onRefusal assignments
  have hmade : n.Made {} [.edit (.templates texts)] :=
    .templates (Node.withTemplates_of_setTemplates_eq_ok (by decide +kernel))
  have hmem : (⟨.integer, 0⟩, "a=b".toList) ∈ m.inputNames := by decide +kernel
  have hnames : ∀ a ∈ assignments, '=' ∉ a.1 ∧ a.1 ∈ m.inputNames.map Prod.snd := by decide +kernel
  obtain ⟨hreaches, hassignments, _⟩ := reaches_run hmade ops onRefusal
  have hagree := hassignments assignments hnames
  exact ⟨hmade, hmem, hreaches _ hmem, hnames, hagree, by decide +kernel⟩

/-- Two inputs that the node can both set: an assignment to the second one sets the first, and without the first one
the program ends with an error about a name that was not written. -/
theorem not_assigned_of_equals_sign :
    let name := "a=b".toList
    let n := ((Node.ofSettings {}).setTemplates ["{a:S} {a=b:I}".toList]).2
    let alone := ((Node.ofSettings {}).setTemplates ["{a=b:I}".toList]).2
    Node.withTemplates {} ["{a:S} {a=b:I}".toList] = .ok n ∧ Node.withTemplates {} ["{a=b:I}".toList] = .ok alone
      ∧ name ∈ n.inputNames.map Prod.snd ∧ name ∈ alone.inputNames.map Prod.snd
      ∧ (n.setInput name ['5']).1 = .ok () ∧ (alone.setInput name ['5']).1 = .ok ()
      ∧ (n.setInput name ['5']).2.renderAll = .ok ["? 5".toList]
      ∧ (∀ onRefusal, ∃ m, assign n onRefusal (written (name, ['5'])) = .ok m
          ∧ m.renderAll = .ok ["b=5 ?".toList])
      ∧ ∀ onRefusal, assign alone onRefusal (written (name, ['5'])) = .error (onRefusal (.unknownInput ['a'])) := by
  intro name n alone
  have hn : name ∈ n.inputNames.map Prod.snd ∧ (n.setInput name ['5']).1 = .ok ()
      ∧ (n.setInput name ['5']).2.renderAll = .ok ["? 5".toList] := by decide +kernel
  have hn' : Node.withTemplates {} ["{a:S} {a=b:I}".toList] = .ok n :=
    Node.withTemplates_of_setTemplates_eq_ok (by decide +kernel)
  have halone' : Node.withTemplates {} ["{a=b:I}".toList] = .ok alone :=
    Node.withTemplates_of_setTemplates_eq_ok (by decide +kernel)
  have halone : name ∈ alone.inputNames.map Prod.snd ∧ (alone.setInput name ['5']).1 = .ok ()
      ∧ (alone.setInput ['a'] ['b', '=', '5']).1 = .error (.unknownInput ['a']) := by decide +kernel
  have hsplit : written (name, ['5']) = ['a'] ++ '=' :: ['b', '=', '5'] := rfl
  have hmeant : (n.setInput ['a'] ['b', '=', '5']).1 = .ok ()
      ∧ (n.setInput ['a'] ['b', '=', '5']).2.renderAll = .ok ["b=5 ?".toList] := by decide +kernel
  refine ⟨hn', halone', hn.1, halone.1, hn.2.1, halone.2.1, hn.2.2, fun onRefusal => ?_, fun onRefusal => ?_⟩
  · rw [hsplit, assign_append_cons (by decide)]
    exact ⟨_, settle_of_eq_ok hmeant.1, hmeant.2⟩
  · rw [hsplit, assign_append_cons (by decide)]
    exact settle_of_eq_error halone.2.2

end CommandLine

end TypedTemplate
