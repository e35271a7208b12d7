import TypedTemplate.Proofs.Node.Binding
/-!
# Assigning inputs

An assignment gives a text to an input by name. It is accepted when there is a variable with that name
and the text can be read as a value of its kind, and then the variable has that value and no other
variable sees a difference. A list of assignments is accepted when each of them is, and the last one to a
name is the one that counts; otherwise the first that is refused is reported.
-/

namespace TypedTemplate

/-- The text of the last assignment to a name. -/
def lastAssigned (assignments : List (Text × Text)) (name : Text) : Option Text :=
  (assignments.reverse.find? fun a => a.1 = name).map Prod.snd

namespace Variable

/-- The value that assignments leave a variable with. -/
def assigned (decimal : Char) (assignments : List (Text × Text)) (v : Variable) : Option Value :=
  (lastAssigned assignments v.name).bind fun raw => (Value.read v.kind decimal raw).toOption

/-- An assignment that variables accept: one has the name, and the text can be read as a value of its
kind. -/
def Accept (vs : List Variable) (decimal : Char) (a : Text × Text) : Prop :=
  ∃ v ∈ vs, v.name = a.1 ∧ ∃ value, Value.read v.kind decimal a.2 = .ok value

/-- Why variables refuse an assignment: none has the name, or the text cannot be read as a value of its
kind. -/
inductive Refuse (vs : List Variable) (decimal : Char) (a : Text × Text) : ValidationError → Prop
  | unknownInput (hname : ∀ v ∈ vs, v.name ≠ a.1) : Refuse vs decimal a (.unknownInput a.1)
  | invalidValue {v : Variable} {e : NumberError} (hv : v ∈ vs) (hname : v.name = a.1)
      (hread : Value.read v.kind decimal a.2 = .error e) :
      Refuse vs decimal a (.invalidValue a.1 v.kind a.2)

theorem accept_or_refuse (vs : List Variable) (decimal : Char) (a : Text × Text) :
    Accept vs decimal a ∨ ∃ e, Refuse vs decimal a e := by
  by_cases hname : ∃ v ∈ vs, v.name = a.1
  · obtain ⟨v, hv, hname⟩ := hname
    cases hread : Value.read v.kind decimal a.2 with
    | ok value => exact .inl ⟨v, hv, hname, value, hread⟩
    | error e => exact .inr ⟨_, .invalidValue hv hname hread⟩
  · exact .inr ⟨_, .unknownInput fun v hv hx => hname ⟨v, hv, hx⟩⟩

end Variable

theorem lastAssigned_concat (assignments : List (Text × Text)) (a : Text × Text) (name : Text) :
    lastAssigned (assignments ++ [a]) name
      = if a.1 = name then some a.2 else lastAssigned assignments name := by
  rw [lastAssigned, List.reverse_concat, List.find?_cons]
  by_cases hname : a.1 = name
  · simp [hname]
  · simp [hname, lastAssigned]

namespace Variable

variable {decimal : Char} {assignments : List (Text × Text)} {a : Text × Text} {v : Variable}

theorem assigned_concat_of_eq (hname : v.name = a.1) :
    v.assigned decimal (assignments ++ [a]) = (Value.read v.kind decimal a.2).toOption := by
  rw [assigned, lastAssigned_concat, if_pos hname.symm]
  rfl

theorem assigned_concat_of_ne (hname : v.name ≠ a.1) :
    v.assigned decimal (assignments ++ [a]) = v.assigned decimal assignments := by
  rw [assigned, lastAssigned_concat, if_neg hname.symm, assigned]

end Variable

/-! ### One assignment -/

namespace Node

/-- A node whose variables have distinct names and the values that assignments leave them with. -/
structure Holds (n : Node) (assignments : List (Text × Text)) : Prop where
  nodup : (n.declared.map Variable.name).Nodup
  serves : n.inputs.Serves n.declared
  value_eq : ∀ v ∈ n.declared, v.binding.bind n.inputs.value = v.assigned n.decimal assignments

variable {n : Node} {assignments : List (Text × Text)} {a : Text × Text}

theorem exists_findInput (hserves : n.inputs.Serves n.declared)
    (hnodup : (n.declared.map Variable.name).Nodup) {v : Variable} (hv : v ∈ n.declared) :
    ∃ handle, n.findInput v.name = .ok handle ∧ v.binding = some handle ∧ handle.kind = v.kind
      ∧ n.inputs.name handle = some v.name := by
  obtain ⟨handle, hbinding, hkind, hslot⟩ := hserves.exists_binding hv
  refine ⟨handle, ?_, hbinding, hkind, hslot⟩
  rw [findInput, hserves.find?_eq_binding hnodup hv, hbinding]

theorem findInput_of_unknown (hserves : n.inputs.Serves n.declared) {x : Text}
    (hname : ∀ v ∈ n.declared, v.name ≠ x) : n.findInput x = .error (.unknownInput x) := by
  have hfind : n.inputs.find? x = none := by
    rw [hserves.find?_eq_none_iff, List.mem_map]
    rintro ⟨v, hv, hx⟩
    exact hname v hv hx
  rw [findInput, hfind]

theorem exists_store (n : Node) {handle : Handle} {x : Text} (hslot : n.inputs.name handle = some x)
    {value : Value} (hkind : value.kind = handle.kind) :
    ∃ b, n.store handle value = { n with inputs := b }
      ∧ n.inputs.Revalues b handle (some value) := by
  have hsome : (n.inputs.slot? handle).isSome := by
    rw [← Option.isSome_map, ← InputBank.name, hslot]
    rfl
  obtain ⟨b, hput, hrevalues⟩ := InputBank.exists_put? hsome hkind
  refine ⟨b, ?_, hrevalues⟩
  rw [store, hput]
  rfl

theorem Holds.setInput_of_refuse (h : n.Holds assignments) {e : ValidationError}
    (hrefuse : Variable.Refuse n.declared n.decimal a e) : n.setInput a.1 a.2 = (.error e, n) := by
  cases hrefuse with
  | unknownInput hname => rw [setInput, findInput_of_unknown h.serves hname]
  | invalidValue hv hname hread =>
      obtain ⟨handle, hfind, _, hkind, _⟩ := exists_findInput h.serves h.nodup hv
      rw [setInput, ← hname, hfind]
      simp only [hkind, hread]

/-- An accepted assignment becomes the value of its variable, and the other variables keep theirs. -/
theorem Holds.exists_setInput_of_accept (h : n.Holds assignments)
    (haccept : Variable.Accept n.declared n.decimal a) :
    ∃ b, n.setInput a.1 a.2 = (.ok (), { n with inputs := b })
      ∧ { n with inputs := b }.Holds (assignments ++ [a]) := by
  obtain ⟨v, hv, hname, value, hread⟩ := haccept
  obtain ⟨handle, hfind, hbinding, hkind, hslot⟩ := exists_findInput h.serves h.nodup hv
  obtain ⟨b, hstore, hvalue, hother, hnames⟩ :=
    n.exists_store hslot ((Value.kind_of_read hread).trans hkind.symm)
  refine ⟨b, ?_, h.nodup, ⟨fun kind => (hnames kind).trans (h.serves.names_eq kind), h.serves.binding_eq⟩,
    fun w hw => ?_⟩
  · rw [setInput, ← hname, hfind]
    simp only [hkind, hread, hstore]
  · show w.binding.bind b.value = w.assigned n.decimal (assignments ++ [a])
    by_cases hwv : w.name = v.name
    · obtain rfl : w = v := List.inj_on_of_nodup_map h.nodup hw hv hwv
      rw [Variable.assigned_concat_of_eq hname, hread, hbinding]
      exact hvalue
    · obtain ⟨handle', _, hbinding', _, hslot'⟩ := exists_findInput h.serves h.nodup hw
      have hne : handle' ≠ handle := by
        rintro rfl
        exact hwv (Option.some.inj (hslot'.symm.trans hslot))
      rw [Variable.assigned_concat_of_ne (hname ▸ hwv), ← h.value_eq w hw, hbinding']
      exact hother handle' hne

/-! ### A list of assignments -/

theorem Holds.exists_assignAll_of_accept (h : n.Holds assignments) {more : List (Text × Text)}
    (haccept : ∀ a ∈ more, Variable.Accept n.declared n.decimal a) :
    ∃ b, n.assignAll more = .ok { n with inputs := b }
      ∧ { n with inputs := b }.Holds (assignments ++ more) := by
  induction more generalizing n assignments with
  | nil => exact ⟨n.inputs, rfl, by simpa using h⟩
  | cons a more ih =>
      rw [List.forall_mem_cons] at haccept
      obtain ⟨b, hset, hholds⟩ := h.exists_setInput_of_accept haccept.1
      obtain ⟨b', hrest, hholds'⟩ := ih hholds haccept.2
      refine ⟨b', ?_, by simpa using hholds'⟩
      rw [assignAll, hset]
      exact hrest

theorem Holds.assignAll_of_refuse (h : n.Holds assignments) {before after : List (Text × Text)}
    (haccept : ∀ b ∈ before, Variable.Accept n.declared n.decimal b) {e : ValidationError}
    (hrefuse : Variable.Refuse n.declared n.decimal a e) :
    n.assignAll (before ++ a :: after) = .error e := by
  induction before generalizing n assignments with
  | nil => rw [List.nil_append, assignAll, h.setInput_of_refuse hrefuse]
  | cons b before ih =>
      rw [List.forall_mem_cons] at haccept
      obtain ⟨b, hset, hholds⟩ := h.exists_setInput_of_accept haccept.1
      rw [List.cons_append, assignAll, hset]
      exact ih hholds haccept.2 hrefuse

end Node

/-- Either all assignments are accepted, or there is a first one that is refused. -/
theorem Variable.accept_all_or_refuse (vs : List Variable) (decimal : Char)
    (assignments : List (Text × Text)) :
    (∀ a ∈ assignments, Accept vs decimal a)
      ∨ ∃ before a after e, assignments = before ++ a :: after
        ∧ (∀ b ∈ before, Accept vs decimal b) ∧ Refuse vs decimal a e := by
  induction assignments with
  | nil => exact .inl (by simp)
  | cons a more ih =>
      obtain haccept | ⟨e, hrefuse⟩ := accept_or_refuse vs decimal a
      · obtain hall | ⟨before, a', after, e, rfl, hbefore, hrefuse⟩ := ih
        · exact .inl (List.forall_mem_cons.mpr ⟨haccept, hall⟩)
        · exact .inr ⟨a :: before, a', after, e, rfl, List.forall_mem_cons.mpr ⟨haccept, hbefore⟩, hrefuse⟩
      · exact .inr ⟨[], a, more, e, rfl, by simp, hrefuse⟩

end TypedTemplate
