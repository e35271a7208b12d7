import Mathlib.Data.List.Nodup
import TypedTemplate.Node.Basic
import TypedTemplate.Proofs.Input.Bank
/-!
# Variables and their inputs

Variables are bound in the order they are declared, each to the next input of its kind, and the inputs
are then named after them. `Serves` says what comes of it: the names of a kind are those of its variables,
in order, and the binding of a variable is its place among those of its kind. When no two variables share
a name, the input with a name is the one its variable is bound to.
-/

namespace TypedTemplate

/-- The variables of a kind, in order. -/
def Variable.ofKind (vs : List Variable) (kind : Kind) : List Variable :=
  vs.filter fun v => v.kind = kind

namespace Variable

theorem ofKind_cons_self (v : Variable) (vs : List Variable) :
    ofKind (v :: vs) v.kind = v :: ofKind vs v.kind := by
  simp [ofKind]

theorem ofKind_cons_of_ne {v : Variable} (vs : List Variable) {kind : Kind} (hne : kind ≠ v.kind) :
    ofKind (v :: vs) kind = ofKind vs kind := by
  simp [ofKind, hne.symm]

theorem count_kind (vs : List Variable) (kind : Kind) :
    (vs.map Variable.kind).count kind = (ofKind vs kind).length := by
  induction vs with
  | nil => rfl
  | cons v vs ih =>
      by_cases hkind : kind = v.kind
      · subst hkind
        rw [List.map_cons, List.count_cons_self, ofKind_cons_self, List.length_cons, ih]
      · rw [List.map_cons, List.count_cons_of_ne (Ne.symm hkind), ofKind_cons_of_ne vs hkind, ih]

theorem mem_ofKind {vs : List Variable} {kind : Kind} {v : Variable} :
    v ∈ ofKind vs kind ↔ v ∈ vs ∧ v.kind = kind := by
  simp [ofKind]

theorem find?_name_eq {vs : List Variable} (hnodup : (vs.map Variable.name).Nodup) {v : Variable}
    (hv : v ∈ vs) : (vs.find? fun w => w.name = v.name) = some v := by
  cases hfind : vs.find? fun w => w.name = v.name with
  | none => simpa using List.find?_eq_none.mp hfind v hv
  | some w =>
      have hname : w.name = v.name := by simpa using List.find?_some hfind
      rw [List.inj_on_of_nodup_map hnodup (List.mem_of_find?_eq_some hfind) hv hname]

end Variable

/-! ### Numbering by kind -/

theorem map_bindVariables {α : Type} {f : Variable → α}
    (hf : ∀ v binding, f { v with binding } = f v) (next : Tally) (vs : List Variable) :
    (bindVariables next vs).map f = vs.map f := by
  induction vs generalizing next with
  | nil => rfl
  | cons v vs ih => simp only [bindVariables, List.map_cons, hf, ih]

theorem exists_mem_bindVariables (next : Tally) {vs : List Variable} {v : Variable} (hv : v ∈ vs) :
    ∃ binding, { v with binding } ∈ bindVariables next vs := by
  induction vs generalizing next with
  | nil => exact absurd hv List.not_mem_nil
  | cons w vs ih =>
      rw [bindVariables]
      rcases List.mem_cons.mp hv with rfl | hrest
      · exact ⟨_, List.mem_cons_self⟩
      · obtain ⟨binding, hbinding⟩ := ih (next.bump w.kind) hrest
        exact ⟨binding, List.mem_cons_of_mem _ hbinding⟩

theorem mem_bindVariables (next : Tally) {vs : List Variable} (hnodup : (vs.map Variable.name).Nodup)
    {v : Variable} (hv : v ∈ vs) :
    { v with binding := ((bindVariables next vs).find? fun w => w.name = v.name).bind Variable.binding }
      ∈ bindVariables next vs := by
  obtain ⟨binding, hmem⟩ := exists_mem_bindVariables next hv
  have hbound : ((bindVariables next vs).map Variable.name).Nodup := by
    rwa [map_bindVariables fun _ _ => rfl]
  have hfind : ((bindVariables next vs).find? fun w => w.name = v.name) = some { v with binding } :=
    Variable.find?_name_eq hbound hmem
  rw [hfind]
  exact hmem

theorem map_name_ofKind_bindVariables (next : Tally) (vs : List Variable) (kind : Kind) :
    (Variable.ofKind (bindVariables next vs) kind).map Variable.name
      = (Variable.ofKind vs kind).map Variable.name := by
  have hpairs := map_bindVariables (f := fun v => (v.kind, v.name)) (fun _ _ => rfl) next vs
  have hnames : ∀ ws : List Variable, (Variable.ofKind ws kind).map Variable.name
      = ((ws.map fun v => (v.kind, v.name)).filter fun p => p.1 = kind).map Prod.snd := by
    intro ws
    rw [List.filter_map, List.map_map]
    rfl
  rw [hnames, hpairs, ← hnames]

/-- Counting on from `next`, a variable is bound to its place among the variables of its kind. -/
theorem binding_of_getElem?_bindVariables {vs : List Variable} {next : Tally} {kind : Kind} {i : Nat}
    {v : Variable} (hv : (Variable.ofKind (bindVariables next vs) kind)[i]? = some v) :
    v.binding = some ⟨kind, next.get kind + i⟩ := by
  induction vs generalizing next i with
  | nil => simp [bindVariables, Variable.ofKind] at hv
  | cons w vs ih =>
      rw [bindVariables] at hv
      by_cases hkind : kind = w.kind
      · subst hkind
        rw [Variable.ofKind_cons_self { w with binding := some ⟨w.kind, next.get w.kind⟩ }] at hv
        cases i with
        | zero =>
            obtain rfl := Option.some.inj hv
            rfl
        | succ i =>
            have hbinding := ih hv
            rw [Tally.get_bump_self] at hbinding
            rw [hbinding, Nat.add_assoc, Nat.add_comm 1]
      · have hne : kind ≠ ({ w with binding := some ⟨w.kind, next.get w.kind⟩ } : Variable).kind := hkind
        rw [Variable.ofKind_cons_of_ne _ hne] at hv
        have hbinding := ih hv
        rwa [Tally.get_bump_of_ne _ hkind] at hbinding

/-! ### Naming the inputs -/

/-- Naming goes on where it has come to: the first `next` names of a kind stay, and the names of the
variables follow. -/
theorem names_foldl_nameAfter (vs : List Variable) (next : Tally) (b : InputBank) (kind : Kind)
    (hlength : ∀ kind, (b.names kind).length = next.get kind + (Variable.ofKind vs kind).length) :
    ((bindVariables next vs).foldl InputBank.nameAfter b).names kind
      = (b.names kind).take (next.get kind) ++ (Variable.ofKind vs kind).map Variable.name := by
  induction vs generalizing next b with
  | nil =>
      have hlen := hlength kind
      simp only [Variable.ofKind, List.filter_nil, List.length_nil, Nat.add_zero] at hlen
      simp [bindVariables, Variable.ofKind, ← hlen]
  | cons v vs ih =>
      have hv := hlength v.kind
      rw [Variable.ofKind_cons_self, List.length_cons] at hv
      have hself := InputBank.names_rename_self b ⟨v.kind, next.get v.kind⟩ v.name
      simp only [bindVariables, List.foldl_cons, InputBank.nameAfter]
      rw [ih]
      · by_cases hkind : kind = v.kind
        · subst hkind
          have hlt : next.get v.kind < (b.names v.kind).length := by omega
          rw [Tally.get_bump_self, Variable.ofKind_cons_self, List.map_cons, hself,
            List.take_add_one, List.getElem?_set_self hlt, List.take_set_of_le (Nat.le_refl _)]
          simp
        · rw [Tally.get_bump_of_ne _ hkind, Variable.ofKind_cons_of_ne _ hkind,
            InputBank.names_rename_of_ne b _ hkind]
      · intro kind
        by_cases hkind : kind = v.kind
        · subst hkind
          rw [Tally.get_bump_self, hself, List.length_set]
          simp only at hv ⊢
          omega
        · rw [Tally.get_bump_of_ne _ hkind, InputBank.names_rename_of_ne b _ hkind, hlength kind,
            Variable.ofKind_cons_of_ne _ hkind]

theorem value_foldl_nameAfter (vs : List Variable) (b : InputBank) (h : Handle) :
    (vs.foldl InputBank.nameAfter b).value h = b.value h := by
  induction vs generalizing b with
  | nil => rfl
  | cons v vs ih =>
      rw [List.foldl_cons, ih, InputBank.nameAfter]
      cases v.binding with
      | none => rfl
      | some h' => exact InputBank.value_rename b h' v.name h

/-! ### The input of a variable -/

/-- The inputs of a bank are those of variables: as many of a kind as there are variables of it, named
after them, each variable bound to the input at its place. -/
structure InputBank.Serves (b : InputBank) (vs : List Variable) : Prop where
  names_eq : ∀ kind, b.names kind = (Variable.ofKind vs kind).map Variable.name
  binding_eq : ∀ (kind : Kind) (i : Nat) (v : Variable),
    (Variable.ofKind vs kind)[i]? = some v → v.binding = some ⟨kind, i⟩

/-- The inputs that variables are given when they are bound. -/
def InputBank.allot (b : InputBank) (vs : List Variable) : InputBank :=
  vs.foldl InputBank.nameAfter (b.resize (Tally.ofKinds (vs.map Variable.kind)))

theorem InputBank.serves_allot (b : InputBank) (vs : List Variable) :
    (b.allot (bindVariables .zero vs)).Serves (bindVariables .zero vs) where
  names_eq kind := by
    rw [allot, names_foldl_nameAfter, Tally.get_zero, List.take_zero, List.nil_append,
      map_name_ofKind_bindVariables]
    intro kind
    rw [length_names_resize, Tally.get_ofKinds, map_bindVariables fun _ _ => rfl,
      Variable.count_kind, Tally.get_zero, Nat.zero_add]
  binding_eq kind i v hv := by
    rw [binding_of_getElem?_bindVariables hv, Tally.get_zero, Nat.zero_add]

theorem InputBank.value_allot (b : InputBank) (vs : List Variable) (h : Handle) :
    (b.allot vs).value h = if h.index < (Variable.ofKind vs h.kind).length then b.value h else none := by
  rw [allot, value_foldl_nameAfter, value_resize, Tally.get_ofKinds, Variable.count_kind]

theorem InputBank.value_allot_empty (vs : List Variable) (h : Handle) :
    (InputBank.empty.allot vs).value h = none := by
  rw [value_allot, value_empty, ite_self]

namespace InputBank.Serves

variable {b : InputBank} {vs : List Variable}

theorem counts_eq (hb : b.Serves vs) : b.counts = Tally.ofKinds (vs.map Variable.kind) := by
  apply PerKind.ext_get
  intro kind
  rw [get_counts, hb.names_eq, List.length_map, Tally.get_ofKinds, Variable.count_kind]

theorem exists_of_name (hb : b.Serves vs) {h : Handle} {x : Text} (hname : b.name h = some x) :
    ∃ v, v ∈ vs ∧ v.name = x ∧ v.kind = h.kind ∧ v.binding = some h := by
  rw [name_eq_getElem?, hb.names_eq, List.getElem?_map] at hname
  obtain ⟨v, hv, hx⟩ := Option.map_eq_some_iff.mp hname
  obtain ⟨hmem, hkind⟩ := Variable.mem_ofKind.mp (List.mem_of_getElem? hv)
  exact ⟨v, hmem, hx, hkind, hb.binding_eq h.kind h.index v hv⟩

theorem exists_binding (hb : b.Serves vs) {v : Variable} (hv : v ∈ vs) :
    ∃ h, v.binding = some h ∧ h.kind = v.kind ∧ b.name h = some v.name := by
  obtain ⟨i, hi⟩ := List.mem_iff_getElem?.mp (Variable.mem_ofKind.mpr ⟨hv, rfl⟩)
  refine ⟨⟨v.kind, i⟩, hb.binding_eq v.kind i v hi, rfl, ?_⟩
  rw [name_eq_getElem?, hb.names_eq, List.getElem?_map, hi]
  rfl

theorem unambiguous (hb : b.Serves vs) (hnodup : (vs.map Variable.name).Nodup) : b.Unambiguous := by
  intro h other x hh hother
  obtain ⟨v, hv, hvx, _, hvh⟩ := hb.exists_of_name hh
  obtain ⟨w, hw, hwx, _, hwh⟩ := hb.exists_of_name hother
  have hvw : v = w := List.inj_on_of_nodup_map hnodup hv hw (hvx.trans hwx.symm)
  rw [hvw, hwh] at hvh
  exact (Option.some.inj hvh).symm

/-- The input with the name of a variable is the one the variable is bound to. -/
theorem find?_eq_binding (hb : b.Serves vs) (hnodup : (vs.map Variable.name).Nodup) {v : Variable}
    (hv : v ∈ vs) : b.find? v.name = v.binding := by
  obtain ⟨h, hbinding, _, hname⟩ := hb.exists_binding hv
  rw [hbinding, (hb.unambiguous hnodup).find?_eq_some_iff]
  exact hname

theorem find?_eq_none_iff (hb : b.Serves vs) {x : Text} :
    b.find? x = none ↔ x ∉ vs.map Variable.name := by
  rw [InputBank.find?_eq_none_iff]
  constructor
  · intro hnone hx
    obtain ⟨v, hv, rfl⟩ := List.mem_map.mp hx
    obtain ⟨h, _, _, hname⟩ := hb.exists_binding hv
    exact hnone h hname
  · intro hx h hname
    obtain ⟨v, hv, hvx, _⟩ := hb.exists_of_name hname
    exact hx (List.mem_map.mpr ⟨v, hv, hvx⟩)

end InputBank.Serves

end TypedTemplate
