import Mathlib.Data.List.Nodup
import TypedTemplate.Input.Bank
import TypedTemplate.Proofs.Outcome
/-!
# The names and values of an input bank

A bank is read in two ways: by handle, for the value and the name of a slot, and by name, for the handle
of the first slot that has it. Everything the rest of the proofs use of a bank is how each operation
changes the names of a kind, `names`, and the value at a handle. The two ways of reading agree in a bank
where no two slots share a name, `Unambiguous`.
-/

namespace TypedTemplate

section Lists

variable {α β : Type}

theorem map_modify_eq_map {g : α → β} {f : α → α} (hf : ∀ a, g (f a) = g a) (l : List α) (i : Nat) :
    (l.modify i f).map g = l.map g := by
  apply List.ext_getElem?
  intro j
  simp only [List.getElem?_map, List.getElem?_modify]
  split <;> simp [hf, Function.comp_def]

theorem map_modify_eq_set {g : α → β} {f : α → α} {b : β} (hf : ∀ a, g (f a) = b) (l : List α)
    (i : Nat) : (l.modify i f).map g = (l.map g).set i b := by
  apply List.ext_getElem?
  intro j
  simp only [List.getElem?_map, List.getElem?_modify, List.getElem?_set, List.length_map]
  by_cases hj : i = j
  · subst hj
    by_cases hlt : i < l.length <;> simp [hf, hlt]
  · simp [hj]

theorem modify_eq_self {l : List α} {i : Nat} {f : α → α} (hf : ∀ a, l[i]? = some a → f a = a) :
    l.modify i f = l := by
  apply List.ext_getElem?
  intro j
  rw [List.getElem?_modify]
  split
  · next hij =>
      subst hij
      cases ha : l[i]? with
      | none => rfl
      | some a => exact congrArg some (hf a ha)
  · exact Option.map_id'

theorem getElem?_take_append_replicate (l : List α) (n : Nat) (a : α) (i : Nat) :
    (l.take n ++ List.replicate (n - l.length) a)[i]? = if i < n then some (l[i]?.getD a) else none := by
  by_cases hn : i < n
  · rw [if_pos hn]
    by_cases hi : i < l.length
    · have htake : i < (l.take n).length := by
        rw [List.length_take]
        omega
      rw [List.getElem?_append_left htake, List.getElem?_take_of_lt hn, List.getElem?_eq_getElem hi]
      rfl
    · have htake : (l.take n).length = l.length := by
        rw [List.length_take]
        omega
      rw [List.getElem?_append_right (by omega), htake, List.getElem?_replicate, if_pos (by omega),
        List.getElem?_eq_none (Nat.le_of_not_lt hi)]
      rfl
  · rw [if_neg hn]
    apply List.getElem?_eq_none
    rw [List.length_append, List.length_take, List.length_replicate]
    omega

end Lists

theorem Value.exists_ofContent {v : Value} {kind : Kind} (hkind : v.kind = kind) :
    ∃ c, v = ofContent kind c := by
  subst hkind
  cases v with
  | bool flag => exact ⟨flag, rfl⟩
  | integer n => exact ⟨n, rfl⟩
  | number x => exact ⟨x, rfl⟩
  | text t => exact ⟨t, rfl⟩

theorem Value.kind_of_read {kind : Kind} {decimal : Char} {raw : Text} {v : Value}
    (hread : Value.read kind decimal raw = .ok v) : v.kind = kind := by
  cases kind with
  | bool =>
      obtain ⟨flag, _, rfl⟩ := map_eq_ok_iff.mp hread
      rfl
  | integer =>
      obtain ⟨n, _, rfl⟩ := map_eq_ok_iff.mp hread
      rfl
  | number =>
      obtain ⟨x, _, rfl⟩ := map_eq_ok_iff.mp hread
      rfl
  | text =>
      obtain rfl := Except.ok.inj hread
      rfl

/-- The order of handles: by kind, and by position within a kind. -/
def Handle.Precedes (h other : Handle) : Prop :=
  Kind.all.idxOf h.kind < Kind.all.idxOf other.kind ∨ h.kind = other.kind ∧ h.index < other.index

namespace InputBank

/-- The names of the slots of a kind. -/
def names (b : InputBank) (kind : Kind) : List Text :=
  (b.get kind).map Slot.name

theorem name_eq_getElem? (b : InputBank) (h : Handle) : b.name h = (b.names h.kind)[h.index]? := by
  simp [name, names, slot?]

theorem get_counts (b : InputBank) (kind : Kind) : b.counts.get kind = (b.names kind).length := by
  simp [counts, names]

/-! ### One slot changed -/

theorem get_modify_self (b : InputBank) (h : Handle)
    (f : Slot h.kind.Content → Slot h.kind.Content) :
    (b.modify h f).get h.kind = (b.get h.kind).modify h.index f :=
  PerKind.get_set_self b _ _

theorem get_modify_of_ne (b : InputBank) (h : Handle)
    (f : Slot h.kind.Content → Slot h.kind.Content) {kind : Kind} (hne : kind ≠ h.kind) :
    (b.modify h f).get kind = b.get kind :=
  PerKind.get_set_of_ne b _ hne

theorem slot?_modify_self (b : InputBank) (h : Handle)
    (f : Slot h.kind.Content → Slot h.kind.Content) :
    (b.modify h f).slot? h = (b.slot? h).map f := by
  rw [slot?, get_modify_self, List.getElem?_modify_eq]
  rfl

theorem slot?_modify_of_ne (b : InputBank) {h other : Handle}
    (f : Slot h.kind.Content → Slot h.kind.Content) (hne : other ≠ h) :
    (b.modify h f).slot? other = b.slot? other := by
  obtain ⟨kind, index⟩ := other
  by_cases hkind : kind = h.kind
  · subst hkind
    have hindex : h.index ≠ index := by
      rintro rfl
      exact hne rfl
    show ((b.modify h f).get h.kind)[index]? = _
    rw [get_modify_self, List.getElem?_modify_ne _ _ hindex]
    rfl
  · show ((b.modify h f).get kind)[index]? = _
    rw [get_modify_of_ne b h f hkind]
    rfl

theorem value_modify_of_ne (b : InputBank) {h other : Handle}
    (f : Slot h.kind.Content → Slot h.kind.Content) (hne : other ≠ h) :
    (b.modify h f).value other = b.value other := by
  rw [value, slot?_modify_of_ne b f hne, value]

theorem names_modify (b : InputBank) (h : Handle) (f : Slot h.kind.Content → Slot h.kind.Content)
    (hname : ∀ slot, (f slot).name = slot.name) (kind : Kind) :
    (b.modify h f).names kind = b.names kind := by
  by_cases hkind : kind = h.kind
  · subst hkind
    rw [names, get_modify_self, map_modify_eq_map hname, names]
  · rw [names, get_modify_of_ne b h f hkind, names]

/-! ### Clearing, storing, naming and resizing -/

@[simp] theorem names_clear (b : InputBank) (h : Handle) (kind : Kind) :
    (b.clear h).names kind = b.names kind := by
  rw [clear, names_modify]
  exact fun _ => rfl

/-- A bank that differs from another in the value at one handle. -/
structure Revalues (b b' : InputBank) (h : Handle) (content : Option Value) : Prop where
  value_eq : b'.value h = content
  value_of_ne : ∀ other, other ≠ h → b'.value other = b.value other
  names_eq : ∀ kind, b'.names kind = b.names kind

theorem exists_put? {b : InputBank} {h : Handle} {v : Value} (hslot : (b.slot? h).isSome)
    (hkind : v.kind = h.kind) : ∃ b', b.put? h v = some b' ∧ b.Revalues b' h (some v) := by
  obtain ⟨slot, hslot⟩ := Option.isSome_iff_exists.mp hslot
  obtain ⟨c, hv⟩ := Value.exists_ofContent hkind
  have hcontent : v.content? h.kind = some c := Value.content?_eq_some_iff.mpr hv
  refine ⟨b.modify h fun slot => { slot with value := some c }, ?_, ?_, ?_, ?_⟩
  · rw [put?, hcontent, hslot]
  · rw [value, slot?_modify_self, hslot, hv]
    rfl
  · intro other hne
    exact value_modify_of_ne b _ hne
  · intro kind
    rw [names_modify]
    exact fun _ => rfl

theorem revalues_clear (b : InputBank) (h : Handle) : b.Revalues (b.clear h) h none where
  value_eq := by
    rw [clear, value, slot?_modify_self, Option.bind_map]
    cases b.slot? h <;> rfl
  value_of_ne other hne := value_modify_of_ne b _ hne
  names_eq := names_clear b h

theorem names_put? {b b' : InputBank} {h : Handle} {v : Value} (hput : b.put? h v = some b')
    (kind : Kind) : b'.names kind = b.names kind := by
  rw [put?] at hput
  split at hput
  · obtain rfl := Option.some.inj hput
    rw [names_modify]
    exact fun _ => rfl
  · exact absurd hput (by simp)

theorem names_rename_self (b : InputBank) (h : Handle) (x : Text) :
    (b.rename h x).names h.kind = (b.names h.kind).set h.index x := by
  rw [names, rename, get_modify_self, names, map_modify_eq_set]
  exact fun _ => rfl

theorem names_rename_of_ne (b : InputBank) {h : Handle} (x : Text) {kind : Kind}
    (hne : kind ≠ h.kind) : (b.rename h x).names kind = b.names kind := by
  rw [names, rename, get_modify_of_ne b h _ hne, names]

@[simp] theorem value_rename (b : InputBank) (h : Handle) (x : Text) (other : Handle) :
    (b.rename h x).value other = b.value other := by
  by_cases hne : other = h
  · subst hne
    rw [rename, value, slot?_modify_self, value, Option.bind_map]
    rfl
  · exact value_modify_of_ne b _ hne

theorem names_resize (b : InputBank) (sizes : Tally) (kind : Kind) :
    (b.resize sizes).names kind
      = (b.names kind).take (sizes.get kind)
        ++ List.replicate (sizes.get kind - (b.names kind).length) [] := by
  simp [names, resize, resizeSlots, Slot.fresh]

theorem length_names_resize (b : InputBank) (sizes : Tally) (kind : Kind) :
    ((b.resize sizes).names kind).length = sizes.get kind := by
  simp only [names_resize, List.length_append, List.length_take, List.length_replicate]
  omega

theorem value_eq_none_of_slot? {b : InputBank} {h : Handle} (hslot : b.slot? h = none) :
    b.value h = none := by
  rw [value, hslot]
  rfl

/-- A slot that is still there keeps its value, and one that is added has none. -/
theorem value_resize (b : InputBank) (sizes : Tally) (h : Handle) :
    (b.resize sizes).value h = if h.index < sizes.get h.kind then b.value h else none := by
  have hslot : (b.resize sizes).slot? h
      = if h.index < sizes.get h.kind then some ((b.slot? h).getD .fresh) else none := by
    rw [slot?, resize, PerKind.get_ofFn, resizeSlots, getElem?_take_append_replicate]
    rfl
  rw [value, hslot]
  split
  · rw [value]
    cases b.slot? h <;> rfl
  · rfl

theorem value_empty (h : Handle) : empty.value h = none := by
  apply value_eq_none_of_slot?
  rw [slot?]
  cases h.kind <;> rfl

theorem kind_of_value {b : InputBank} {h : Handle} {v : Value} (hv : b.value h = some v) :
    v.kind = h.kind := by
  obtain ⟨slot, _, hvalue⟩ := Option.bind_eq_some_iff.mp hv
  obtain ⟨c, _, rfl⟩ := Option.map_eq_some_iff.mp hvalue
  exact Value.kind_ofContent h.kind c

theorem put?_of_value {b : InputBank} {h : Handle} {v : Value} (hv : b.value h = some v) :
    b.put? h v = some b := by
  obtain ⟨slot, hslot, hvalue⟩ := Option.bind_eq_some_iff.mp hv
  obtain ⟨c, hc, rfl⟩ := Option.map_eq_some_iff.mp hvalue
  have hsame : (b.get h.kind).modify h.index (fun slot => { slot with value := some c }) = b.get h.kind := by
    apply modify_eq_self
    intro a ha
    obtain rfl := Option.some.inj (hslot.symm.trans ha)
    rw [← hc]
  have hbank : (b.modify h fun slot => { slot with value := some c }) = b := by
    apply PerKind.ext_get
    intro kind
    by_cases hkind : kind = h.kind
    · subst hkind
      rw [get_modify_self, hsame]
    · rw [get_modify_of_ne b h _ hkind]
  rw [put?, Value.content?_ofContent, hslot]
  exact congrArg some hbank

/-- A change of a bank: other sizes, a value for a slot, or none. -/
inductive Change where
  | resize (sizes : Tally)
  | put (h : Handle) (v : Value)
  | clear (h : Handle)

/-- A bank after a change; a value that does not fit its slot is not stored. -/
def apply (b : InputBank) : Change → InputBank
  | .resize sizes => b.resize sizes
  | .put h v => (b.put? h v).getD b
  | .clear h => b.clear h

/-! ### Reading by name -/

/-- No two slots have the same name. -/
def Unambiguous (b : InputBank) : Prop :=
  ∀ h other x, b.name h = some x → b.name other = some x → h = other

theorem name_of_find? {b : InputBank} {x : Text} {h : Handle} (hfind : b.find? x = some h) :
    b.name h = some x := by
  obtain ⟨kind, _, hkind⟩ := List.exists_of_findSome?_eq_some hfind
  obtain ⟨i, hi, rfl⟩ := Option.map_eq_some_iff.mp hkind
  obtain ⟨hlt, hname, _⟩ := List.findIdx?_eq_some_iff_getElem.mp hi
  simpa [name, slot?, hlt] using hname

theorem find?_eq_none_iff {b : InputBank} {x : Text} :
    b.find? x = none ↔ ∀ h, b.name h ≠ some x := by
  constructor
  · intro hfind h hname
    have hkind := List.findSome?_eq_none_iff.mp hfind h.kind (Kind.mem_all h.kind)
    rw [Option.map_eq_none_iff, List.findIdx?_eq_none_iff] at hkind
    obtain ⟨slot, hslot, hx⟩ := Option.map_eq_some_iff.mp hname
    simpa [hx] using hkind slot (List.mem_of_getElem? hslot)
  · intro hnone
    cases hfind : b.find? x with
    | none => rfl
    | some h => exact absurd (name_of_find? hfind) (hnone h)

theorem Unambiguous.find?_eq_some_iff {b : InputBank} (hb : b.Unambiguous) {x : Text} {h : Handle} :
    b.find? x = some h ↔ b.name h = some x := by
  refine ⟨name_of_find?, fun hname => ?_⟩
  cases hfind : b.find? x with
  | none => exact absurd hname (find?_eq_none_iff.mp hfind h)
  | some other => rw [hb h other x hname (name_of_find? hfind)]

/-! ### All handles -/

theorem isSome_slot?_iff {b : InputBank} {h : Handle} :
    (b.slot? h).isSome ↔ h.index < b.counts.get h.kind := by
  rw [slot?, isSome_getElem?, counts, PerKind.get_ofFn]

theorem mem_handles_iff_slot? {b : InputBank} {h : Handle} : h ∈ b.handles ↔ (b.slot? h).isSome := by
  rw [slot?, isSome_getElem?, handles, List.mem_flatMap]
  constructor
  · rintro ⟨kind, _, hkind⟩
    obtain ⟨index, hindex, rfl⟩ := List.mem_map.mp hkind
    exact List.mem_range.mp hindex
  · intro hindex
    exact ⟨h.kind, Kind.mem_all h.kind, List.mem_map.mpr ⟨h.index, List.mem_range.mpr hindex, rfl⟩⟩

theorem mem_handles {b : InputBank} {h : Handle} : h ∈ b.handles ↔ ∃ x, b.name h = some x := by
  rw [mem_handles_iff_slot?, ← Option.isSome_iff_exists, name, Option.isSome_map]

theorem pairwise_handles (b : InputBank) : b.handles.Pairwise Handle.Precedes := by
  rw [handles, List.pairwise_flatMap]
  constructor
  · intro kind _
    rw [List.pairwise_map]
    apply List.pairwise_lt_range.imp
    intro i j hij
    exact .inr ⟨rfl, hij⟩
  · have hkinds : Kind.all.Pairwise fun kind other => Kind.all.idxOf kind < Kind.all.idxOf other := by
      decide
    apply hkinds.imp
    intro kind other hlt h hkind h' hother
    obtain ⟨i, _, rfl⟩ := List.mem_map.mp hkind
    obtain ⟨j, _, rfl⟩ := List.mem_map.mp hother
    exact .inl hlt

theorem nodup_handles (b : InputBank) : b.handles.Nodup := by
  apply b.pairwise_handles.imp
  rintro h other (hkind | ⟨_, hindex⟩) rfl
  · exact Nat.lt_irrefl _ hkind
  · exact Nat.lt_irrefl _ hindex

/-- Lists names by kind, each with its handle. -/
def listing (names : Kind → List Text) : List (Handle × Text) :=
  Kind.all.flatMap fun kind => (names kind).mapIdx fun index name => (⟨kind, index⟩, name)

private theorem filterMap_range_length {β : Type} (l : List Text) (g : Nat → Text → β) :
    (List.range l.length).filterMap (fun i => l[i]?.map (g i)) = l.mapIdx g := by
  induction l generalizing g with
  | nil => rfl
  | cons x l ih =>
      rw [List.length_cons, List.range_succ_eq_map, List.filterMap_cons, List.filterMap_map,
        List.mapIdx_cons]
      exact congrArg (g 0 x :: ·) (ih fun i => g (i + 1))

theorem filterMap_handles (b : InputBank) :
    (b.handles.filterMap fun h => (b.name h).map fun name => (h, name)) = listing b.names := by
  rw [handles, listing, List.filterMap_flatMap]
  congr 1
  funext kind
  rw [← filterMap_range_length, List.filterMap_map]
  simp [names, Function.comp_def, name, slot?]

end InputBank

end TypedTemplate
